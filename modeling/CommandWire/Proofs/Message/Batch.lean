import CommandWire.Proofs.Bson.Decoded
import CommandWire.Proofs.Message.Segment
import Mathlib.Data.List.Forall2

namespace CommandWire.Batch

/-!
# Batches of written documents

The octets of documents one after another are cut at the boundaries between the documents, because
each document begins with its own length.

* `Whole` — octets that begin with their own length; `whole_of_encode` and `whole_of_decode` say that
  those of a document do.
* `Whole.delimited`, `splits_flatten` — such octets are a segment of a batch, one after another.
* `Written` — documents and their octets.
* `items_flatten` — the documents of a batch of written documents are these documents.
-/

/-! ### Cutting -/

/-- Octets framed by their own length. -/
def Whole (bytes : List UInt8) : Prop :=
  ∃ content, bytes = Bson.frame content ∧ Bson.FitsWord bytes.length

/-- Octets that are framed are not empty. -/
theorem Whole.length_pos {bytes : List UInt8} (h : Whole bytes) : 0 < bytes.length := by
  obtain ⟨content, rfl, -⟩ := h
  rw [Bson.length_frame]
  omega

/-- **One document.** Octets that begin with their own length are a segment. -/
theorem Whole.delimited {bytes : List UInt8} (h : Whole bytes) : Delimited bytes := by
  obtain ⟨content, rfl, hfits⟩ := h
  rw [Bson.length_frame] at hfits
  refine ⟨Int32.ofNat (content.length + 5), ?_, ?_, ?_⟩
  · rw [Announces, Bson.frame, Bson.lengthOctets_eq hfits, List.append_assoc]
    exact List.prefix_append _ _
  · rw [hfits.toInt]
    omega
  · rw [hfits.toInt, Bson.length_frame]

/-- Two sequences of octets that begin with their own lengths, each with something after it, are the
    same only if their parts are. -/
theorem Whole.append_inj {bytes bytes' rest rest' : List UInt8} (h : Whole bytes)
    (h' : Whole bytes') (heq : bytes ++ rest = bytes' ++ rest') : bytes = bytes' ∧ rest = rest' := by
  have hchunk : chunk? (bytes ++ rest) = some (bytes, rest) :=
    chunk?_eq_some_iff.2 ⟨h.delimited, rfl⟩
  rw [chunk?_eq_some_iff.2 ⟨h'.delimited, heq⟩] at hchunk
  cases hchunk
  exact ⟨rfl, rfl⟩

/-- **Many documents.** The segments of a batch of documents are the documents. -/
theorem splits_flatten {encoded : List (List UInt8)} (h : ∀ bytes ∈ encoded, Whole bytes) :
    Splits encoded.flatten encoded [] where
  eq_append := (List.append_nil _).symm
  delimited := fun bytes hbytes => (h bytes hbytes).delimited
  not_opens := not_opens_nil

/-! ### Written documents -/

/-- The second sequence holds the octets of the documents of the first. -/
def Written : List Document → List (List UInt8) → Prop :=
  List.Forall₂ fun d bytes => Bson.encode d = some bytes

/-- The octets of a document begin with their length. -/
theorem whole_of_encode {d : Document} {bytes : List UInt8} (h : Bson.encode d = some bytes)
    (hfits : Bson.FitsWord bytes.length) : Whole bytes := by
  obtain ⟨content, -, rfl⟩ := Option.map_eq_some_iff.1 h
  exact ⟨content, rfl, hfits⟩

/-- The octets of a document that is read begin with their length. -/
theorem whole_of_decode {d : Document} {bytes : List UInt8} (h : Bson.decode bytes = some d) :
    Whole bytes := Bson.exists_frame_of_decode h

/-- Documents fit their lengths when the batch of them would. -/
theorem fitsWord_of_mem {encoded : List (List UInt8)} (hfits : Bson.FitsWord encoded.flatten.length) :
    ∀ bytes ∈ encoded, Bson.FitsWord bytes.length :=
  fun _ hbytes => hfits.mono (List.sublist_flatten_of_mem hbytes).length_le

/-- The octets of written documents are framed when each of them fits its length. -/
theorem Written.forall_whole {documents : List Document} {encoded : List (List UInt8)}
    (h : Written documents encoded) (hfits : ∀ bytes ∈ encoded, Bson.FitsWord bytes.length) :
    ∀ bytes ∈ encoded, Whole bytes := by
  induction h with
  | nil => exact List.forall_mem_nil _
  | cons hencode _ ih =>
    rw [List.forall_mem_cons] at hfits
    exact List.forall_mem_cons.2 ⟨whole_of_encode hencode hfits.1, ih hfits.2⟩

/-- The octets of written documents are framed when the batch of them would fit a length. -/
theorem Written.whole {documents : List Document} {encoded : List (List UInt8)}
    (h : Written documents encoded) (hfits : Bson.FitsWord encoded.flatten.length) :
    ∀ bytes ∈ encoded, Whole bytes := h.forall_whole (fitsWord_of_mem hfits)

/-- A written document is read back, with its options sorted. -/
theorem Written.map_item {documents : List Document} {encoded : List (List UInt8)}
    (h : Written documents encoded) (hdistinct : ∀ d ∈ documents, Document.Distinct d)
    (hfits : ∀ bytes ∈ encoded, Bson.FitsWord bytes.length) :
    encoded.map item = documents.map fun d => .ok (Document.sortOptions d) := by
  induction h with
  | nil => rfl
  | cons hencode _ ih =>
    rw [List.forall_mem_cons] at hdistinct hfits
    rw [List.map_cons, List.map_cons, ih hdistinct.2 hfits.2, item,
      Bson.decode_encode hdistinct.1 hencode hfits.1]

/-- **Round trip.** The documents of a batch are those that were written into it, in order: none is
    lost, none is added and none is in error. -/
theorem items_flatten {documents : List Document} {encoded : List (List UInt8)}
    (h : Written documents encoded) (hdistinct : ∀ d ∈ documents, Document.Distinct d)
    (hfits : Bson.FitsWord encoded.flatten.length) :
    items encoded.flatten = documents.map fun d => .ok (Document.sortOptions d) := by
  rw [(splits_flatten (h.whole hfits)).items_eq, h.map_item hdistinct (fitsWord_of_mem hfits),
    remainder, if_pos rfl, List.append_nil]

end CommandWire.Batch
