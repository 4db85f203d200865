import CommandWire.Message.Reply

namespace CommandWire

/-!
# The life of a reply

A reply is used for a while and then dropped or consumed.  Over that life its context is given back
once, in whatever order things happen, and nobody reads its documents afterwards.

* `Operation`, `Reply.observe`, `Reply.perform` — what can be done with a reply, what that gives and
  what it makes of the reply.
* `Ending`, `Reply.live` — a whole life: operations one after the other, and an end.
* `Reply.observe_of_valid`, `Reply.observe_of_not_valid` — an operation before and after the
  release.
* `Reply.after_eq` — the reply that some operations leave behind.
* `Reply.live_eq` — the context at the end of a life, and all that was seen on the way.
-/

/-- What can be done with a reply while it lives. -/
inductive Operation where
  | release
  | documents
  | encode (requestId : Int32)
  | display
deriving DecidableEq

/-- What an operation gives. -/
inductive Observation where
  | nothing
  | documents (result : Except ReplyError (List (Checked Document)))
  | octets (result : Except ReplyError (List UInt8))
  | text (text : String)

/-- How the life of a reply ends. -/
inductive Ending (α : Type) where
  | drop
  | consume (f : Reply → α)

/-- What an end gives: whatever the consumer makes of the reply, if there is one. -/
def Ending.result {α : Type} (ending : Ending α) (r : Reply) : Option α :=
  match ending with
  | .drop => none
  | .consume f => some (f r)

/-- What is left of a life. -/
structure Life (α : Type) where
  /-- What the operations gave, in order. -/
  observations : List Observation
  /-- What the consumer gave, if there was one. -/
  result : Option α
  context : DataContext

namespace Reply

variable {α : Type}

/-! ### Operations -/

/-- What an operation shows. -/
def observe (r : Reply) : Operation → Observation
  | .release => .nothing
  | .documents => .documents r.documents
  | .encode requestId => .octets (r.encode requestId)
  | .display => .text r.text

/-- The reply after an operation. -/
def perform (r : Reply) : Operation → Reply
  | .release => r.release
  | .documents => r
  | .encode _ => r
  | .display => r

/-- The reply after some operations. -/
def after (r : Reply) (ops : List Operation) : Reply := ops.foldl perform r

/-- What some operations give, one after the other. -/
def observations (r : Reply) : List Operation → List Observation
  | [] => []
  | op :: ops => r.observe op :: (r.perform op).observations ops

/-- The end of a reply: what a consumer gives, and the context after the reply has gone. -/
def finish (r : Reply) : Ending α → Option α × DataContext
  | .drop => (none, r.release.context)
  | .consume f => (some (r.consume f).1, (r.consume f).2)

/-- The life of a reply. -/
def live (r : Reply) (ops : List Operation) (ending : Ending α) : Life α :=
  ⟨r.observations ops, ((r.after ops).finish ending).1, ((r.after ops).finish ending).2⟩

/-! ### Operations before and after the release -/

/-- The text of a reply before its documents. -/
def heading (r : Reply) : String :=
  "ReplyMessage\x7bresponseTo=" ++ toString r.responseTo.toInt ++
    ", cursorNotFound=" ++ boolText r.flags.cursorNotFound ++
    ", queryFailure=" ++ boolText r.flags.queryFailure ++
    ", shardConfigStale=" ++ boolText r.flags.shardConfigStale ++
    ", awaitCapable=" ++ boolText r.flags.awaitCapable ++
    ", cursorId=" ++ toString r.cursorId.toInt ++
    ", startingFrom=" ++ toString r.startingFrom.toInt

/-- The text of a reply is its heading and the text of its documents. -/
theorem text_eq_heading (r : Reply) : r.text = r.heading ++ r.documentsText ++ "\x7d" := rfl

/-- The items that the text of a reply shows. -/
def shown (r : Reply) : List (Checked Document) :=
  r.source.items.take (min r.diagnosticLimit r.source.items.length)

/-- What an operation gives while the context is there. -/
def beforeRelease (r : Reply) : Operation → Observation
  | .release => .nothing
  | .documents => .documents (.ok r.source.items)
  | .encode requestId => .octets ((r.message requestId r.source.items).mapError .protocol)
  | .display =>
    .text (r.heading ++ (", documents (limited to " ++ toString r.diagnosticLimit ++ ")=[" ++
      ", ".intercalate (r.shown.map itemText) ++ "]") ++ "\x7d")

/-- What an operation gives once the context has been given back. -/
def afterRelease (r : Reply) : Operation → Observation
  | .release => .nothing
  | .documents => .documents (.error .released)
  | .encode _ => .octets (.error .released)
  | .display => .text (r.heading ++ ", documents=<unavailable>" ++ "\x7d")

/-- While the memory is there, the documents are those of the source. -/
theorem documents_of_valid {r : Reply} (h : r.context.valid = true) :
    r.documents = .ok r.source.items := by
  rw [documents, isReleased, h]
  rfl

/-- Once the memory is gone, no document is read. -/
theorem documents_of_not_valid {r : Reply} (h : r.context.valid = false) :
    r.documents = .error .released := by
  rw [documents, isReleased, h]
  rfl

/-- While the memory is there, a reply is encoded from its source. -/
theorem encode_of_valid {r : Reply} (requestId : Int32) (h : r.context.valid = true) :
    r.encode requestId = (r.message requestId r.source.items).mapError .protocol := by
  unfold encode
  rw [documents_of_valid h]
  rfl

/-- Once the memory is gone, nothing is encoded. -/
theorem encode_of_not_valid {r : Reply} (requestId : Int32) (h : r.context.valid = false) :
    r.encode requestId = .error .released := by
  unfold encode
  rw [documents_of_not_valid h]
  rfl

/-- While the context is there, every operation that reads documents reads all of them anew. -/
theorem observe_of_valid {r : Reply} (op : Operation) (h : r.context.valid = true) :
    r.observe op = r.beforeRelease op := by
  cases op with
  | release => rfl
  | documents => rw [observe, documents_of_valid h, beforeRelease]
  | encode requestId => rw [observe, encode_of_valid requestId h, beforeRelease]
  | display =>
    -- a limit beyond the count shows all items.
    have hshown : r.source.items.take r.diagnosticLimit = r.shown := by
      rw [shown, List.take_eq_take_iff]
      omega
    rw [observe, text_eq_heading, documentsText, documents_of_valid h, beforeRelease, ← hshown]

/-- Once the context has been given back, no operation reads documents. -/
theorem observe_of_not_valid {r : Reply} (op : Operation) (h : r.context.valid = false) :
    r.observe op = r.afterRelease op := by
  cases op with
  | release => rfl
  | documents => rw [observe, documents_of_not_valid h, afterRelease]
  | encode requestId => rw [observe, encode_of_not_valid requestId h, afterRelease]
  | display => rw [observe, text_eq_heading, documentsText, documents_of_not_valid h, afterRelease]

/-! ### Runs -/

/-- A second release does nothing. -/
theorem release_release (r : Reply) : r.release.release = r.release := by
  simp only [release, DataContext.releaseOnce_releaseOnce]

/-- **Step.** An operation leaves a released reply as it is. -/
theorem perform_release (r : Reply) (op : Operation) : r.release.perform op = r.release := by
  cases op with
  | release => exact release_release r
  | documents => rfl
  | encode => rfl
  | display => rfl

/-- Nothing happens to a reply that is released. -/
theorem after_release (r : Reply) (ops : List Operation) : r.release.after ops = r.release := by
  induction ops with
  | nil => rfl
  | cons op ops ih =>
    show (r.release.perform op).after ops = _
    rw [perform_release, ih]

/-- **Run.** Some operations leave a reply as it was, or released if one of them was a release. -/
theorem after_eq (r : Reply) (ops : List Operation) :
    r.after ops = if .release ∈ ops then r.release else r := by
  induction ops with
  | nil => rfl
  | cons op ops ih =>
    cases op with
    | release =>
      -- whatever comes after the release finds a released reply.
      show r.release.after ops = _
      rw [after_release, if_pos List.mem_cons_self]
    | documents =>
      show r.after ops = _
      simp [ih]
    | encode =>
      show r.after ops = _
      simp [ih]
    | display =>
      show r.after ops = _
      simp [ih]

/-- The context is there after some operations if it was before and none of them was a release. -/
theorem valid_after (r : Reply) (ops : List Operation) :
    (r.after ops).context.valid = true ↔ r.context.valid = true ∧ .release ∉ ops := by
  rw [after_eq]
  by_cases h : .release ∈ ops
  · rw [if_pos h]
    simp [release, h]
  · rw [if_neg h]
    simp [h]

/-- Operations change nothing that the later ones show, except whether the context is there. -/
theorem beforeRelease_after (r : Reply) (ops : List Operation) :
    (r.after ops).beforeRelease = r.beforeRelease := by
  rw [after_eq]
  split <;> rfl

/-- What a reply is after its release does not depend on when that was. -/
theorem afterRelease_after (r : Reply) (ops : List Operation) :
    (r.after ops).afterRelease = r.afterRelease := by
  rw [after_eq]
  split <;> rfl

/-- Each operation shows one thing. -/
theorem length_observations (r : Reply) (ops : List Operation) :
    (r.observations ops).length = ops.length := by
  induction ops generalizing r with
  | nil => rfl
  | cons op ops ih => rw [observations, List.length_cons, List.length_cons, ih]

/-- An operation of a run sees the reply that the operations before it have left. -/
theorem getElem?_observations (r : Reply) (ops : List Operation) (i : Nat) :
    (r.observations ops)[i]? = ops[i]?.map (r.after (ops.take i)).observe := by
  induction ops generalizing r i with
  | nil => rfl
  | cons op ops ih =>
    cases i with
    | zero => rfl
    | succ i =>
      rw [observations, List.getElem?_cons_succ, List.getElem?_cons_succ, List.take_succ_cons, ih]
      rfl

/-- What an operation of a run gives depends on the operations before it through one question only:
    whether the context is still there. -/
theorem getElem?_observations_eq (r : Reply) (ops : List Operation) (i : Nat) :
    (r.observations ops)[i]? = ops[i]?.map
      (if r.context.valid = true ∧ .release ∉ ops.take i then r.beforeRelease
        else r.afterRelease) := by
  rw [getElem?_observations]
  congr 1
  funext op
  -- the operations before the one in question decide which of its two forms it takes.
  by_cases h : r.context.valid = true ∧ .release ∉ ops.take i
  · rw [if_pos h, observe_of_valid op ((valid_after r _).2 h), beforeRelease_after]
  · have hvalid : (r.after (ops.take i)).context.valid = false := by
      rw [Bool.eq_false_iff, ne_eq, valid_after]
      exact h
    rw [if_neg h, observe_of_not_valid op hvalid, afterRelease_after]

/-! ### Whole lives -/

/-- The context of a reply that has gone was given back, unless it was not there to begin with. -/
theorem context_release (r : Reply) :
    r.release.context = ⟨false, r.context.releases + if r.context.valid then 1 else 0⟩ := by
  obtain ⟨_, _, _, _, _, ⟨valid, releases⟩, _⟩ := r
  cases valid <;> rfl

/-- An ending gives its own result. -/
theorem result_finish (r : Reply) (ending : Ending α) :
    (r.finish ending).1 = ending.result r := by
  cases ending <;> rfl

/-- Every ending releases the context. -/
theorem context_finish (r : Reply) (ending : Ending α) :
    (r.finish ending).2 = r.release.context := by
  cases ending <;> rfl

/-- However a reply was used before, its end leaves the same context. -/
theorem release_after (r : Reply) (ops : List Operation) : (r.after ops).release = r.release := by
  rw [after_eq]
  split
  · exact release_release r
  · rfl

/-- At the end of a life the context was given back, unless it was not there to begin with. -/
theorem context_live (r : Reply) (ops : List Operation) (ending : Ending α) :
    (r.live ops ending).context =
      ⟨false, r.context.releases + if r.context.valid then 1 else 0⟩ := by
  show ((r.after ops).finish ending).2 = _
  rw [context_finish, release_after, context_release]

/-- **Life of a reply.** At the end the context has been given back once more than at the beginning
    if it was there, and not at all if it was not, whatever a consumer gave.  Until the release
    every operation reads the same documents from the first one on, and the text shows as many of
    them as its limit allows.  After it there are no documents: the text says so, and any other
    documents in their place would have been seen as little. -/
theorem live_eq (r : Reply) (ops : List Operation) (ending : Ending α) :
    (r.live ops ending).context =
        ⟨false, r.context.releases + if r.context.valid then 1 else 0⟩ ∧
      (r.live ops ending).result = ending.result (if .release ∈ ops then r.release else r) ∧
      (r.live ops ending).observations.length = ops.length ∧
      (∀ i op, ops[i]? = some op → (r.context.valid = true ∧ .release ∉ ops.take i) →
        (r.live ops ending).observations[i]? = some (r.beforeRelease op)) ∧
      (∀ i op, ops[i]? = some op → ¬ (r.context.valid = true ∧ .release ∉ ops.take i) →
        (r.live ops ending).observations[i]? = some (r.afterRelease op) ∧
          ∀ source, ({ r with source }.live ops ending).observations[i]? =
            (r.live ops ending).observations[i]?) := by
  refine ⟨context_live r ops ending, ?_, length_observations r ops, ?_, ?_⟩
  · show ((r.after ops).finish ending).1 = _
    rw [result_finish, after_eq]
  · intro i op hop hlive
    show (r.observations ops)[i]? = _
    rw [getElem?_observations_eq, if_pos hlive, hop]
    rfl
  · intro i op hop hgone
    refine ⟨?_, ?_⟩
    · show (r.observations ops)[i]? = _
      rw [getElem?_observations_eq, if_neg hgone, hop]
      rfl
    · intro source
      show ({ r with source }.observations ops)[i]? = (r.observations ops)[i]?
      rw [getElem?_observations_eq, getElem?_observations_eq, if_neg hgone, if_neg hgone]
      rfl

end Reply

end CommandWire
