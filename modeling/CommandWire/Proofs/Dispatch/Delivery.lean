import CommandWire.Proofs.Command.Library
import CommandWire.Proofs.Command.ListIndexes
import CommandWire.Proofs.Dispatch.Outcome
import CommandWire.Proofs.Dispatch.Ownership
import CommandWire.Proofs.Message.Truncation

namespace CommandWire

/-!
# From the processor to the client

The result of a command is written, marked, put into a reply and sent; the client reads the header,
the reply, its documents and the result.  This file follows an answer all the way.

* `Reply.ReadsAs` — a message from which some documents are read.
* `Reply.readsAs_of_encode` — a reply that is encoded is read as its documents.
* `Dispatcher.readsAs_of_encode_commandReply` — the answer to a command arrives.
* `Dispatcher.delivers_indexes` — the indexes of a collection arrive, all of them or none.
-/

/-! ### Messages -/

namespace Reply

/-- The message is read as a reply with these documents and no others. -/
def ReadsAs (message : List UInt8) (documents : List Document) : Prop :=
  ∃ header decoded, Header.decode message = .ok header ∧
    decode header (message.drop Header.size) = .ok decoded ∧
    decoded.documents = .ok (documents.map .ok)

/-- A reply that is encoded is read as its documents, with sorted options. -/
theorem readsAs_of_encode {r : Reply} {requestId : Int32} {bytes : List UInt8}
    {documents : List Document} (hdistinct : r.source.Distinct)
    (hitems : r.source.items = documents.map .ok) (h : r.encode requestId = .ok bytes) :
    ReadsAs bytes (documents.map Document.sortOptions) := by
  obtain ⟨hlive, hmessage⟩ := encode_eq_ok h
  obtain ⟨_, _, _, _, _, _, hbytes⟩ := message_eq_ok hmessage
  obtain ⟨carried, encoded, hcarries⟩ := exists_carries hdistinct h
  -- the documents that the message carries are those of the reply.
  have hcarried : carried = documents := by
    have heq := hcarries.documents_eq
    rw [hlive, hitems] at heq
    exact ((List.map_inj_right fun _ _ => Except.ok.inj).1 (Except.ok.inj heq)).symm
  subst hcarried
  let header := r.headerOf requestId bytes.length
  refine ⟨header, r.received header encoded.flatten, ?_, ?_, ?_⟩
  · rw [hbytes]
    exact Header.decode_encode_append _ _
  · rw [hcarries.body_eq]
    exact decode_body r _ _ rfl
  · show Except.ok (Batch.items encoded.flatten) = _
    rw [Batch.items_flatten hcarries.written hcarries.distinct hcarries.fitsWord_length,
      List.map_map]
    rfl

end Reply

/-! ### Answers -/

/-- The answer to a command that failed has no name twice. -/
theorem distinct_errorDocument (e : ProtocolError) : Document.Distinct (errorDocument e) :=
  Document.distinct_put codeNameField (Document.distinct_put codeField
    (Document.distinct_put errmsgField (Document.distinct_put okField trivial trivial) trivial)
    trivial) trivial

namespace Dispatcher

variable {σ : Type} {d : Dispatcher σ} {request : Request} {query : Query} {context : DataContext}
  {s : Session σ}

/-- The answer to a command arrives as one document. -/
theorem readsAs_of_encode_commandReply {requestId : Int32} {bytes : List UInt8}
    (hdistinct : Document.Distinct (d.handleCommand request query.query s).1)
    (h : (d.commandReply request query context s).encode requestId = .ok bytes) :
    Reply.ReadsAs bytes [Document.sortOptions (d.handleCommand request query.query s).1] := by
  have hsource : (d.commandReply request query context s).source.Distinct := hdistinct
  have hitems : (d.commandReply request query context s).source.items =
      [(d.handleCommand request query.query s).1].map .ok := rfl
  exact Reply.readsAs_of_encode hsource hitems h

/-! ### The indexes of a collection -/

variable {argument : ListIndexes.Argument} {cursor : Cursor Index} {state : σ}

/-- The answer to `listIndexes` is what the command writes for the cursor that was found. -/
theorem handleCommand_listIndexes {document : Document}
    (hfind : d.library.find document = .ok ListIndexes.command.registered)
    (hread : ListIndexes.readArgument document = .ok argument)
    (hexecute : d.processor.execute request ListIndexes.command.registered
      (.indexRequest argument) s.processor = (.ok (.indexCursor cursor), state)) :
    (d.handleCommand request document s).1 =
      match ListIndexes.writeResult cursor with
      | .ok written => okDocument written
      | .error e => errorDocument e := by
  have hargument : ListIndexes.command.registered.readArgument document =
      .ok (.indexRequest argument) := readArgument_registered ListIndexes.command hread
  have hresult : ListIndexes.command.registered.writeResult (.indexCursor cursor) =
      ListIndexes.writeResult cursor := writeResult_registered ListIndexes.command rfl
  have hanswer := handleCommand_of_writeResult hfind hargument hexecute
  rw [hresult] at hanswer
  exact hanswer

/-- What a client reads from the answer to `listIndexes`: all indexes, or an error that names the
    first one without a key. -/
structure DeliversIndexes (bytes : List UInt8) (cursor : Cursor Index) : Prop where
  /-- With a key for every index there is a result, marked as successful, and it is the cursor with
      the options of its regular expressions sorted. -/
  result : (∀ x ∈ cursor.firstBatch, x.key ≠ []) → ∃ document, Reply.ReadsAs bytes [document] ∧
    document.get? "ok" = some (.double Binary64.one) ∧
    ListIndexes.command.readResult document = .ok (cursor.map Index.sortOptions)
  /-- An index without a key makes the whole answer an error, which names the first one. -/
  failure : (∃ x ∈ cursor.firstBatch, x.key = []) →
    ∃ before x after, cursor.firstBatch = before ++ x :: after ∧ (∀ y ∈ before, y.key ≠ []) ∧
      x.key = [] ∧ Reply.ReadsAs bytes [[("ok", .double Binary64.zero),
        ("errmsg", .string ("error while marshalling a result: " ++
          ("index '" ++ x.name ++ "' has an empty key pattern"))),
        ("code", .int32 1), ("codeName", .string "InternalError")]]

/-- **Indexes.** The cursor that the processor gives for `listIndexes` arrives at the client as it
    is, except that options of regular expressions are sorted; or, if one of its indexes has no key,
    an error arrives and no index does. -/
theorem delivers_indexes (d : Dispatcher σ) (request : Request) (query : Query)
    (context : DataContext) (s : Session σ) {argument : ListIndexes.Argument}
    {cursor : Cursor Index} {state : σ} (hcommand : query.isCommand = true)
    (hfind : d.library.find query.query = .ok ListIndexes.command.registered)
    (hread : ListIndexes.readArgument query.query = .ok argument)
    (hexecute : d.processor.execute request ListIndexes.command.registered
      (.indexRequest argument) s.processor = (.ok (.indexCursor cursor), state))
    (hbuilt : ∀ x ∈ cursor.firstBatch, x.Built) :
    ∃ reply, (d.handleQuery request query context s).1.reply = .ok reply ∧
      ∀ requestId bytes, reply.encode requestId = .ok bytes → DeliversIndexes bytes cursor := by
  have hproper : ∀ x ∈ cursor.firstBatch, x.Proper := fun x hx => (hbuilt x hx).proper
  have hanswer := handleCommand_listIndexes hfind hread hexecute
  refine ⟨_, (replies_of_isCommand hcommand).reply_eq, fun requestId bytes hbytes => ⟨?_, ?_⟩⟩
  · intro hkeys
    obtain ⟨written, hwritten⟩ := ListIndexes.exists_writeResult_eq_ok hkeys
    simp only [hwritten] at hanswer
    have hdistinct : Document.Distinct (okDocument written) :=
      Document.distinct_put okField (ListIndexes.distinct_writeResult hproper hwritten) trivial
    have hreads := readsAs_of_encode_commandReply (hanswer ▸ hdistinct) hbytes
    rw [hanswer, okDocument, Document.sortOptions_put _ okField Binary64.one Binary64.one rfl]
      at hreads
    refine ⟨_, hreads, Document.get?_put_self _ okField Binary64.one, ?_⟩
    -- the mark is another field than that of the cursor.
    have hsorted : ∀ x ∈ (cursor.map Index.sortOptions).firstBatch, x.Proper := by
      intro x hx
      obtain ⟨y, hy, rfl⟩ := List.mem_map.1 hx
      exact (hproper y hy).sortOptions
    have hresult := ListIndexes.readResult_put okField Binary64.one (by decide) hsorted
      (ListIndexes.writeResult_sortOptions hwritten)
    show (ListIndexes.readResult _).toCoded = _
    rw [hresult]
    rfl
  · intro hkeyless
    -- writing stops at the first index without a key, and its error is all that is answered.
    obtain ⟨before, x, after, hbatch, hbefore, hx⟩ := ListIndexes.exists_first_keyless hkeyless
    refine ⟨before, x, after, hbatch, hbefore, hx, ?_⟩
    simp only [ListIndexes.writeResult_of_first_keyless hbatch hbefore hx] at hanswer
    have hdistinct := distinct_errorDocument
      (.unwritable (.badValue (Index.Fault.writtenWithoutKey x.name).message))
    have hreads := readsAs_of_encode_commandReply (hanswer ▸ hdistinct) hbytes
    rw [hanswer] at hreads
    exact hreads

/-! ### Two indexes on their way -/

/-- The standard commands before a processor that finds one cursor for every request. -/
def listing (cursor : Cursor Index) : Dispatcher Unit where
  library := .standard
  processor :=
    { execute := fun _ _ _ state => (.ok (.indexCursor cursor), state)
      query := fun _ _ state => (.error (.commandNotSupported "query"), state) }
  diagnosticLimit := 10

/-- A cursor over two indexes, of which one has an option of its own. -/
def sampleCursor : Cursor Index where
  id := 77
  ns := "db.users"
  firstBatch :=
    [.plain "_id_" "db.users" [("_id", .int32 1)],
      ((Index.plain "name_1" "db.users" [("name", .int32 1)]).withUnique true).withOther "pattern"
        (.regex "^a" "i")]

/-- The query for the indexes of a collection. -/
def sampleQuery : Query :=
  ⟨0, ⟨"db", some "$cmd"⟩, 0, -1, [("listIndexes", .string "users")], none⟩

/-- The sample query is found as `listIndexes`, at its first name. -/
theorem finds_sampleQuery : (listing sampleCursor).library.Finds sampleQuery.query []
    "listIndexes" ListIndexes.command.registered where
  keys_eq := ⟨[], rfl⟩
  unknown := List.forall_mem_nil _
  found := by
    unfold CommandLibrary.findByName CommandLibrary.findToken
    exact List.find?_cons_of_pos (by decide +kernel)

/-- The indexes of the sample are made by setting options. -/
theorem built_sampleCursor : ∀ x ∈ sampleCursor.firstBatch, x.Built := by
  have hdistinct : ∀ name, Document.Distinct [(name, .int32 1)] :=
    fun name => ⟨List.not_mem_nil, trivial, trivial⟩
  rw [sampleCursor, List.forall_mem_cons, List.forall_mem_singleton]
  exact ⟨.plain _ _ (hdistinct _), .withOther (.withUnique (.plain _ _ (hdistinct _)) _) _ trivial⟩

/-- The answer that names both indexes. -/
def sampleAnswer : Document :=
  [("cursor", .document
      [("id", .int64 77), ("ns", .string "db.users"),
        ("firstBatch", .array
          [.document
            [("v", .int32 1), ("key", .document [("_id", .int32 1)]), ("name", .string "_id_"),
              ("ns", .string "db.users")],
          .document
            [("v", .int32 1), ("key", .document [("name", .int32 1)]), ("name", .string "name_1"),
              ("ns", .string "db.users"), ("unique", .boolean true),
              ("pattern", .regex "^a" "i")]])]),
    ("ok", .double Binary64.one)]

/-- The sample query is answered with the sample's indexes. -/
theorem handleCommand_sampleQuery :
    ((listing sampleCursor).handleCommand (.plain 1 42 "db") sampleQuery.query (.start ())).1 =
      sampleAnswer := by
  have hread : ListIndexes.readArgument sampleQuery.query = .ok ⟨"users", by decide⟩ := rfl
  rw [handleCommand_listIndexes finds_sampleQuery.find_eq hread rfl]
  rfl

/-- The answer to the sample query fits into a message. -/
theorem isOk_encode_sample : (((listing sampleCursor).commandReply (.plain 1 42 "db") sampleQuery
    .fresh (.start ())).encode 7).isOk = true := by
  rw [commandReply, handleCommand_sampleQuery]
  cbv

/-- The two indexes are sent, and they arrive. -/
theorem delivers_sampleCursor :
    sampleQuery.isCommand = true ∧
      (listing sampleCursor).library.find sampleQuery.query = .ok ListIndexes.command.registered ∧
      ListIndexes.readArgument sampleQuery.query = .ok ⟨"users", by decide⟩ ∧
      (∀ x ∈ sampleCursor.firstBatch, x.Built) ∧
      ∃ reply bytes,
        ((listing sampleCursor).handleQuery (.plain 1 42 "db") sampleQuery .fresh
          (.start ())).1.reply = .ok reply ∧
        reply.encode 7 = .ok bytes ∧ DeliversIndexes bytes sampleCursor := by
  have hcommand : sampleQuery.isCommand = true := by decide
  have hread : ListIndexes.readArgument sampleQuery.query = .ok ⟨"users", by decide⟩ := rfl
  refine ⟨hcommand, finds_sampleQuery.find_eq, hread, built_sampleCursor, ?_⟩
  obtain ⟨reply, hreply, hdelivers⟩ := delivers_indexes (listing sampleCursor) (.plain 1 42 "db")
    sampleQuery .fresh (.start ()) hcommand finds_sampleQuery.find_eq hread rfl built_sampleCursor
  -- the reply is the one that is known to be encoded.
  have hsame := hreply.symm.trans (replies_of_isCommand hcommand).reply_eq
  cases hsame
  cases hbytes : ((listing sampleCursor).commandReply (.plain 1 42 "db") sampleQuery .fresh
      (.start ())).encode 7 with
  | ok bytes => exact ⟨_, bytes, hreply, hbytes, hdelivers 7 bytes hbytes⟩
  | error e =>
    have hok := isOk_encode_sample
    rw [hbytes] at hok
    cases hok

end Dispatcher

end CommandWire
