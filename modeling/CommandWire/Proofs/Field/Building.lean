import CommandWire.Field.Document
import CommandWire.Proofs.Field.Read
import CommandWire.Proofs.Value.Pairs

namespace CommandWire.Document

/-!
# Documents that are built step by step

A document is built from nothing.  Each step gives a field its content, or perhaps none, or gives a
value to a name that is known only then.  However often the names come again, each stands once, where
it came first, with the value that it was given last, and the steps that give it nothing leave it
where it is.

* `Step`, `perform`, `built` — one step, and the document that some steps build.
* `Step.pair?`, `given` — the pair that a step gives, and all that some steps give, in order.
* `built_eq_ofPairs` — nothing but these pairs decides what is built.
* `getElem?_insert_iff`, `getElem?_perform_iff`, `getElem?_built_append_iff` — pairs of other names,
  and their places, after an insertion, a step and any further steps.
* `BuiltFrom`, `Keeps` — the document that some pairs make up, and what more of them leave alone.
* `built_readable` — what a reader finds in a document that was built.
-/

/-! ### Steps -/

/-- What can be done with a document that is being built. -/
inductive Step : Type 1 where
  | put {α : Type} [FieldType α] (field : Field α) (x : α)
  | putOptional {α : Type} [FieldType α] (field : Field α) (x : Option α)
  | insert (name : String) (value : Value)

/-- The name and the value that a step gives, if it gives any. -/
def Step.pair? : Step → Option (String × Value)
  | @put _ _ field x => some (field.name, FieldType.toValue x)
  | @putOptional _ _ field x => x.map fun x => (field.name, FieldType.toValue x)
  | .insert name value => some (name, value)

/-- The document after a step. -/
def perform (d : Document) : Step → Document
  | @Step.put _ _ field x => d.put field x
  | @Step.putOptional _ _ field x => d.putOptional field x
  | .insert name value => d.insert name value

/-- The document that some steps build. -/
def built (steps : List Step) : Document := steps.foldl perform empty

/-- What some steps give, in their order. -/
def given (steps : List Step) : List (String × Value) := steps.filterMap Step.pair?

variable {d : Document} {steps : List Step} {step : Step} {name other : String} {value v : Value}
  {i : Nat}

/-- A step with content inserts its pair. -/
theorem perform_of_pair? (d : Document) (h : step.pair? = some (name, value)) :
    d.perform step = d.insert name value := by
  cases step with
  | put field x =>
    cases h
    rfl
  | putOptional field x =>
    cases x with
    | none => cases h
    | some x =>
      cases h
      rfl
  | insert key w =>
    cases h
    rfl

/-- A step without content does nothing. -/
theorem perform_of_pair?_eq_none (d : Document) (h : step.pair? = none) : d.perform step = d := by
  cases step with
  | put field x => cases h
  | putOptional field x =>
    cases x with
    | none => rfl
    | some x => cases h
  | insert key w => cases h

/-- The last step is performed on what the others built. -/
theorem built_concat (steps : List Step) (step : Step) :
    built (steps ++ [step]) = (built steps).perform step := List.foldl_append

/-- What steps give, they give one after another. -/
theorem given_append (steps more : List Step) : given (steps ++ more) = given steps ++ given more :=
  List.filterMap_append

/-- The first step gives its pair, if it has one. -/
theorem given_cons (step : Step) (more : List Step) :
    given (step :: more) = step.pair?.toList ++ given more := by
  rw [given, List.filterMap_cons]
  cases step.pair? <;> rfl

/-- **Building.** The document is made up of the pairs that the steps give. -/
theorem built_eq_ofPairs (steps : List Step) : built steps = ofPairs (given steps) := by
  induction steps using List.reverseRecOn with
  | nil => rfl
  | append_singleton steps step ih =>
    rw [built_concat, given_append, given_cons, ih]
    cases hpair : step.pair? with
    | none =>
      show _ = ofPairs (given steps ++ [])
      rw [perform_of_pair?_eq_none _ hpair, List.append_nil]
    | some p =>
      show _ = ofPairs (given steps ++ [p])
      rw [perform_of_pair? _ hpair, ofPairs_concat]

/-! ### What stays in its place -/

/-- An insertion leaves the pairs of other names, and adds none. -/
theorem getElem?_insert_iff (h : other ≠ name) :
    (d.insert name value)[i]? = some (other, v) ↔ d[i]? = some (other, v) := by
  induction d generalizing i with
  | nil => cases i <;> simp [h.symm]
  | cons p rest ih =>
    obtain ⟨k, w⟩ := p
    rw [insert]
    split
    · next hk =>
      -- the pair in front is replaced, and neither it nor the new one has the other name.
      subst hk
      cases i <;> simp [h.symm]
    · cases i with
      | zero => rfl
      | succ i =>
        rw [List.getElem?_cons_succ, List.getElem?_cons_succ]
        exact ih

/-- One step. -/
theorem getElem?_perform_iff (h : ∀ value, step.pair? ≠ some (other, value)) :
    (d.perform step)[i]? = some (other, v) ↔ d[i]? = some (other, v) := by
  cases hpair : step.pair? with
  | none => rw [perform_of_pair?_eq_none d hpair]
  | some p =>
    have hne : other ≠ p.1 := fun heq => h p.2 (by rw [hpair, heq])
    rw [perform_of_pair? d hpair, getElem?_insert_iff hne]

/-- Steps that do not give a name: the first does not, and the others do not. -/
theorem not_mem_keys_given_cons {more : List Step} (h : other ∉ keys (given (step :: more))) :
    (∀ value, step.pair? ≠ some (other, value)) ∧ other ∉ keys (given more) := by
  rw [given_cons, keys, List.map_append, List.mem_append, not_or] at h
  refine ⟨fun value hpair => h.1 ?_, h.2⟩
  rw [hpair]
  exact List.mem_singleton_self other

/-- **Places.** Further steps leave the pairs of a name that they give nothing, each in its place. -/
theorem getElem?_built_append_iff {more : List Step} (h : other ∉ keys (given more)) :
    (built (steps ++ more))[i]? = some (other, v) ↔ (built steps)[i]? = some (other, v) := by
  -- each of the further steps is made on what all steps before it have built.
  induction more generalizing steps with
  | nil => rw [List.append_nil]
  | cons step more ih =>
    obtain ⟨hstep, hmore⟩ := not_mem_keys_given_cons h
    rw [List.append_cons, ih hmore, built_concat, getElem?_perform_iff hstep]

/-- Where no name stands twice, the pairs of a name decide its value. -/
theorem get?_eq_of_getElem?_iff {e : Document} (hd : d.keys.Nodup) (he : e.keys.Nodup)
    (h : ∀ (i : Nat) v, e[i]? = some (name, v) ↔ d[i]? = some (name, v)) :
    e.get? name = d.get? name := by
  have hmem : ∀ v, (name, v) ∈ e ↔ (name, v) ∈ d := by
    intro v
    simp only [List.mem_iff_getElem?, h]
  -- with distinct names, the value of a name is the one that it is paired with.
  apply Option.ext
  intro v
  constructor
  · intro hv
    exact get?_of_mem hd ((hmem v).1 (mem_of_get? hv))
  · intro hv
    exact get?_of_mem he ((hmem v).2 (mem_of_get? hv))

/-! ### What a reader finds -/

/-- The document has each name that is among some pairs where it came first (`List.eraseDups` keeps the
    first of equal names) and with the value that came last, and it has no other name. -/
structure BuiltFrom (pairs : List (String × Value)) (d : Document) : Prop where
  nodup : d.keys.Nodup
  keys_eq : d.keys = (keys pairs).eraseDups
  value_eq_ok_iff : ∀ name v, d.value name = .ok v ↔
    ∃ before after, pairs = before ++ (name, v) :: after ∧ name ∉ keys after
  value_eq_error_iff : ∀ name e, d.value name = .error e ↔
    name ∉ keys pairs ∧ e = .noSuchKey name

/-- A name has the same place and the same value in two documents, or is in neither. -/
structure Keeps (name : String) (d e : Document) : Prop where
  getElem?_iff : ∀ (i : Nat) v, e[i]? = some (name, v) ↔ d[i]? = some (name, v)
  value_eq : e.value name = d.value name

/-- Pairs that are inserted one by one build such a document. -/
theorem builtFrom_ofPairs (pairs : List (String × Value)) : BuiltFrom pairs (ofPairs pairs) where
  nodup := nodup_keys_ofPairs pairs
  keys_eq := keys_ofPairs pairs
  value_eq_ok_iff name v := by
    rw [Document.value_eq_ok_iff, get?_ofPairs_eq_some_iff]
    exact mem_latest_iff
  value_eq_error_iff name e := by
    rw [Document.value_eq_error_iff, keys_ofPairs, List.mem_eraseDups]

/-- Later steps keep what stands under a name that they do not give. -/
theorem keeps_built_append {more : List Step} (h : other ∉ keys (given more)) :
    Keeps other (built steps) (built (steps ++ more)) := by
  have hnodup : ∀ all, (built all).keys.Nodup := by
    intro all
    rw [built_eq_ofPairs]
    exact nodup_keys_ofPairs _
  have hplaces : ∀ (i : Nat) v,
      (built (steps ++ more))[i]? = some (other, v) ↔ (built steps)[i]? = some (other, v) :=
    fun _ _ => getElem?_built_append_iff h
  exact ⟨hplaces, value_congr (get?_eq_of_getElem?_iff (hnodup _) (hnodup _) hplaces)⟩

/-- **Building and reading.** In a document that was built no name stands twice, the names stand in the
    order in which they were first given, a name is read as the value that it was given last, and as
    missing if and only if it was given none.  Further steps leave the value and the place of each
    name that they give nothing.  An optional field without content makes no difference, wherever the
    step is made. -/
theorem built_readable (steps : List Step) :
    BuiltFrom (given steps) (built steps) ∧
    (∀ (more : List Step) (other : String), other ∉ keys (given more) →
      Keeps other (built steps) (built (steps ++ more))) ∧
    ∀ (α : Type) [FieldType α] (field : Field α) (more : List Step),
      built (steps ++ .putOptional field none :: more) = built (steps ++ more) := by
  refine ⟨?_, fun _ _ => keeps_built_append, fun α _ field more => ?_⟩
  · rw [built_eq_ofPairs]
    exact builtFrom_ofPairs (given steps)
  · have hgiven : given (.putOptional field none :: more) = given more := given_cons _ more
    rw [built_eq_ofPairs, built_eq_ofPairs, given_append, given_append, hgiven]

/-- A name that is given again keeps its place. -/
example :
    built [.put (⟨"ns"⟩ : Field String) "db.c", .insert "count" (.int64 3),
      .putOptional (⟨"max"⟩ : Field Int32) none, .insert "_id_" (.int32 10),
      .put (⟨"count"⟩ : Field Int32) 4] =
    [("ns", .string "db.c"), ("count", .int32 4), ("_id_", .int32 10)] := by decide

end CommandWire.Document
