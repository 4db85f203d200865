import CommandWire.Proofs.Index

namespace CommandWire.Index

/-!
# Indexes that are set up option by option

An index starts without options and is given some, one after another.  The last setting of an option
decides; an option that has a field of its own cannot be set by name.  However an index has been set
up, or if it has been read, the other options stay apart from the fields, and so it can be written
and read back.

* `Index.Setting`, `Index.configured` — one setting, and an index after many.
* `Index.sets_set`, `Index.other_set` — what one setting leaves.
* `Index.configured_eq_last`, `Index.other_configured` — what a run of settings leaves.
* `Index.Separate.set`, `Index.Separate.configured` — the other options stay apart from the fields.
* `Index.Restored` — an index that is written and read back, or refused because it has no key.
* `Index.configured_restored` — every index that is set up, and every index that is read.
-/

/-! ### Settings -/

/-- One option that is set. -/
inductive Setting where
  | version (n : Int32)
  | unique (b : Bool)
  | sparse (b : Bool)
  | background (b : Bool)
  | expireAfterSeconds (seconds : Int64)
  | other (name : String) (value : Value)

namespace Setting

/-- The version that a setting gives, if it gives one. -/
def version? : Setting → Option Int32
  | version n => some n
  | _ => none

/-- Whether keys are to be unique, if the setting says so. -/
def unique? : Setting → Option Bool
  | unique b => some b
  | _ => none

/-- Whether the index is to be sparse, if the setting says so. -/
def sparse? : Setting → Option Bool
  | sparse b => some b
  | _ => none

/-- Whether the index is to be built in the background, if the setting says so. -/
def background? : Setting → Option Bool
  | background b => some b
  | _ => none

/-- When the index is to forget documents, if the setting says so. -/
def expiry? : Setting → Option (Option Int64)
  | expireAfterSeconds seconds => some (some seconds)
  | _ => none

/-- The name and the value of an option that has no field of its own. -/
def other? : Setting → Option (String × Value)
  | other name value => if name ∈ knownNames then none else some (name, value)
  | _ => none

end Setting

/-- Sets one option. -/
def set (x : Index) : Setting → Index
  | .version n => x.withVersion n
  | .unique b => x.withUnique b
  | .sparse b => x.withSparse b
  | .background b => x.withBackground b
  | .expireAfterSeconds seconds => x.withExpireAfterSeconds seconds
  | .other name value => x.withOther name value

/-- Sets some options, one after another. -/
def configured (x : Index) (settings : List Setting) : Index := settings.foldl set x

/-- What was given last, or else what was there before. -/
def last {α : Type} (given? : Setting → Option α) (before : α) (settings : List Setting) : α :=
  (settings.filterMap given?).getLastD before

/-! ### What settings leave -/

/-- The fields after one setting: what it gives, or else what was there. -/
structure Sets (x : Index) (setting : Setting) (y : Index) : Prop where
  name_eq : y.name = x.name
  ns_eq : y.ns = x.ns
  key_eq : y.key = x.key
  version_eq : y.version = setting.version?.getD x.version
  unique_eq : y.unique = setting.unique?.getD x.unique
  sparse_eq : y.sparse = setting.sparse?.getD x.sparse
  background_eq : y.background = setting.background?.getD x.background
  expireAfterSeconds_eq : y.expireAfterSeconds = setting.expiry?.getD x.expireAfterSeconds

/-- **One setting.** An option that is set by name leaves all fields alone, its own among them. -/
theorem sets_set (x : Index) (setting : Setting) : Sets x setting (x.set setting) := by
  cases setting with
  | other name value =>
    rw [set, withOther]
    split <;> exact ⟨rfl, rfl, rfl, rfl, rfl, rfl, rfl, rfl⟩
  | version | unique | sparse | background | expireAfterSeconds =>
    exact ⟨rfl, rfl, rfl, rfl, rfl, rfl, rfl, rfl⟩

/-- **Last setting.** Where one setting leaves what it gives or else what was there, a run of settings
    leaves what was given last. -/
theorem configured_eq_last {α : Type} (get : Index → α) (given? : Setting → Option α)
    (hstep : ∀ x setting, get (x.set setting) = (given? setting).getD (get x)) (x : Index)
    (settings : List Setting) : get (x.configured settings) = last given? (get x) settings := by
  induction settings generalizing x with
  | nil => rfl
  | cons setting rest ih =>
    have hrest : get ((x.set setting).configured rest) = last given? (get (x.set setting)) rest :=
      ih (x.set setting)
    rw [hstep] at hrest
    rw [last, List.filterMap_cons]
    cases hgiven : given? setting with
    | none =>
      rw [hgiven] at hrest
      exact hrest
    | some a =>
      rw [hgiven] at hrest
      rw [List.getLastD_cons]
      exact hrest

/-- Settings leave alone what none of them gives. -/
theorem configured_eq_self {α : Type} (get : Index → α)
    (hstep : ∀ x setting, get (x.set setting) = get x) (x : Index) (settings : List Setting) :
    get (x.configured settings) = get x := by
  rw [configured_eq_last get (fun _ => none) hstep, last, List.filterMap_none]
  rfl

/-- One setting by name makes a difference only if the name has no field of its own. -/
theorem other_set (x : Index) (setting : Setting) :
    (x.set setting).other =
      setting.other?.toList.foldl (fun d p => Document.insert d p.1 p.2) x.other := by
  cases setting with
  | other name value =>
    rw [set, withOther, Setting.other?]
    split <;> rfl
  | _ => rfl

/-- **Options by name.** They are inserted into those that were there, in the order of the
    settings. -/
theorem other_configured (x : Index) (settings : List Setting) :
    (x.configured settings).other =
      (settings.filterMap Setting.other?).foldl (fun d p => Document.insert d p.1 p.2) x.other := by
  induction settings generalizing x with
  | nil => rfl
  | cons setting rest ih =>
    have hrest := ih (x.set setting)
    rw [other_set] at hrest
    rw [List.filterMap_cons]
    cases hother : setting.other? <;> rw [hother] at hrest <;> exact hrest

/-! ### Fields and other options -/

/-- A plain index has no other options. -/
theorem separate_plain (name ns : String) (key : Document) : (plain name ns key).Separate :=
  ⟨List.nodup_nil, List.forall_mem_nil _⟩

/-- **One setting.** The other options stay apart from the fields. -/
theorem Separate.set {x : Index} (h : x.Separate) (setting : Setting) :
    (x.set setting).Separate := by
  cases setting with
  | other name value => exact h.withOther name value
  | version | unique | sparse | background | expireAfterSeconds =>
    exact ⟨h.other_nodup, h.other_unknown⟩

/-- Settings keep the other options apart from the fields. -/
theorem Separate.configured {x : Index} (h : x.Separate) (settings : List Setting) :
    (x.configured settings).Separate := by
  induction settings generalizing x with
  | nil => exact h
  | cons setting rest ih => exact ih (h.set setting)

/-! ### Writing and reading -/

/-- The index that some settings make of one without options. -/
structure SetUp (name ns : String) (key : Document) (settings : List Setting) (x : Index) :
    Prop where
  name_eq : x.name = name
  ns_eq : x.ns = ns
  key_eq : x.key = key
  version_eq : x.version = last Setting.version? defaultVersion settings
  unique_eq : x.unique = last Setting.unique? false settings
  sparse_eq : x.sparse = last Setting.sparse? false settings
  background_eq : x.background = last Setting.background? false settings
  expireAfterSeconds_eq : x.expireAfterSeconds = last Setting.expiry? none settings
  other_eq : x.other = Document.ofPairs (settings.filterMap Setting.other?)
  other_unknown : ∀ option ∈ x.other.keys, option ∉ knownNames

/-- After any settings an index is set up as they say. -/
theorem setUp_configured (name ns : String) (key : Document) (settings : List Setting) :
    SetUp name ns key settings ((plain name ns key).configured settings) where
  name_eq := configured_eq_self Index.name (fun x s => (sets_set x s).name_eq) _ _
  ns_eq := configured_eq_self Index.ns (fun x s => (sets_set x s).ns_eq) _ _
  key_eq := configured_eq_self Index.key (fun x s => (sets_set x s).key_eq) _ _
  version_eq := configured_eq_last Index.version _ (fun x s => (sets_set x s).version_eq) _ _
  unique_eq := configured_eq_last Index.unique _ (fun x s => (sets_set x s).unique_eq) _ _
  sparse_eq := configured_eq_last Index.sparse _ (fun x s => (sets_set x s).sparse_eq) _ _
  background_eq := configured_eq_last Index.background _ (fun x s => (sets_set x s).background_eq) _ _
  expireAfterSeconds_eq :=
    configured_eq_last Index.expireAfterSeconds _
      (fun x s => (sets_set x s).expireAfterSeconds_eq) _ _
  other_eq := other_configured _ settings
  other_unknown := ((separate_plain name ns key).configured settings).other_unknown

/-- An index is refused if and only if it has no key.  Otherwise its document is its fields and then
    the other options as they stand, and it is read back from there. -/
structure Restored (x : Index) : Prop where
  refused : ∀ e, x.toValue = .error e ↔
    x.key = [] ∧ e = .badValue (Fault.writtenWithoutKey x.name).message
  restored : x.key ≠ [] → ∃ fields, (∀ option ∈ Document.keys fields, option ∈ knownNames) ∧
    x.toValue = .ok (.document (fields ++ x.other)) ∧
    ofValue (.document (fields ++ x.other)) = .ok x

/-- An index whose other options stand apart is restored from what is written for it. -/
theorem Separate.restored {x : Index} (h : x.Separate) : x.Restored where
  refused _ := toValue_eq_error_iff
  restored hkey := by
    have hwritten : x.toValue = .ok (.document (x.typedFields ++ x.other)) := by
      rw [toValue_eq_ok_iff, h.toDocument_eq_append]
      exact ⟨hkey, rfl⟩
    exact ⟨x.typedFields, known_typedFields x, hwritten, h.ofValue_toValue hwritten⟩

/-- **Round trip.** Whatever options an index is given, its fields hold what they were given last and
    no other option has the name of a field; it is refused only without a key, and else it is read
    back from what is written.  Every index that is read from some value can be written, and it is
    read back from there. -/
theorem configured_restored (name ns : String) (key : Document) (settings : List Setting) :
    SetUp name ns key settings ((plain name ns key).configured settings) ∧
    Restored ((plain name ns key).configured settings) ∧
    ∀ w y, ofValue w = .ok y → ∃ v, y.toValue = .ok v ∧ ofValue v = .ok y := by
  refine ⟨setUp_configured name ns key settings,
    ((separate_plain name ns key).configured settings).restored, fun w y hy => ?_⟩
  obtain ⟨d, rfl, hd⟩ := ofValue_eq_ok_iff.1 hy
  obtain ⟨fields, -, hwritten, hread⟩ := hd.separate.restored.restored hd.key_ne
  exact ⟨_, hwritten, hread⟩

/-- Options that have fields of their own are ignored, and one that is set twice keeps its place. -/
example :
    ((plain "email_1" "db.users" [("email", .int32 1)]).configured
      [.other "b" (.int32 1), .other "unique" (.boolean true), .other "a" .null,
        .other "b" (.int32 2)]).other = [("b", .int32 2), ("a", .null)] := by decide

end CommandWire.Index
