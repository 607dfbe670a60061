import Mathlib.Data.List.Nodup
import RelayCollections.Collection
import RelayCollections.Proofs.Json.Writing

namespace RelayCollections

/-!
# Written collections are read back

Collections are written as JSON in one of two layouts. Nothing is lost in either: a reader
that keeps the order and the repeats of members recovers the list of collections from both
texts, whatever the names in it are.

* `Value.member?`, `Value.item?` — looking into a JSON value;
* `Descriptor.ofJson?`, `Collection.ofJson?`, `Collection.listOfJson?` — the way back from
  JSON values;
* `read_listToJson` — both texts lead back to the collections.
-/

/-! ### Looking into values -/

namespace Json.Value

/-- The value of a key of an object. Of members with one key the last counts. -/
def member? (v : Value) (key : String) : Option Value :=
  match v with
  | .object members => members.reverse.lookup key
  | _ => none

/-- An item of an array. -/
def item? (v : Value) (i : Nat) : Option Value :=
  match v with
  | .array items => items[i]?
  | _ => none

end Json.Value

open Json (Value)

/-! ### The way back -/

namespace Descriptor

/-- The base type written under a name, with a target if one is written. -/
def baseOfJson? (name : String) : Option Value → Option BaseType
  | some (.string target) =>
    if name = "Reference" then some (.reference (some target)) else none
  | some _ => none
  | none =>
    if name = "Reference" then some (.reference none)
    else (Storage.ofName? name).map .primitive

/-- A written flag: one that does not hold is absent. -/
def flagOfJson? : Option Value → Option Bool
  | some (.bool true) => some true
  | some _ => none
  | none => some false

/-- The descriptor that a JSON object stands for. -/
def ofJson? (v : Value) : Option Descriptor := do
  match v.member? "baseType" with
  | some (.string name) =>
    let base ← baseOfJson? name (v.member? "ref")
    let isList ← flagOfJson? (v.member? "isList")
    let required ← flagOfJson? (v.member? "required")
    let listRequired ← flagOfJson? (v.member? "listRequired")
    return { base, isList, required, listRequired }
  | _ => none

/-- A base type is recovered from its name and its target. -/
theorem baseOfJson?_name (base : BaseType) :
    baseOfJson? base.name (base.target?.map .string) = some base := by
  cases base with
  | primitive storage => cases storage <;> rfl
  | reference target => cases target <;> rfl

/-- A flag is recovered from its member. -/
theorem flagOfJson?_flag (holds : Bool) :
    flagOfJson? (if holds then some (.bool true) else none) = some holds := by
  cases holds <;> rfl

/-- The members of the JSON object of a descriptor. -/
theorem member?_toJson (d : Descriptor) :
    d.toJson.member? "baseType" = some (.string d.base.name)
      ∧ d.toJson.member? "ref" = d.base.target?.map .string
      ∧ d.toJson.member? "isList" = (if d.isList then some (.bool true) else none)
      ∧ d.toJson.member? "required" = (if d.required then some (.bool true) else none)
      ∧ d.toJson.member? "listRequired"
          = (if d.listRequired then some (.bool true) else none) := by
  unfold toJson
  -- Which members there are depends on the target and the flags alone.
  generalize d.base.target? = target
  generalize d.base.name = name
  cases target <;> cases d.isList <;> cases d.required <;> cases d.listRequired <;>
    exact ⟨rfl, rfl, rfl, rfl, rfl⟩

/-- A descriptor is recovered from its JSON object. -/
@[simp] theorem ofJson?_toJson (d : Descriptor) : ofJson? d.toJson = some d := by
  obtain ⟨hbase, href, hlist, hrequired, hlistRequired⟩ := member?_toJson d
  rw [ofJson?, hbase, href, hlist, hrequired, hlistRequired]
  simp only [baseOfJson?_name, flagOfJson?_flag, Option.bind_eq_bind, Option.bind_some,
    Option.pure_def]

end Descriptor

namespace Collection

/-- The stored fields of the members of a JSON object, in order. -/
def fieldsOfJson? (members : List (String × Value)) : Option (List (String × Descriptor)) :=
  members.mapM fun (name, value) => (Descriptor.ofJson? value).map fun d => (name, d)

/-- The collection that a JSON value stands for. -/
def ofJson? : Value → Option Collection
  | .array [.string name, .object members] => do
    return { name, fields := ← fieldsOfJson? members }
  | _ => none

/-- The collections that a JSON value stands for. -/
def listOfJson? : Value → Option (List Collection)
  | .array items => items.mapM ofJson?
  | _ => none

/-- A traversal that undoes a map recovers the list. -/
private theorem mapM_map_of_leftInverse {f : α → β} {g : β → Option α}
    (h : ∀ a, g (f a) = some a) (as : List α) : (as.map f).mapM g = some as := by
  induction as with
  | nil => rfl
  | cons a as ih => simp [h, ih]

/-- A collection is recovered from its JSON value. -/
@[simp] theorem ofJson?_toJson (c : Collection) : ofJson? c.toJson = some c := by
  have hfields : fieldsOfJson? (c.fields.map fun entry => (entry.1, entry.2.toJson))
      = some c.fields :=
    mapM_map_of_leftInverse (fun entry => by simp) c.fields
  show (fieldsOfJson? (c.fields.map fun entry => (entry.1, entry.2.toJson)) >>= fun fields =>
    some { name := c.name, fields }) = some c
  rw [hfields]
  rfl

/-- A list of collections is recovered from its JSON value. -/
@[simp] theorem listOfJson?_listToJson (cs : List Collection) :
    listOfJson? (listToJson cs) = some cs :=
  mapM_map_of_leftInverse ofJson?_toJson cs

/-- Where keys are distinct, the last member of a key is the first. -/
private theorem lookup_reverse_of_nodup {entries : List (String × β)}
    (h : (entries.map Prod.fst).Nodup) (key : String) :
    entries.reverse.lookup key = entries.lookup key := by
  induction entries with
  | nil => rfl
  | cons entry rest ih =>
    obtain ⟨k, b⟩ := entry
    rw [List.map_cons, List.nodup_cons] at h
    obtain ⟨hk, hrest⟩ := h
    rw [List.reverse_cons, List.lookup_append, ih hrest, List.lookup_cons]
    by_cases hkey : key = k
    · -- No later member has the key of this one.
      subst hkey
      have hnone : rest.lookup key = none := by
        rw [List.lookup_eq_none_iff]
        intro entry hentry
        rw [bne_iff_ne]
        rintro rfl
        exact hk (List.mem_map.2 ⟨entry, hentry, rfl⟩)
      simp [hnone]
    · have hne : (key == k) = false := beq_eq_false_iff_ne.2 hkey
      simp [hne, List.lookup_cons]

/-- The JSON object of the fields of a collection. -/
def fieldsToJson (c : Collection) : Value :=
  .object (c.fields.map fun (name, d) => (name, d.toJson))

/-- **Keys are field names.** Where field names are distinct, a key of the object of fields
    has a value iff a field has this name, and the value is that of the field. -/
theorem member?_fieldsToJson {c : Collection} (h : (c.fields.map Prod.fst).Nodup)
    (name : String) : c.fieldsToJson.member? name = (c.field? name).map Descriptor.toJson := by
  have hkeys : ((c.fields.map fun (name, d) => (name, d.toJson)).map Prod.fst).Nodup := by
    rw [List.map_map]
    exact h
  rw [fieldsToJson, Value.member?, lookup_reverse_of_nodup hkeys, field?]
  generalize c.fields = fields
  induction fields with
  | nil => rfl
  | cons entry rest ih =>
    rw [List.map_cons, List.lookup_cons, List.lookup_cons, ih]
    cases name == entry.1 <;> rfl

/-- The item of a collection is a pair of its name and the object of its fields. -/
theorem item?_listToJson {cs : List Collection} {i : Nat} {c : Collection}
    (h : cs[i]? = some c) :
    (listToJson cs).item? i = some (.array [.string c.name, c.fieldsToJson]) := by
  rw [listToJson, Value.item?, List.getElem?_map, h]
  rfl

/-- **Serialization loses nothing.** Both texts of a list of collections are JSON and are
    read as one value, from which the list is recovered; in it, the object of each
    collection with distinct field names answers a key as the collection answers a name.
    So different lists have different texts, in either layout. -/
theorem read_listToJson (cs : List Collection) :
    (Json.IsJson (listToJson cs).compact ∧ Json.IsJson (listToJson cs).indented)
      ∧ (∃ v, Json.readValue? (listToJson cs).compact = some v
        ∧ Json.readValue? (listToJson cs).indented = some v
        ∧ listOfJson? v = some cs
        ∧ ∀ i c, cs[i]? = some c → (c.fields.map Prod.fst).Nodup →
            ∃ fields, v.item? i = some (.array [.string c.name, fields])
              ∧ ∀ name, (fields.member? name).map Descriptor.ofJson?
                  = (c.field? name).map some)
      ∧ ∀ cs', cs ≠ cs' → (listToJson cs).compact ≠ (listToJson cs').compact
        ∧ (listToJson cs).indented ≠ (listToJson cs').indented := by
  have hcompact := fun cs => Json.spells_compact (listToJson cs)
  have hindented := fun cs => Json.spells_indented (listToJson cs)
  refine ⟨⟨Json.isJson_of_spells (hcompact cs), Json.isJson_of_spells (hindented cs)⟩, ?_, ?_⟩
  · refine ⟨listToJson cs, Json.readValue?_of_spells (hcompact cs),
      Json.readValue?_of_spells (hindented cs), listOfJson?_listToJson cs, ?_⟩
    intro i c hc hnodup
    refine ⟨c.fieldsToJson, item?_listToJson hc, fun name => ?_⟩
    rw [member?_fieldsToJson hnodup, Option.map_map]
    cases c.field? name with
    | none => rfl
    | some d => simp
  · intro cs' hne
    -- Equal texts would be read as one value, and that as one list.
    have hinj : ∀ write : Value → String,
        (∀ v, Json.readValue? (write v) = some v) →
        write (listToJson cs) ≠ write (listToJson cs') := by
      intro write hread htext
      have hvalue : listToJson cs = listToJson cs' :=
        Option.some.inj ((hread _).symm.trans ((congrArg _ htext).trans (hread _)))
      have hlist := congrArg listOfJson? hvalue
      rw [listOfJson?_listToJson, listOfJson?_listToJson] at hlist
      exact hne (Option.some.inj hlist)
    exact ⟨hinj Value.compact fun v => Json.readValue?_of_spells (Json.spells_compact v),
      hinj Value.indented fun v => Json.readValue?_of_spells (Json.spells_indented v)⟩

/-- Names that need escapes, an empty name, a repeated field name and no fields at all. -/
def awkward : List Collection := [
  { name := "quote \" and backslash \\", fields := [
    ("\x01\n", { base := .reference (some "\u00e9\t"), isList := true }),
    ("", .polymorphic)] },
  { name := "", fields := [
    ("twice", { base := .primitive .date, required := true }),
    ("twice", .primitive .number)] },
  { name := "Reference", fields := [] }]

/-- The awkward collections are read back from either text, and the fields of the first,
    whose names are distinct, are found under their names. -/
theorem read_listToJson_awkward :
    ∃ v fields, Json.readValue? (listToJson awkward).compact = some v
      ∧ Json.readValue? (listToJson awkward).indented = some v
      ∧ listOfJson? v = some awkward
      ∧ v.item? 0 = some (.array [.string "quote \" and backslash \\", fields])
      ∧ (fields.member? "").map Descriptor.ofJson? = some (some .polymorphic)
      ∧ (listToJson awkward).compact ≠ (listToJson []).compact := by
  obtain ⟨_, ⟨v, hcompact, hindented, hlist, hfields⟩, hdistinct⟩ := read_listToJson awkward
  obtain ⟨fields, hitem, hmember⟩ := hfields 0 _ rfl (by decide)
  exact ⟨v, fields, hcompact, hindented, hlist, hitem, hmember "",
    (hdistinct [] (by decide)).1⟩

end Collection

end RelayCollections
