namespace RelayCollections

/-!
# Storage primitives

The five primitives a scalar field can be stored as, and the built-in table from
scalar names to primitives.

* `Storage.name` / `Storage.ofName?` — the primitive's written name and its reader;
* `builtInStorage?` — the built-in scalars.
-/

/-- What a scalar field is stored as. -/
inductive Storage where
  | date
  /-- Identifiers of stored entities. -/
  | objectId
  | string
  | number
  | boolean
  deriving DecidableEq, Repr

namespace Storage

/-- The name a primitive is written under. -/
def name : Storage → String
  | .date => "Date"
  | .objectId => "ObjectId"
  | .string => "String"
  | .number => "Number"
  | .boolean => "Boolean"

/-- All primitives, in the order in which they are listed to the user. -/
def all : List Storage :=
  [.date, .objectId, .string, .number, .boolean]

/-- The primitive written as `text`. -/
def ofName? (text : String) : Option Storage :=
  all.find? fun s => s.name = text

/-- A primitive is found under its own name. -/
@[simp] theorem ofName?_name (s : Storage) : ofName? s.name = some s := by
  cases s <;> rfl

end Storage

/-! ### Built-in scalars -/

/-- The primitive of a built-in scalar. Both number types share one primitive. -/
def builtInStorage? : String → Option Storage
  | "Time" => some .date
  | "ID" => some .objectId
  | "String" => some .string
  | "Int" => some .number
  | "Float" => some .number
  | "Boolean" => some .boolean
  | _ => none

end RelayCollections
