import RelayCollections.Json.Value
import RelayCollections.Storage

namespace RelayCollections

/-!
# Field descriptors

How a field is stored: a base type and three flags into which the modifiers of the
field's type are flattened.
-/

/-- What a field holds, or each of its elements. -/
inductive BaseType where
  | primitive (storage : Storage)
  /-- The identifier of another stored entity. The target is unknown where entities of
      several types may be meant. -/
  | reference (target : Option String)
  deriving DecidableEq, Repr

/-- How a field is stored. -/
structure Descriptor where
  base : BaseType
  /-- The field holds a list; lists of lists count as one. -/
  isList : Bool := false
  /-- The value, or each element of a list, is present. -/
  required : Bool := false
  /-- The list itself is present. -/
  listRequired : Bool := false
  deriving DecidableEq, Repr

/-- The name a base type is written under. -/
def BaseType.name : BaseType → String
  | .primitive storage => storage.name
  | .reference _ => "Reference"

/-- The target of a reference, if it is known. -/
def BaseType.target? : BaseType → Option String
  | .primitive _ => none
  | .reference target => target

/-- The base type holds identifiers. -/
def BaseType.isReference : BaseType → Bool
  | .primitive _ => false
  | .reference _ => true

namespace Descriptor

/-- An optional single value of a primitive. -/
def primitive (storage : Storage) : Descriptor := { base := .primitive storage }

/-- An optional single reference to a known type. -/
def reference (target : String) : Descriptor := { base := .reference (some target) }

/-- An optional single reference whose target is unknown. -/
def polymorphic : Descriptor := { base := .reference none }

/-- The descriptor of a list of what `d` describes. -/
def asList (d : Descriptor) : Descriptor := { d with isList := true }

/-- The descriptor with its value, or its elements, required. -/
def asRequired (d : Descriptor) : Descriptor := { d with required := true }

/-- The descriptor with its list required. -/
def asListRequired (d : Descriptor) : Descriptor := { d with listRequired := true }

/-- The member of a flag; a flag that does not hold has none. -/
def flagMember (key : String) (holds : Bool) : List (String × Json.Value) :=
  if holds then [(key, .bool true)] else []

/-- A descriptor as a JSON object. What is absent or false is left out. -/
def toJson (d : Descriptor) : Json.Value :=
  .object <|
    [("baseType", .string d.base.name)]
      ++ (d.base.target?.toList.map fun target => ("ref", .string target))
      ++ flagMember "isList" d.isList
      ++ flagMember "required" d.required
      ++ flagMember "listRequired" d.listRequired

end Descriptor

end RelayCollections
