import RelayCollections.Descriptor

namespace RelayCollections

/-!
# Collections

A collection holds the entities of one node type. It lists the stored fields in the
order of their declaration; field names may repeat.
-/

/-- The stored form of a node type. -/
structure Collection where
  name : String
  fields : List (String × Descriptor)
  deriving DecidableEq, Repr

namespace Collection

/-- The first field of a name. -/
def field? (c : Collection) (name : String) : Option Descriptor :=
  c.fields.lookup name

/-- A collection as a pair of its name and an object of its fields. -/
def toJson (c : Collection) : Json.Value :=
  .array [.string c.name, .object (c.fields.map fun (name, d) => (name, d.toJson))]

/-- Collections as an array. -/
def listToJson (cs : List Collection) : Json.Value :=
  .array (cs.map toJson)

end Collection

end RelayCollections
