import RelayCollections.Naming
import RelayCollections.TypeRef

namespace RelayCollections

/-!
# Schema documents

A document is its named type definitions in the order of their declaration. Names may
repeat. Enums, unions and input objects count by their name alone.
-/

/-- A field of an object or interface type. -/
structure Field where
  name : String
  type : TypeRef
  deriving DecidableEq, Repr

/-- An object type. -/
structure ObjectType where
  name : String
  /-- The names of the interfaces it implements. -/
  interfaces : List String
  fields : List Field
  deriving DecidableEq, Repr

/-- A named type definition. -/
inductive Definition where
  | scalar (name : String)
  | interface (name : String) (fields : List Field)
  | object (type : ObjectType)
  /-- An enum, a union or an input object. -/
  | other (name : String)
  deriving DecidableEq, Repr

/-- A schema document. -/
structure Document where
  definitions : List Definition
  deriving DecidableEq, Repr

/-! ### Roles of definitions -/

/-- A node implements the marker interface. -/
def ObjectType.isNode (type : ObjectType) : Bool :=
  type.interfaces.contains nodeInterface

namespace Definition

/-- The name under which a type is declared. -/
def name : Definition → String
  | scalar name => name
  | interface name _ => name
  | object type => type.name
  | other name => name

/-- The definition declares a scalar. -/
def isScalar : Definition → Bool
  | scalar _ => true
  | _ => false

/-- The definition declares an interface. -/
def isInterface : Definition → Bool
  | interface _ _ => true
  | _ => false

/-- The object type that a definition declares, if it is a node. -/
def node? : Definition → Option ObjectType
  | object type => if type.isNode then some type else none
  | _ => none

/-- The definition is named like a connection, whatever its kind: `UserConnection` is, and the
    bare name `Connection` is not. -/
def isConnection (d : Definition) : Bool :=
  hasBaseBefore "Connection" d.name

/-- The definition is named like an edge, whatever its kind. -/
def isEdge (d : Definition) : Bool :=
  hasBaseBefore "Edge" d.name

end Definition

end RelayCollections
