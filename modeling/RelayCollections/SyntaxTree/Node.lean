namespace RelayCollections.SyntaxTree

/-!
# Nodes of a syntax tree

The syntax tree of a schema document as other tools write it down: every node carries the
name of its kind, and nothing yet says that the kinds fit together.
-/

/-- A node that stands for a type: a name, a modifier, or something else. It has a kind,
    may have a name, and may have a type node inside. -/
inductive TypeNode where
  | bare (kind : String) (name : Option String)
  | around (kind : String) (name : Option String) (inner : TypeNode)
  deriving DecidableEq, Repr

/-- The name of a type node, whatever its kind. -/
def TypeNode.name? : TypeNode → Option String
  | .bare _ name => name
  | .around _ name _ => name

/-- A node that stands for a field. -/
structure FieldNode where
  name : String
  type : TypeNode
  deriving DecidableEq, Repr

/-- A node that stands for a definition. -/
structure DefinitionNode where
  kind : String
  name : Option String
  interfaces : List TypeNode
  fields : List FieldNode
  deriving DecidableEq, Repr

/-- The outermost node. -/
structure DocumentNode where
  kind : String
  definitions : List DefinitionNode
  deriving DecidableEq, Repr

end RelayCollections.SyntaxTree
