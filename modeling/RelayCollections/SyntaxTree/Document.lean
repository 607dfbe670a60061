import RelayCollections.Document
import RelayCollections.Run
import RelayCollections.SyntaxTree.Reading

namespace RelayCollections.SyntaxTree

/-!
# From syntax trees to documents

Which documents the nodes of a syntax tree stand for. Definitions without a name and
definitions of kinds that do not count are left out; a type node that makes no type is a
failure, in the order in which definitions, fields and type nodes stand.

* `TypeNode.toType` — the type of a type node, read from the outside in;
* `DefinitionNode.toDefinition` — the definition of a node, if it counts;
* `parseTree` — the document that a text holds.
-/

/-- The failure of a syntax tree. -/
def faulty (fault : TreeFault) : Except Failure α :=
  .error (.syntaxTree fault)

/-- The type that a type node stands for. -/
def TypeNode.toType : TypeNode → Except Failure TypeRef
  | .bare kind name =>
    if kind = "NamedType" then
      match name with
      | some name => .ok (.named name)
      | none => faulty .namelessType
    else if kind = "NonNullType" ∨ kind = "ListType" then faulty (.noInnerType kind)
    else .error (.unknownKind kind)
  | .around kind name inner =>
    if kind = "NamedType" then
      match name with
      | some name => .ok (.named name)
      | none => faulty .namelessType
    else if kind = "NonNullType" then .nonNull <$> inner.toType
    else if kind = "ListType" then .list <$> inner.toType
    else .error (.unknownKind kind)

/-- The fields that nodes stand for. -/
def toFields (nodes : List FieldNode) : Except Failure (List Field) :=
  nodes.mapM fun node => do return { name := node.name, type := ← node.type.toType }

/-- The definition that a node stands for, if it counts. Interfaces without a name are
    dropped from the list of an object type; their kinds do not matter. -/
def DefinitionNode.toDefinition (node : DefinitionNode) : Run (Option Definition) :=
  match node.name with
  | none => do
    .tell [.skippedUnnamed node.kind]
    return none
  | some name =>
    if node.kind = "ScalarTypeDefinition" then return some (.scalar name)
    else if node.kind = "InterfaceTypeDefinition" then do
      return some (.interface name (← .ofExcept (toFields node.fields)))
    else if node.kind = "ObjectTypeDefinition" then do
      let fields ← .ofExcept (toFields node.fields)
      return some (.object
        { name, interfaces := node.interfaces.filterMap TypeNode.name?, fields })
    else if node.kind = "EnumTypeDefinition" ∨ node.kind = "UnionTypeDefinition"
        ∨ node.kind = "InputObjectTypeDefinition" then
      return some (.other name)
    else do
      .tell [.skippedDefinition node.kind name]
      return none

/-- The document that nodes stand for. -/
def DocumentNode.toDocument (node : DocumentNode) : Run Document :=
  if node.kind = "Document" then do
    let definitions ← node.definitions.mapM DefinitionNode.toDefinition
    return { definitions := definitions.filterMap id }
  else .ofExcept (faulty (.notDocument node.kind))

/-- The document that a syntax tree in JSON stands for. -/
def parseTree (text : String) : Run Document := do
  let node ← .ofExcept ((DocumentNode.ofText text).mapError fun fault =>
    .syntaxTree (.text fault))
  let d ← node.toDocument
  .tell [.readTree d.definitions.length]
  return d

/-- A text that holds nodes is read as what they stand for. -/
theorem outcome_parseTree {text : String} {node : DocumentNode}
    (h : DocumentNode.ofText text = .ok node) :
    (parseTree text).outcome = node.toDocument.outcome := by
  rw [parseTree, Run.outcome_bind, Run.outcome_ofExcept, h]
  show (node.toDocument >>= _).outcome = _
  rw [Run.outcome_bind]
  cases node.toDocument.outcome <;> rfl

end RelayCollections.SyntaxTree
