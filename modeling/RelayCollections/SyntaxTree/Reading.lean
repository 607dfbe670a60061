import RelayCollections.Json.Record
import RelayCollections.SyntaxTree.Node

namespace RelayCollections.SyntaxTree

/-!
# Syntax trees in JSON

How the nodes of a syntax tree are read from JSON: each kind of node is a record, and
what other tools add to a node is skipped.

* `nameRecord`, `typeRecord`, `fieldRecord`, `definitionRecord`, `documentRecord` — the
  members of each node, in the order of the array form;
* `DocumentNode.ofText` — the nodes that a text holds.
-/

open Json (Fault Reader Record)

/-! ### Names -/

/-- Names as records: the text of the name. -/
def nameRecord : Record String String where
  members := [("value", Json.text)]
  make absent parts := Json.required some parts (absent "value")

/-! ### Types -/

/-- A member of a type node. A name that is null is no name, and likewise for the type
    inside. -/
inductive TypePart where
  | kind (kind : String)
  | name (name : Option String)
  | inner (inner : Option TypeNode)

/-- The type node of its parts. -/
def typeOfParts (absent : String → Fault) (parts : List TypePart) :
    Except Fault TypeNode := do
  let kind ← Json.required (fun | .kind kind => some kind | _ => none) parts (absent "kind")
  let name := parts.findSome? fun | .name name => name | _ => none
  match parts.findSome? fun | .inner inner => inner | _ => none with
  | none => return .bare kind name
  | some inner => return .around kind name inner

/-- Type nodes as records, given how the type inside is read. -/
def typeRecord (inner : Reader TypeNode) : Record TypePart TypeNode where
  members := [
    ("kind", fun depth tree => .kind <$> Json.text depth tree),
    ("name", fun depth tree => .name <$> Json.optional nameRecord.read depth tree),
    ("type", fun depth tree => .inner <$> Json.optional inner depth tree)]
  make := typeOfParts

/-- A type node. Each type inside another takes one level. -/
def typeNode : Reader TypeNode
  | 0 => fun _ => .error .malformed
  | depth + 1 => (typeRecord fun _ => typeNode depth).read (depth + 1)

/-! ### Fields -/

/-- A member of a field. -/
inductive FieldPart where
  | name (name : String)
  | type (type : TypeNode)

/-- Fields as records. -/
def fieldRecord : Record FieldPart FieldNode where
  members := [
    ("name", fun depth tree => .name <$> nameRecord.read depth tree),
    ("type", fun depth tree => .type <$> typeNode depth tree)]
  make absent parts := do
    let name ← Json.required (fun | .name name => some name | _ => none) parts (absent "name")
    let type ← Json.required (fun | .type type => some type | _ => none) parts (absent "type")
    return { name, type }

/-! ### Definitions -/

/-- A member of a definition. A list that is null is empty. -/
inductive DefinitionPart where
  | kind (kind : String)
  | name (name : Option String)
  | interfaces (interfaces : List TypeNode)
  | fields (fields : List FieldNode)

/-- Definitions as records. -/
def definitionRecord : Record DefinitionPart DefinitionNode where
  members := [
    ("kind", fun depth tree => .kind <$> Json.text depth tree),
    ("name", fun depth tree => .name <$> Json.optional nameRecord.read depth tree),
    ("interfaces", fun depth tree => do
      let nodes ← Json.optional (Json.many typeNode) depth tree
      return .interfaces (nodes.getD [])),
    ("fields", fun depth tree => do
      let nodes ← Json.optional (Json.many fieldRecord.read) depth tree
      return .fields (nodes.getD []))]
  make absent parts := do
    let kind ← Json.required (fun | .kind kind => some kind | _ => none) parts (absent "kind")
    return {
      kind
      name := parts.findSome? fun | .name name => name | _ => none
      interfaces :=
        (parts.findSome? fun | .interfaces nodes => some nodes | _ => none).getD []
      fields := (parts.findSome? fun | .fields nodes => some nodes | _ => none).getD [] }

/-! ### Documents -/

/-- A member of the outermost node. -/
inductive DocumentPart where
  | kind (kind : String)
  | definitions (definitions : List DefinitionNode)

/-- Documents as records. -/
def documentRecord : Record DocumentPart DocumentNode where
  members := [
    ("kind", fun depth tree => .kind <$> Json.text depth tree),
    ("definitions", fun depth tree =>
      .definitions <$> Json.many definitionRecord.read depth tree)]
  make absent parts := do
    let kind ← Json.required (fun | .kind kind => some kind | _ => none) parts (absent "kind")
    return {
      kind
      definitions :=
        (parts.findSome? fun | .definitions nodes => some nodes | _ => none).getD [] }

/-- The nodes that a text holds. -/
def DocumentNode.ofText (text : String) : Except Fault DocumentNode :=
  Json.readWhole documentRecord.read text

end RelayCollections.SyntaxTree
