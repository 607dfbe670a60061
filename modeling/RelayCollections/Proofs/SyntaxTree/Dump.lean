import RelayCollections.Proofs.Json.Carrying
import RelayCollections.Sdl.Declaration
import RelayCollections.SyntaxTree.Reading

namespace RelayCollections.SyntaxTree

/-!
# Dumps of schema texts

How other tools dump what a schema text says: one node for each definition, with its kind,
its name, and the interfaces and fields it lists. A text is a dump if it carries these
nodes; it may say more about each of them, under other keys.

* `dump` — the syntax tree of declarations, as a JSON value;
* `IsDump` — a text carries the syntax tree of declarations;
* `isDump_compact`, `isDump_indented` — both layouts of the value do;
* `ignoresAdded_documentRecord` — whatever else a text carries is not read.
-/

open Json (Carries IgnoresAdded Spells Value)
open Sdl (Declaration Kind TypeDeclaration)

/-! ### Nodes as values -/

/-- A node, the kind first. -/
def dumpNode (kind : String) (members : List (String × Value)) : Value :=
  .object (("kind", .string kind) :: members)

/-- A name. -/
def dumpName (name : String) : Value :=
  dumpNode "Name" [("value", .string name)]

/-- A type, from the outside in. -/
def dumpType : TypeRef → Value
  | .named name => dumpNode "NamedType" [("name", dumpName name)]
  | .nonNull inner => dumpNode "NonNullType" [("type", dumpType inner)]
  | .list inner => dumpNode "ListType" [("type", dumpType inner)]

/-- A field, under the kind of the fields of its definition. -/
def dumpField (kind : String) (f : Field) : Value :=
  dumpNode kind [("name", dumpName f.name), ("type", dumpType f.type)]

/-- The interfaces and fields that a declared type or an extension lists. Members of unions
    and values of enums are not listed under these keys. -/
def dumpParts (t : TypeDeclaration) : List (String × Value) :=
  match t.kind with
  | .object | .interface =>
    [("interfaces", .array (t.interfaces.map fun name => dumpType (.named name))),
      ("fields", .array (t.fields.map (dumpField "FieldDefinition")))]
  | .input => [("fields", .array (t.fields.map (dumpField "InputValueDefinition")))]
  | .scalar | .union | .enum => []

/-- The kind of the node of a declared type. -/
def definitionKind : Kind → String
  | .scalar => "ScalarTypeDefinition"
  | .object => "ObjectTypeDefinition"
  | .interface => "InterfaceTypeDefinition"
  | .union => "UnionTypeDefinition"
  | .enum => "EnumTypeDefinition"
  | .input => "InputObjectTypeDefinition"

/-- The kind of the node of an extension. -/
def extensionKind : Kind → String
  | .scalar => "ScalarTypeExtension"
  | .object => "ObjectTypeExtension"
  | .interface => "InterfaceTypeExtension"
  | .union => "UnionTypeExtension"
  | .enum => "EnumTypeExtension"
  | .input => "InputObjectTypeExtension"

/-- A definition of a schema text. The schema itself has no name. -/
def dumpDeclaration : Declaration → Value
  | .schema => dumpNode "SchemaDefinition" []
  | .directive name => dumpNode "DirectiveDefinition" [("name", dumpName name)]
  | .type t => dumpNode (definitionKind t.kind) (("name", dumpName t.name) :: dumpParts t)
  | .extension t => dumpNode (extensionKind t.kind) (("name", dumpName t.name) :: dumpParts t)

/-- The syntax tree of declarations, in their order. -/
def dump (ds : List Declaration) : Value :=
  dumpNode "Document" [("definitions", .array (ds.map dumpDeclaration))]

/-! ### Dumps -/

/-- The keys that nodes are read by. -/
def nodeKeys : List String :=
  ["kind", "value", "name", "type", "interfaces", "fields", "definitions"]

/-- The text is a dump of declarations: it is JSON that carries their syntax tree, in any
    layout, and may say more under keys that nodes are not read by. -/
def IsDump (ds : List Declaration) (text : String) : Prop :=
  ∃ tree, Carries nodeKeys tree (dump ds) ∧ Spells text.toList tree.tokens

/-- The compact text of the syntax tree is a dump. -/
theorem isDump_compact (ds : List Declaration) : IsDump ds (dump ds).compact :=
  ⟨(dump ds).tree, Json.carries_tree _, Json.spells_compact _⟩

/-- The indented text of the syntax tree is a dump. -/
theorem isDump_indented (ds : List Declaration) : IsDump ds (dump ds).indented :=
  ⟨(dump ds).tree, Json.carries_tree _, Json.spells_indented _⟩

/-! ### What else a dump carries -/

theorem ignoresAdded_nameRecord : IgnoresAdded nodeKeys nameRecord.read := by
  refine Json.ignoresAdded_read rfl (by simp [nameRecord, nodeKeys]) ?_
  simp only [nameRecord, List.forall_mem_singleton]
  exact Json.ignoresAdded_text

/-- Types are read alike, whatever is added at each of their levels. -/
theorem ignoresAdded_typeNode : IgnoresAdded nodeKeys typeNode := by
  intro depth
  induction depth with
  | zero => intro tree v _; rfl
  | succ depth ih =>
    have hinner : IgnoresAdded nodeKeys fun _ => typeNode depth := fun _ => ih
    refine Json.ignoresAdded_read rfl (by simp [typeRecord, nodeKeys]) ?_ (depth + 1)
    simp only [typeRecord, List.forall_mem_cons]
    refine ⟨?_, ?_, ?_, List.forall_mem_nil _⟩
    · exact Json.ignoresAdded_map Json.ignoresAdded_text _
    · exact Json.ignoresAdded_map (Json.ignoresAdded_optional ignoresAdded_nameRecord) _
    · exact Json.ignoresAdded_map (Json.ignoresAdded_optional hinner) _

theorem ignoresAdded_fieldRecord : IgnoresAdded nodeKeys fieldRecord.read := by
  refine Json.ignoresAdded_read rfl (by simp [fieldRecord, nodeKeys]) ?_
  simp only [fieldRecord, List.forall_mem_cons]
  refine ⟨?_, ?_, List.forall_mem_nil _⟩
  · exact Json.ignoresAdded_map ignoresAdded_nameRecord _
  · exact Json.ignoresAdded_map ignoresAdded_typeNode _

theorem ignoresAdded_definitionRecord : IgnoresAdded nodeKeys definitionRecord.read := by
  refine Json.ignoresAdded_read rfl (by simp [definitionRecord, nodeKeys]) ?_
  simp only [definitionRecord, List.forall_mem_cons]
  refine ⟨?_, ?_, ?_, ?_, List.forall_mem_nil _⟩
  · exact Json.ignoresAdded_map Json.ignoresAdded_text _
  · exact Json.ignoresAdded_map (Json.ignoresAdded_optional ignoresAdded_nameRecord) _
  · refine Json.ignoresAdded_map (Json.ignoresAdded_optional ?_) _
    exact Json.ignoresAdded_many ignoresAdded_typeNode
  · refine Json.ignoresAdded_map (Json.ignoresAdded_optional ?_) _
    exact Json.ignoresAdded_many ignoresAdded_fieldRecord

/-- **Documents are read alike**, whatever is added to any of their nodes. -/
theorem ignoresAdded_documentRecord : IgnoresAdded nodeKeys documentRecord.read := by
  refine Json.ignoresAdded_read rfl (by simp [documentRecord, nodeKeys]) ?_
  simp only [documentRecord, List.forall_mem_cons]
  refine ⟨?_, ?_, List.forall_mem_nil _⟩
  · exact Json.ignoresAdded_map Json.ignoresAdded_text _
  · exact Json.ignoresAdded_map (Json.ignoresAdded_many ignoresAdded_definitionRecord) _

end RelayCollections.SyntaxTree
