import RelayCollections.Proofs.Sdl.Grammar
import RelayCollections.Proofs.SyntaxTree.Dump
import RelayCollections.SyntaxTree.Document

namespace RelayCollections.SyntaxTree

/-!
# Dumps are read as what they dump

The reader of syntax trees recovers from a dump what was dumped: types with all their
modifiers, fields, definitions, and of these the ones that make a document. Every node of a
dump takes levels of nesting, so how deep types may be is bounded by the reader's limit.

* `TypeNode.ofType`, `FieldNode.ofField`, `DefinitionNode.ofDeclaration` — the nodes that
  types, fields and definitions are dumped as;
* `read_dumpType`, `read_dumpDeclaration`, `read_dump` — dumps are read as these nodes;
* `toType_ofType`, `toDefinition_ofDeclaration`, `toDocument_ofDeclarations` — which stand for
  what was dumped;
* `outcome_parseTree_of_isDump` — so a dump is read as the document of its declarations.
-/

open Json (Value membersTree partsOfMembers_mapped partsOfMembers_unread partsOfMembers_written
  text_written)
open Sdl (Declaration TypeDeclaration)

/-- A node is no null. -/
theorem dumpNode_ne_null (kind : String) (members : List (String × Value)) :
    (dumpNode kind members).tree ≠ .null :=
  Json.Tree.noConfusion

/-- A type is dumped as a node. -/
theorem dumpType_ne_null (type : TypeRef) : (dumpType type).tree ≠ .null := by
  cases type with
  | named name => exact dumpNode_ne_null _ _
  | nonNull inner => exact dumpNode_ne_null _ _
  | list inner => exact dumpNode_ne_null _ _

/-- A name is read as itself. -/
theorem read_dumpName (depth : Nat) (name : String) :
    nameRecord.read (depth + 1) (dumpName name).tree = .ok name := by
  have hparts : nameRecord.partsOfMembers depth []
      (membersTree [("kind", .string "Name"), ("value", .string name)]) = .ok [name] := by
    refine partsOfMembers_unread rfl rfl ?_
    refine partsOfMembers_written rfl (by decide) (text_written depth name) ?_
    rfl
  exact Json.read_written hparts

/-- A name that may be null is read as itself. -/
theorem read_optionalName (depth : Nat) (name : String) :
    Json.optional nameRecord.read (depth + 1) (dumpName name).tree = .ok (some name) :=
  Json.optional_ok (dumpNode_ne_null _ _) (read_dumpName depth name)

/-! ### Types and fields -/

/-- The node that a type is dumped as. -/
def TypeNode.ofType : TypeRef → TypeNode
  | .named name => .bare "NamedType" (some name)
  | .nonNull inner => .around "NonNullType" none (ofType inner)
  | .list inner => .around "ListType" none (ofType inner)

/-- A named type is read as its node where there is a level for it and one for its name. -/
private theorem read_dumpNamed (depth : Nat) (name : String) :
    typeNode (depth + 2) (dumpType (.named name)).tree = .ok (.ofType (.named name)) := by
  have hparts : (typeRecord fun _ => typeNode (depth + 1)).partsOfMembers (depth + 1) []
      (membersTree [("kind", .string "NamedType"), ("name", dumpName name)])
        = .ok [.kind "NamedType", .name (some name)] := by
    refine partsOfMembers_mapped TypePart.kind rfl (by decide) (text_written _ _) ?_
    refine partsOfMembers_mapped TypePart.name rfl (by decide) (read_optionalName _ name) ?_
    rfl
  exact Json.read_written hparts

/-- A type with a modifier outside is read where the type inside is read one level below. -/
private theorem read_dumpModifier {depth : Nat} {inner : TypeRef} (kind : String)
    (hinner : typeNode depth (dumpType inner).tree = .ok (.ofType inner)) :
    typeNode (depth + 1) (dumpNode kind [("type", dumpType inner)]).tree
      = .ok (.around kind none (.ofType inner)) := by
  have hoptional : Json.optional (fun _ => typeNode depth) depth (dumpType inner).tree
      = .ok (some (.ofType inner)) := Json.optional_ok (dumpType_ne_null inner) hinner
  have hparts : (typeRecord fun _ => typeNode depth).partsOfMembers depth []
      (membersTree [("kind", .string kind), ("type", dumpType inner)])
        = .ok [.kind kind, .inner (some (.ofType inner))] := by
    refine partsOfMembers_mapped TypePart.kind rfl (by decide) (text_written _ _) ?_
    refine partsOfMembers_mapped TypePart.inner rfl (by decide) hoptional ?_
    rfl
  exact Json.read_written hparts

/-- **Types are recovered.** A dumped type is read as its node where there is a level for
    each of its modifiers, for the type inside them and for its name. -/
theorem read_dumpType (type : TypeRef) {depth : Nat} (hdepth : type.modifiers.length + 2 ≤ depth) :
    typeNode depth (dumpType type).tree = .ok (.ofType type) := by
  induction type generalizing depth with
  | named name =>
    -- One level for the node and one for its name.
    obtain ⟨depth, rfl⟩ := Nat.exists_eq_add_of_le' hdepth
    exact read_dumpNamed depth name
  | nonNull inner ih =>
    rw [TypeRef.modifiers, List.length_append, List.length_singleton] at hdepth
    obtain ⟨depth, rfl⟩ : ∃ d, depth = d + 1 := ⟨depth - 1, by omega⟩
    exact read_dumpModifier "NonNullType" (ih (by omega))
  | list inner ih =>
    rw [TypeRef.modifiers, List.length_append, List.length_singleton] at hdepth
    obtain ⟨depth, rfl⟩ : ∃ d, depth = d + 1 := ⟨depth - 1, by omega⟩
    exact read_dumpModifier "ListType" (ih (by omega))

/-- The type of its node is the type itself. -/
@[simp] theorem toType_ofType (type : TypeRef) : (TypeNode.ofType type).toType = .ok type := by
  induction type with
  | named name => rfl
  | nonNull inner ih =>
    rw [TypeNode.ofType, TypeNode.toType, if_neg (by decide), if_pos rfl, ih]
    rfl
  | list inner ih =>
    rw [TypeNode.ofType, TypeNode.toType, if_neg (by decide), if_neg (by decide), if_pos rfl, ih]
    rfl

/-- The node that a field is dumped as. Its kind is not kept. -/
def FieldNode.ofField (f : Field) : FieldNode where
  name := f.name
  type := .ofType f.type

/-- A dumped field is read as its node, whatever its kind. -/
theorem read_dumpField (kind : String) {f : Field} {depth : Nat}
    (hdepth : f.type.modifiers.length + 2 ≤ depth) :
    fieldRecord.read (depth + 1) (dumpField kind f).tree = .ok (.ofField f) := by
  obtain ⟨d, rfl⟩ : ∃ d, depth = d + 1 := ⟨depth - 1, by omega⟩
  have hparts : fieldRecord.partsOfMembers (d + 1) []
      (membersTree [("kind", .string kind), ("name", dumpName f.name), ("type", dumpType f.type)])
        = .ok [.name f.name, .type (.ofType f.type)] := by
    refine partsOfMembers_unread rfl rfl ?_
    refine partsOfMembers_mapped FieldPart.name rfl (by decide) (read_dumpName _ f.name) ?_
    refine partsOfMembers_mapped FieldPart.type rfl (by decide) (read_dumpType f.type hdepth) ?_
    rfl
  exact Json.read_written hparts

/-- The fields of their nodes are the fields themselves. -/
theorem toFields_ofField (fields : List Field) :
    toFields (fields.map .ofField) = .ok fields := by
  induction fields with
  | nil => rfl
  | cons f fields ih =>
    rw [toFields] at ih ⊢
    rw [List.map_cons, List.mapM_cons, ih]
    simp only [FieldNode.ofField, toType_ofType, ok_bind]
    rfl

/-! ### Definitions -/

/-- The interfaces and fields in the node of a declared type or an extension. -/
def partsOfType (t : TypeDeclaration) : List TypeNode × List FieldNode :=
  match t.kind with
  | .object | .interface =>
    (t.interfaces.map fun name => .ofType (.named name), t.fields.map .ofField)
  | .input => ([], t.fields.map .ofField)
  | .scalar | .union | .enum => ([], [])

/-- The node that a declared type or an extension is dumped as. -/
def DefinitionNode.ofType (kind : String) (t : TypeDeclaration) : DefinitionNode where
  kind
  name := some t.name
  interfaces := (partsOfType t).1
  fields := (partsOfType t).2

/-- The node that a definition is dumped as. -/
def DefinitionNode.ofDeclaration : Declaration → DefinitionNode
  | .schema => { kind := "SchemaDefinition", name := none, interfaces := [], fields := [] }
  | .directive name =>
    { kind := "DirectiveDefinition", name := some name, interfaces := [], fields := [] }
  | .type t => .ofType (definitionKind t.kind) t
  | .extension t => .ofType (extensionKind t.kind) t

/-- Dumped interfaces are read as nodes. -/
private theorem read_dumpInterfaces (depth : Nat) (names : List String) :
    Json.optional (Json.many typeNode) (depth + 3)
        (Value.array (names.map fun name => dumpType (.named name))).tree
      = .ok (some (names.map fun name => .ofType (.named name))) := by
  refine Json.optional_ok Json.Tree.noConfusion (Json.many_written ?_)
  intro name _
  exact read_dumpNamed depth name

/-- Dumped fields are read as nodes, where there are levels for their types. -/
private theorem read_dumpFields (kind : String) {depth : Nat} {fields : List Field}
    (hdepth : ∀ f ∈ fields, f.type.modifiers.length < depth) :
    Json.optional (Json.many fieldRecord.read) (depth + 3)
        (Value.array (fields.map (dumpField kind))).tree
      = .ok (some (fields.map .ofField)) := by
  refine Json.optional_ok Json.Tree.noConfusion (Json.many_written ?_)
  intro f hf
  have hf := hdepth f hf
  exact read_dumpField kind (by omega)

/-- The parts that a declared type or an extension gives behind its kind and its name. -/
def definitionParts (t : TypeDeclaration) : List DefinitionPart :=
  match t.kind with
  | .object | .interface =>
    [.interfaces (t.interfaces.map fun name => .ofType (.named name)),
      .fields (t.fields.map .ofField)]
  | .input => [.fields (t.fields.map .ofField)]
  | .scalar | .union | .enum => []

/-- What is dumped behind kind and name is read as parts. -/
private theorem read_dumpParts {t : TypeDeclaration} {depth : Nat}
    (hdepth : ∀ f ∈ t.fields, f.type.modifiers.length < depth) :
    definitionRecord.partsOfMembers (depth + 3) ["name", "kind"] (membersTree (dumpParts t))
      = .ok (definitionParts t) := by
  have hinterfaces := read_dumpInterfaces depth t.interfaces
  unfold dumpParts definitionParts
  cases t.kind with
  | scalar | union | enum => rfl
  | object | interface =>
    have hfields := read_dumpFields "FieldDefinition" hdepth
    refine partsOfMembers_written rfl (by decide) (by rw [hinterfaces]; rfl) ?_
    refine partsOfMembers_written rfl (by decide) (by rw [hfields]; rfl) ?_
    rfl
  | input =>
    have hfields := read_dumpFields "InputValueDefinition" hdepth
    refine partsOfMembers_written rfl (by decide) (by rw [hfields]; rfl) ?_
    rfl

/-- The parts make the node. -/
private theorem make_definitionParts (kind : String) (t : TypeDeclaration)
    (absent : String → Json.Fault) :
    definitionRecord.make absent (.kind kind :: .name (some t.name) :: definitionParts t)
      = .ok (.ofType kind t) := by
  unfold definitionParts DefinitionNode.ofType partsOfType
  cases t.kind <;> rfl

/-- A dumped type or extension is read as its node, under any kind. -/
theorem read_dumpTypeDeclaration (kind : String) {t : TypeDeclaration} {depth : Nat}
    (hdepth : ∀ f ∈ t.fields, f.type.modifiers.length < depth) :
    definitionRecord.read (depth + 4)
        (dumpNode kind (("name", dumpName t.name) :: dumpParts t)).tree
      = .ok (.ofType kind t) := by
  have hparts : definitionRecord.partsOfMembers (depth + 3) []
      (membersTree (("kind", .string kind) :: ("name", dumpName t.name) :: dumpParts t))
        = .ok (.kind kind :: .name (some t.name) :: definitionParts t) := by
    refine partsOfMembers_mapped DefinitionPart.kind rfl (by decide) (text_written _ _) ?_
    refine partsOfMembers_mapped DefinitionPart.name rfl (by decide) (read_optionalName _ t.name) ?_
    exact read_dumpParts hdepth
  exact (Json.read_written hparts).trans (make_definitionParts kind t _)

/-- **Definitions are recovered.** A dumped definition is read as its node where there are
    levels for the types of its fields. -/
theorem read_dumpDeclaration {d : Declaration} {depth : Nat}
    (hdepth : d.FieldTypes fun type => type.modifiers.length < depth) :
    definitionRecord.read (depth + 4) (dumpDeclaration d).tree = .ok (.ofDeclaration d) := by
  cases d with
  | schema =>
    have hparts : definitionRecord.partsOfMembers (depth + 3) []
        (membersTree [("kind", .string "SchemaDefinition")])
          = .ok [.kind "SchemaDefinition"] := by
      exact partsOfMembers_mapped DefinitionPart.kind rfl (by decide) (text_written _ _) rfl
    exact Json.read_written hparts
  | directive name =>
    have hparts : definitionRecord.partsOfMembers (depth + 3) []
        (membersTree [("kind", .string "DirectiveDefinition"), ("name", dumpName name)])
          = .ok [.kind "DirectiveDefinition", .name (some name)] := by
      refine partsOfMembers_mapped DefinitionPart.kind rfl (by decide) (text_written _ _) ?_
      exact partsOfMembers_mapped DefinitionPart.name rfl (by decide) (read_optionalName _ name) rfl
    exact Json.read_written hparts
  | type t => exact read_dumpTypeDeclaration (definitionKind t.kind) hdepth
  | extension t => exact read_dumpTypeDeclaration (extensionKind t.kind) hdepth

/-- The names of named types are the names. -/
theorem filterMap_name?_ofType (names : List String) :
    (names.map fun name => TypeNode.ofType (.named name)).filterMap TypeNode.name? = names := by
  rw [List.filterMap_map]
  exact List.filterMap_some

/-- A declared type is the definition of its node. -/
theorem toDefinition_ofType (t : TypeDeclaration) :
    (DefinitionNode.ofType (definitionKind t.kind) t).toDefinition.outcome
      = .ok (some t.toDefinition) := by
  obtain ⟨kind, name, interfaces, fields, directives, hasBody⟩ := t
  have hfields := toFields_ofField fields
  have hinterfaces := filterMap_name?_ofType interfaces
  cases kind with
  | scalar | union | enum | input => rfl
  | interface =>
    show (Run.ofExcept (toFields (fields.map .ofField)) >>= fun fields =>
      (pure (some (.interface name fields)) : Run (Option Definition))).outcome = _
    rw [hfields]
    rfl
  | object =>
    show (Run.ofExcept (toFields (fields.map .ofField)) >>= fun fields =>
      (pure (some (.object
        { name
          interfaces := (interfaces.map fun name =>
            TypeNode.ofType (.named name)).filterMap TypeNode.name?
          fields })) : Run (Option Definition))).outcome = _
    rw [hfields, hinterfaces]
    rfl

/-- The definition of its node is that of the declaration: types are kept, and everything
    else is dropped. -/
theorem toDefinition_ofDeclaration (d : Declaration) :
    (DefinitionNode.ofDeclaration d).toDefinition.outcome = .ok d.toDefinition? := by
  cases d with
  | schema => rfl
  | directive name => rfl
  | type t => exact toDefinition_ofType t
  | extension t =>
    -- No kind of an extension is the kind of a definition.
    obtain ⟨kind, name, interfaces, fields, directives, hasBody⟩ := t
    cases kind <;> rfl

/-! ### Documents -/

/-- **Syntax trees are recovered.** The dump of declarations is read as their nodes where
    there are levels for the types of all fields. -/
theorem read_dump {ds : List Declaration} {depth : Nat}
    (hdepth : ∀ d ∈ ds, d.FieldTypes fun type => type.modifiers.length < depth) :
    documentRecord.read (depth + 6) (dump ds).tree
      = .ok { kind := "Document", definitions := ds.map .ofDeclaration } := by
  have hdefinitions : Json.many definitionRecord.read (depth + 5)
      (Value.array (ds.map dumpDeclaration)).tree = .ok (ds.map .ofDeclaration) := by
    refine Json.many_written ?_
    intro d hd
    exact read_dumpDeclaration (hdepth d hd)
  have hparts : documentRecord.partsOfMembers (depth + 5) []
      (membersTree [("kind", .string "Document"),
        ("definitions", .array (ds.map dumpDeclaration))])
        = .ok [.kind "Document", .definitions (ds.map .ofDeclaration)] := by
    refine partsOfMembers_mapped DocumentPart.kind rfl (by decide) (text_written _ _) ?_
    refine partsOfMembers_mapped DocumentPart.definitions rfl (by decide) hdefinitions ?_
    rfl
  exact Json.read_written hparts

/-- The document of the nodes of declarations is that of the declarations. -/
theorem toDocument_ofDeclarations (ds : List Declaration) :
    (DocumentNode.toDocument
        { kind := "Document", definitions := ds.map .ofDeclaration }).outcome
      = .ok (Sdl.toDocument ds) := by
  have hdefinitions : ((ds.map DefinitionNode.ofDeclaration).mapM
      fun node => node.toDefinition.outcome) = .ok (ds.map Declaration.toDefinition?) := by
    rw [mapM_eq_ok_iff, List.forall₂_map_left_iff, List.forall₂_map_right_iff,
      List.forall₂_same]
    intro d _
    exact toDefinition_ofDeclaration d
  rw [DocumentNode.toDocument, if_pos rfl, Run.outcome_bind, Run.outcome_mapM, hdefinitions,
    ok_bind, Run.outcome_pure, List.filterMap_map]
  rfl

/-- **Dumps are read as what they dump.** A dump of declarations, whatever else it carries,
    is read as their document where the types of all fields leave levels to spare. -/
theorem outcome_parseTree_of_isDump {ds : List Declaration} {text : String}
    (hdump : IsDump ds text)
    (hdepth : ∀ d ∈ ds, d.FieldTypes fun type => type.modifiers.length < 121) :
    (parseTree text).outcome = .ok (Sdl.toDocument ds) := by
  obtain ⟨tree, hcarries, hspells⟩ := hdump
  -- The nodes are those of the bare dump, since nothing that is added is read.
  have hnodes : DocumentNode.ofText text
      = .ok { kind := "Document", definitions := ds.map .ofDeclaration } := by
    rw [DocumentNode.ofText,
      Json.readWhole_of_carries ignoresAdded_documentRecord hcarries hspells]
    exact read_dump hdepth
  rw [outcome_parseTree hnodes, toDocument_ofDeclarations]

end RelayCollections.SyntaxTree
