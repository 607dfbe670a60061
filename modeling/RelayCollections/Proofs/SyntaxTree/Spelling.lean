import RelayCollections.Proofs.Json.Form
import RelayCollections.Proofs.SyntaxTree.Recovery

namespace RelayCollections.SyntaxTree

/-!
# Syntax trees are read in every spelling

Each node of a syntax tree can be written as an object or as an array, with members left out
or null where the node has nothing, and with members that no node has. These choices are
made at every node anew. Whatever they are, the reader recovers the nodes, and from the nodes
of a document the document.

* `typeForm`, `fieldForm`, `definitionForm`, `documentForm` — the ways to write each node;
* `reads_typeForm`, …, `reads_documentForm` — they are read as the node;
* `outcome_parseTree_of_writes` — every spelling of the nodes of a document is read as the
  document.
-/

open Json (AreParts Form MembersFill Reads Slot SlotsRead)
open Sdl (Declaration)

variable {depth : Nat}

/-! ### Names -/

/-- A name. -/
def nameForm (name : String) : Form :=
  .record [.required "value" (.string name)]

/-- No name is null. -/
theorem not_holds_null_nameForm (name : String) : ¬ (nameForm name).Holds depth .null :=
  Json.not_holds_null_record _

/-- Names are read in every form. -/
theorem reads_nameForm (name : String) : Reads nameRecord.read depth (nameForm name) name := by
  cases depth with
  | zero => exact fun _ h => h.elim
  | succ depth =>
    have hslots : SlotsRead depth nameRecord.members
        [(.required "value" (.string name), name)] :=
      .cons ⟨rfl, Json.reads_text name⟩ .nil
    refine Json.reads_record rfl (by decide) hslots ?_
    intro absent parts h
    exact h.required (by simp) ⟨_, List.mem_cons_self, rfl, rfl⟩ _

/-- A name that a node may have is read in every form. -/
theorem reads_slot_name (name : Option String) :
    Reads (Json.optional nameRecord.read) depth
      (Slot.optional "name" (name.map nameForm)).form name :=
  Json.reads_slot_optional "name" not_holds_null_nameForm fun a _ => reads_nameForm a

/-! ### Types -/

/-- A type node: a kind, and a name and a type inside if it has them. -/
def typeForm : TypeNode → Form
  | .bare kind name => .record [
      .required "kind" (.string kind),
      .optional "name" (name.map nameForm),
      .optional "type" none]
  | .around kind name inner => .record [
      .required "kind" (.string kind),
      .optional "name" (name.map nameForm),
      .optional "type" (some (typeForm inner))]

/-- No type node is null. -/
theorem not_holds_null_typeForm (node : TypeNode) : ¬ (typeForm node).Holds depth .null := by
  cases node with
  | bare kind name => exact Json.not_holds_null_record _
  | around kind name inner => exact Json.not_holds_null_record _

/-- The slots of a type node, given the type inside, with what is read from them. -/
private def typeEntries (kind : String) (name : Option String) (inner : Option TypeNode) :
    List (Slot × TypePart) := [
  (.required "kind" (.string kind), .kind kind),
  (.optional "name" (name.map nameForm), .name name),
  (.optional "type" (inner.map typeForm), .inner inner)]

/-- The name in a part of a type node. -/
private def TypePart.name? : TypePart → Option String
  | .name text => text
  | _ => none

/-- The type inside in a part of a type node. -/
private def TypePart.inner? : TypePart → Option TypeNode
  | .inner node => node
  | _ => none

/-- A type node is read in every form if the type inside is. -/
private theorem reads_typeRecord {read : Json.Reader TypeNode} (kind : String)
    (name : Option String) {inner : Option TypeNode}
    (hinner : ∀ node, inner = some node → Reads read depth (typeForm node) node) :
    Reads (typeRecord read).read (depth + 1)
      (.record ((typeEntries kind name inner).map Prod.fst))
      (inner.elim (.bare kind name) (.around kind name)) := by
  have hslots : SlotsRead depth (typeRecord read).members (typeEntries kind name inner) := by
    refine .cons ⟨rfl, ?_⟩ (.cons ⟨rfl, ?_⟩ (.cons ⟨rfl, ?_⟩ .nil))
    · exact Json.reads_map TypePart.kind (Json.reads_text kind)
    · exact Json.reads_map TypePart.name (reads_slot_name name)
    · exact Json.reads_map TypePart.inner
        (Json.reads_slot_optional "type" not_holds_null_typeForm hinner)
  refine Json.reads_record rfl (by simp [typeRecord]) hslots ?_
  intro absent parts h
  show typeOfParts absent parts = _
  have hname : parts.findSome? TypePart.name? = name := by
    refine h.findSome? (by simp [typeEntries, TypePart.name?]) fun hne => ?_
    exact ⟨_, List.mem_cons_of_mem _ List.mem_cons_self, Slot.mayBeAbsent_optional hne, rfl⟩
  have hinner : parts.findSome? TypePart.inner? = inner := by
    refine h.findSome? (by simp [typeEntries, TypePart.inner?]) fun hne => ?_
    refine ⟨_, List.mem_cons_of_mem _ (List.mem_cons_of_mem _ List.mem_cons_self), ?_, rfl⟩
    exact Slot.mayBeAbsent_optional hne
  rw [typeOfParts, h.required (b := kind) (by simp [typeEntries])
    ⟨_, List.mem_cons_self, rfl, rfl⟩, ok_bind]
  dsimp only
  split
  case h_1 hread =>
    obtain rfl : inner = none := hinner.symm.trans hread
    exact congrArg (fun name => Except.ok (TypeNode.bare kind name)) hname
  case h_2 node hread =>
    obtain rfl : inner = some node := hinner.symm.trans hread
    exact congrArg (fun name => Except.ok (TypeNode.around kind name node)) hname

/-- Type nodes are read in every form. -/
theorem reads_typeForm (node : TypeNode) : Reads typeNode depth (typeForm node) node := by
  induction node generalizing depth with
  | bare kind name =>
    cases depth with
    | zero => exact fun _ h => h.elim
    | succ depth =>
      have hinner : ∀ node, (none : Option TypeNode) = some node →
          Reads (fun _ => typeNode depth) depth (typeForm node) node := by
        rintro _ ⟨⟩
      exact reads_typeRecord kind name hinner
  | around kind name inner ih =>
    cases depth with
    | zero => exact fun _ h => h.elim
    | succ depth =>
      have hinner : ∀ node, some inner = some node →
          Reads (fun _ => typeNode depth) depth (typeForm node) node := by
        rintro _ ⟨⟩
        exact ih
      exact reads_typeRecord kind name hinner

/-! ### Fields -/

/-- A field. -/
def fieldForm (node : FieldNode) : Form :=
  .record [.required "name" (nameForm node.name), .required "type" (typeForm node.type)]

/-- Fields are read in every form. -/
theorem reads_fieldForm (node : FieldNode) :
    Reads fieldRecord.read depth (fieldForm node) node := by
  cases depth with
  | zero => exact fun _ h => h.elim
  | succ depth =>
    have hslots : SlotsRead depth fieldRecord.members [
        (.required "name" (nameForm node.name), .name node.name),
        (.required "type" (typeForm node.type), .type node.type)] := by
      refine .cons ⟨rfl, ?_⟩ (.cons ⟨rfl, ?_⟩ .nil)
      · exact Json.reads_map FieldPart.name (reads_nameForm node.name)
      · exact Json.reads_map FieldPart.type (reads_typeForm node.type)
    refine Json.reads_record rfl (by decide) hslots ?_
    intro absent parts h
    show (Json.required _ parts _ >>= fun name => Json.required _ parts _ >>= fun type =>
      Except.ok (FieldNode.mk name type)) = _
    rw [h.required (b := node.name) (by simp) ⟨_, List.mem_cons_self, rfl, rfl⟩, ok_bind,
      h.required (b := node.type) (by simp)
        ⟨_, List.mem_cons_of_mem _ List.mem_cons_self, rfl, rfl⟩]
    rfl

/-! ### Definitions -/

/-- A definition: a kind, and a name, interfaces and fields if it has them. -/
def definitionForm (node : DefinitionNode) : Form :=
  .record [
    .required "kind" (.string node.kind),
    .optional "name" (node.name.map nameForm),
    .list "interfaces" (node.interfaces.map typeForm),
    .list "fields" (node.fields.map fieldForm)]

/-- The slots of a definition with what is read from them. -/
private def definitionEntries (node : DefinitionNode) : List (Slot × DefinitionPart) := [
  (.required "kind" (.string node.kind), .kind node.kind),
  (.optional "name" (node.name.map nameForm), .name node.name),
  (.list "interfaces" (node.interfaces.map typeForm), .interfaces node.interfaces),
  (.list "fields" (node.fields.map fieldForm), .fields node.fields)]

/-- The name in a part of a definition. -/
private def DefinitionPart.name? : DefinitionPart → Option String
  | .name text => text
  | _ => none

/-- The interfaces in a part of a definition. -/
private def DefinitionPart.interfaces? : DefinitionPart → Option (List TypeNode)
  | .interfaces nodes => some nodes
  | _ => none

/-- The fields in a part of a definition. -/
private def DefinitionPart.fields? : DefinitionPart → Option (List FieldNode)
  | .fields nodes => some nodes
  | _ => none

/-- The slots of a definition are read. -/
private theorem slotsRead_definition (node : DefinitionNode) :
    SlotsRead depth definitionRecord.members (definitionEntries node) := by
  refine .cons ⟨rfl, ?_⟩ (.cons ⟨rfl, ?_⟩ (.cons ⟨rfl, ?_⟩ (.cons ⟨rfl, ?_⟩ .nil)))
  · exact Json.reads_map DefinitionPart.kind (Json.reads_text node.kind)
  · exact Json.reads_map DefinitionPart.name (reads_slot_name node.name)
  · exact Json.reads_slot_list "interfaces" DefinitionPart.interfaces
      fun _ node _ => reads_typeForm node
  · exact Json.reads_slot_list "fields" DefinitionPart.fields fun _ node _ => reads_fieldForm node

/-- Definitions are read in every form. -/
theorem reads_definitionForm (node : DefinitionNode) :
    Reads definitionRecord.read depth (definitionForm node) node := by
  cases depth with
  | zero => exact fun _ h => h.elim
  | succ depth =>
    refine Json.reads_record rfl (by decide) (slotsRead_definition node) ?_
    intro absent parts h
    have hname : parts.findSome? DefinitionPart.name? = node.name := by
      refine h.findSome? (by simp [definitionEntries, DefinitionPart.name?]) fun hne => ?_
      exact ⟨_, List.mem_cons_of_mem _ List.mem_cons_self, Slot.mayBeAbsent_optional hne, rfl⟩
    have hinterfaces :
        (parts.findSome? DefinitionPart.interfaces?).getD [] = node.interfaces := by
      refine h.getD_findSome? (by simp [definitionEntries, DefinitionPart.interfaces?])
        fun hne => ?_
      refine ⟨_, List.mem_cons_of_mem _ (List.mem_cons_of_mem _ List.mem_cons_self), ?_, rfl⟩
      exact Slot.mayBeAbsent_list hne
    have hfields : (parts.findSome? DefinitionPart.fields?).getD [] = node.fields := by
      refine h.getD_findSome? (by simp [definitionEntries, DefinitionPart.fields?])
        fun hne => ?_
      refine ⟨_, List.mem_cons_of_mem _ (List.mem_cons_of_mem _ (List.mem_cons_of_mem _
        List.mem_cons_self)), ?_, rfl⟩
      exact Slot.mayBeAbsent_list hne
    show (Json.required _ parts _ >>= fun kind => Except.ok (DefinitionNode.mk kind
      (parts.findSome? DefinitionPart.name?)
      ((parts.findSome? DefinitionPart.interfaces?).getD [])
      ((parts.findSome? DefinitionPart.fields?).getD []))) = _
    rw [h.required (b := node.kind) (by simp [definitionEntries])
      ⟨_, List.mem_cons_self, rfl, rfl⟩, ok_bind, hname, hinterfaces, hfields]

/-! ### Documents -/

/-- The outermost node. Its definitions may be left out if there are none, but not be null. -/
def documentForm (node : DocumentNode) : Form :=
  .record [
    .required "kind" (.string node.kind),
    { key := "definitions", mayBeAbsent := node.definitions.isEmpty
      form := .array (node.definitions.map definitionForm) }]

/-- The definitions in a part of the outermost node. -/
private def DocumentPart.definitions? : DocumentPart → Option (List DefinitionNode)
  | .definitions nodes => some nodes
  | _ => none

/-- **Syntax trees are read in every form.** -/
theorem reads_documentForm (node : DocumentNode) :
    Reads documentRecord.read depth (documentForm node) node := by
  cases depth with
  | zero => exact fun _ h => h.elim
  | succ depth =>
    have hslots : SlotsRead depth documentRecord.members [
        (.required "kind" (.string node.kind), .kind node.kind),
        ({ key := "definitions", mayBeAbsent := node.definitions.isEmpty
           form := .array (node.definitions.map definitionForm) },
          .definitions node.definitions)] := by
      refine .cons ⟨rfl, ?_⟩ (.cons ⟨rfl, ?_⟩ .nil)
      · exact Json.reads_map DocumentPart.kind (Json.reads_text node.kind)
      · exact Json.reads_map DocumentPart.definitions
          (Json.reads_many fun _ node _ => reads_definitionForm node)
    refine Json.reads_record rfl (by decide) hslots ?_
    intro absent parts h
    have hdefinitions :
        (parts.findSome? DocumentPart.definitions?).getD [] = node.definitions := by
      refine h.getD_findSome? (by simp [DocumentPart.definitions?]) fun hne => ?_
      refine ⟨_, List.mem_cons_of_mem _ List.mem_cons_self, ?_, rfl⟩
      simpa [List.isEmpty_eq_false_iff] using hne
    show (Json.required _ parts _ >>= fun kind => Except.ok (DocumentNode.mk kind
      ((parts.findSome? DocumentPart.definitions?).getD []))) = _
    rw [h.required (b := node.kind) (by simp) ⟨_, List.mem_cons_self, rfl, rfl⟩, ok_bind,
      hdefinitions]

/-- The node that declarations are dumped as. -/
def DocumentNode.ofDeclarations (ds : List Declaration) : DocumentNode where
  kind := "Document"
  definitions := ds.map .ofDeclaration

/-- The node is a dump of the document: of declarations that declare its types, and perhaps
    of others that declare no types. -/
def DocumentNode.Dumps (node : DocumentNode) (d : Document) : Prop :=
  ∃ ds, Sdl.toDocument ds = d ∧ node = .ofDeclarations ds

/-- A declaration of a definition. -/
def declarationOf : Definition → Declaration
  | .scalar name => .type { kind := .scalar, name }
  | .interface name fields => .type { kind := .interface, name, fields, hasBody := true }
  | .object type => .type {
      kind := .object, name := type.name, interfaces := type.interfaces, fields := type.fields
      hasBody := true }
  | .other name => .type { kind := .enum, name, hasBody := true }

/-- Every document has a dump, whatever its names and types. -/
theorem exists_dumps (d : Document) : ∃ node : DocumentNode, node.Dumps d := by
  refine ⟨_, d.definitions.map declarationOf, ?_, rfl⟩
  have hdefinition : ∀ definition, (declarationOf definition).toDefinition? = some definition := by
    intro definition
    cases definition <;> rfl
  rw [Sdl.toDocument, List.filterMap_map]
  simp only [Function.comp_def, hdefinition, List.filterMap_some]

/-- **Every spelling of a dump is read as its document.** If a text writes a dump of a
    document in any form, within the levels that may be nested, it is read as just this
    document. -/
theorem outcome_parseTree_of_writes {node : DocumentNode} {d : Document} (hnode : node.Dumps d)
    {text : String} (htext : (documentForm node).Writes text) :
    (parseTree text).outcome = .ok d := by
  obtain ⟨ds, rfl, rfl⟩ := hnode
  have hread : DocumentNode.ofText text = .ok (.ofDeclarations ds) :=
    Json.readWhole_of_writes (reads_documentForm _) htext
  rw [outcome_parseTree hread]
  exact toDocument_ofDeclarations ds

/-- A field without a name, which is required twice. -/
def emptyNamed : Field := { name := "", type := .nonNull (.nonNull (.named "ID")) }

/-- A type with the field and a name that has to be escaped. -/
def quoteNamed : Declaration :=
  .type { kind := .object, name := "\"\n", fields := [emptyNamed], hasBody := true }

/-- The type of the field, in turn an object and an array. The name of the modifiers is left
    out in one and null in the other. -/
def emptyNamedType : Json.Value :=
  .object [
    ("type", .array [.string "NonNullType", .null, .array [
      .string "NamedType", .object [("value", .string "ID")]]]),
    ("kind", .string "NonNullType")]

/-- The definition of the type. It has a key that is not read and its keys in an order of
    their own, and its interfaces are left out. -/
def quoteNamedDefinition : Json.Value :=
  .object [
    ("loc", .array [.bool true]),
    ("fields", .array [.array [.array [.string ""], emptyNamedType]]),
    ("name", .array [.string "\"\n"]),
    ("kind", .string "ObjectTypeDefinition")]

/-- A dump of the type alone. -/
def quoteNamedDump : Json.Value :=
  .array [.string "Document", .array [quoteNamedDefinition]]

/-- A string as it is written is in the form of the string. -/
private theorem holds_string (s : String) :
    (Form.string s).Holds depth (.string (Json.encode s)) :=
  ⟨_, rfl, Json.decode?_encode s⟩

/-- A name in an array is in the form of the name. -/
private theorem holds_nameForm (name : String) :
    (nameForm name).Holds (depth + 1) (Json.Value.array [.string name]).tree :=
  Or.inr ⟨_, rfl, .cons (holds_string name) (.closed (List.forall_mem_nil _))⟩

/-- A written member fills the slot of its key, wherever the slot stands. -/
private theorem fill_written {declared : List String} (before behind : List Slot) {slot : Slot}
    {v : Json.Value} {kvs : List (String × Json.Value)} (hvalue : slot.form.Holds depth v.tree)
    (hrest : MembersFill depth declared (before ++ behind) (Json.membersTree kvs)) :
    MembersFill depth declared (before ++ slot :: behind)
      (Json.membersTree ((slot.key, v) :: kvs)) :=
  .member (Json.decode?_encode slot.key) hvalue hrest

/-- The dumped type is in the form of the type. -/
private theorem holds_emptyNamedType :
    (typeForm (.ofType emptyNamed.type)).Holds (depth + 4) emptyNamedType.tree := by
  have hname : (nameForm "ID").Holds (depth + 1)
      (Json.Value.object [("value", .string "ID")]).tree :=
    Or.inl ⟨_, rfl, fill_written [] [] (holds_string _) (.closed (List.forall_mem_nil _))⟩
  have hnamed : (typeForm (.ofType (.named "ID"))).Holds (depth + 2)
      (Json.Value.array [.string "NamedType", .object [("value", .string "ID")]]).tree :=
    Or.inr ⟨_, rfl, .cons (holds_string _) (.cons hname (.closed (by simp [Slot.optional])))⟩
  refine Or.inl ⟨_, rfl, fill_written [_, _] [] ?_ (fill_written [] [_] (holds_string _) ?_)⟩
  · refine Or.inr ⟨_, rfl, .cons (holds_string _) (.cons rfl (.cons hnamed (.closed ?_)))⟩
    exact List.forall_mem_nil _
  · exact .closed (by simp [Slot.optional])

/-- The dumped definition is in the form of the definition. -/
private theorem holds_quoteNamedDefinition :
    (definitionForm (.ofDeclaration quoteNamed)).Holds (depth + 7) quoteNamedDefinition.tree := by
  have hfield : (fieldForm (.ofField emptyNamed)).Holds (depth + 5)
      (Json.Value.array [.array [.string ""], emptyNamedType]).tree :=
    Or.inr ⟨_, rfl, .cons (holds_nameForm "")
      (.cons holds_emptyNamedType (.closed (List.forall_mem_nil _)))⟩
  refine Or.inl ⟨_, rfl, .added (Json.decode?_encode "loc") (by decide) rfl ?_⟩
  refine fill_written [_, _, _] [] (Or.inr ⟨_, rfl, .cons hfield .closed⟩) ?_
  refine fill_written [_] [_] (holds_nameForm _) (fill_written [] [_] (holds_string _) ?_)
  -- Only the interfaces are left, of which there are none.
  refine .closed ?_
  rintro _ (_ | ⟨_, ⟨⟩⟩)
  rfl

/-- The dump writes the node in one of its forms, and is read as the document. -/
theorem outcome_parseTree_of_writes_quoteNamed :
    (DocumentNode.ofDeclarations [quoteNamed]).Dumps (Sdl.toDocument [quoteNamed])
      ∧ (documentForm (.ofDeclarations [quoteNamed])).Writes quoteNamedDump.indented
      ∧ (parseTree quoteNamedDump.indented).outcome = .ok (Sdl.toDocument [quoteNamed]) := by
  have hdumps : (DocumentNode.ofDeclarations [quoteNamed]).Dumps (Sdl.toDocument [quoteNamed]) :=
    ⟨[quoteNamed], rfl, rfl⟩
  have hdefinitions : (Form.array [definitionForm (.ofDeclaration quoteNamed)]).Holds 126
      (Json.Value.array [quoteNamedDefinition]).tree :=
    ⟨_, rfl, .cons holds_quoteNamedDefinition .closed⟩
  have hholds : (documentForm (.ofDeclarations [quoteNamed])).Holds Json.nestingLimit
      quoteNamedDump.tree :=
    Or.inr ⟨_, rfl, .cons (holds_string _)
      (.cons hdefinitions (.closed (List.forall_mem_nil _)))⟩
  have hwrites : (documentForm (.ofDeclarations [quoteNamed])).Writes quoteNamedDump.indented :=
    ⟨_, hholds, Json.spells_indented _⟩
  exact ⟨hdumps, hwrites, outcome_parseTree_of_writes hdumps hwrites⟩

end RelayCollections.SyntaxTree
