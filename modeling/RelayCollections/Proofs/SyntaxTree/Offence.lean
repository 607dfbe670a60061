import RelayCollections.Proofs.SyntaxTree.Dump
import RelayCollections.Proofs.Traversal
import RelayCollections.SyntaxTree.Document

namespace RelayCollections.SyntaxTree

/-!
# Which syntax trees are documents

A syntax tree stands for a document if the field types of its definitions are chains of
modifiers around names. Where one is not, some node of its chain offends, and reading ends
with the first node that does, in the order in which definitions, fields and nodes stand.
Nothing else in the tree can offend: what does not count, and what no chain leads to, is not
looked at.

* `TypeNode.StandsFor`, `DefinitionNode.StandsFor` — what nodes stand for, as relations;
* `TypeNode.chain`, `DocumentNode.typeNodes` — the nodes that are looked at, in order;
* `TypeNode.offence?` — what is wrong with a node, apart from the nodes inside;
* `outcome_parseTree_of_ofText` — the outcome of reading a syntax tree.
-/

/-! ### What nodes stand for -/

/-- The kind of a type node. -/
def TypeNode.kind : TypeNode → String
  | .bare kind _ => kind
  | .around kind _ _ => kind

/-- Each modifier has a node inside, and the innermost node is a name. -/
inductive TypeNode.StandsFor : TypeNode → TypeRef → Prop where
  | named {node : TypeNode} {name : String} :
    node.kind = "NamedType" → node.name? = some name → node.StandsFor (.named name)
  | nonNull {name : Option String} {inner : TypeNode} {type : TypeRef} :
    inner.StandsFor type →
      (TypeNode.around "NonNullType" name inner).StandsFor (.nonNull type)
  | list {name : Option String} {inner : TypeNode} {type : TypeRef} :
    inner.StandsFor type →
      (TypeNode.around "ListType" name inner).StandsFor (.list type)

/-- The node of a field has its name and the node of its type. -/
def FieldNode.StandsFor (node : FieldNode) (f : Field) : Prop :=
  f.name = node.name ∧ node.type.StandsFor f.type

/-- A definition has the name of its node; interfaces and objects have its fields. The
    interfaces that an object implements are the names among the nodes for them. -/
inductive DefinitionNode.StandsFor : DefinitionNode → Definition → Prop where
  | scalar {node : DefinitionNode} {name : String} :
    node.kind = "ScalarTypeDefinition" → node.name = some name →
      node.StandsFor (.scalar name)
  | interface {node : DefinitionNode} {name : String} {fields : List Field} :
    node.kind = "InterfaceTypeDefinition" → node.name = some name →
      List.Forall₂ FieldNode.StandsFor node.fields fields →
        node.StandsFor (.interface name fields)
  | object {node : DefinitionNode} {name : String} {fields : List Field} :
    node.kind = "ObjectTypeDefinition" → node.name = some name →
      List.Forall₂ FieldNode.StandsFor node.fields fields →
        node.StandsFor (.object
          { name, interfaces := node.interfaces.filterMap TypeNode.name?, fields })
  | other {node : DefinitionNode} {name : String} :
    node.kind ∈ ["EnumTypeDefinition", "UnionTypeDefinition", "InputObjectTypeDefinition"] →
      node.name = some name → node.StandsFor (.other name)

/-! ### What is looked at -/

/-- The kinds of definitions that count. -/
def countedKinds : List String := [
  "ScalarTypeDefinition", "InterfaceTypeDefinition", "ObjectTypeDefinition",
  "EnumTypeDefinition", "UnionTypeDefinition", "InputObjectTypeDefinition"]

/-- A definition counts if it has a name and is of a kind that does. -/
def DefinitionNode.counts (node : DefinitionNode) : Bool :=
  node.name.isSome && countedKinds.contains node.kind

/-- The types of the fields of a definition, where fields are part of what it stands for. -/
def DefinitionNode.fieldTypes (node : DefinitionNode) : List TypeNode :=
  if node.kind = "InterfaceTypeDefinition" ∨ node.kind = "ObjectTypeDefinition" then
    node.fields.map FieldNode.type
  else []

/-- The type node and those inside it, from the outside in, as far as modifiers lead. -/
def TypeNode.chain : TypeNode → List TypeNode
  | .bare kind name => [.bare kind name]
  | .around kind name inner =>
    .around kind name inner
      :: if kind = "NonNullType" ∨ kind = "ListType" then inner.chain else []

namespace DocumentNode

/-- The definitions that count. -/
def counted (node : DocumentNode) : List DefinitionNode :=
  node.definitions.filter DefinitionNode.counts

/-- The field types of the definitions that count. -/
def fieldTypes (node : DocumentNode) : List TypeNode :=
  node.counted.flatMap DefinitionNode.fieldTypes

/-- The type nodes that are looked at: by definition, then by field, then from the outside
    in. -/
def typeNodes (node : DocumentNode) : List TypeNode :=
  node.fieldTypes.flatMap TypeNode.chain

end DocumentNode

/-! ### Offences -/

namespace TypeNode

/-- What is wrong with a type node, apart from the nodes inside. A node of an unknown kind
    offends whatever else it has. -/
def offence? (node : TypeNode) : Option Failure :=
  if node.kind = "NamedType" then
    if node.name? = none then some (.syntaxTree .namelessType) else none
  else if node.kind = "NonNullType" ∨ node.kind = "ListType" then
    match node with
    | .bare kind _ => some (.syntaxTree (.noInnerType kind))
    | .around .. => none
  else some (.unknownKind node.kind)

/-- The wording of what is wrong with a type node. -/
def complaint (node : TypeNode) : String :=
  if node.kind = "NamedType" then "JSON AST parse error: NamedType without a name"
  else if node.kind = "NonNullType" ∨ node.kind = "ListType" then
    "JSON AST parse error: " ++ node.kind ++ " without an inner type"
  else "Unknown type kind " ++ node.kind

theorem message_of_offence? {node : TypeNode} {failure : Failure}
    (h : node.offence? = some failure) : failure.message = node.complaint := by
  unfold offence? at h
  unfold complaint
  split at h
  · rename_i hnamed
    rw [if_pos hnamed]
    split at h
    · injection h with h
      rw [← h]
      rfl
    · contradiction
  · rename_i hnamed
    rw [if_neg hnamed]
    split at h
    · rename_i hmodifier
      rw [if_pos hmodifier]
      cases node with
      | bare kind name =>
        injection h with h
        rw [← h]
        exact (String.append_assoc ..).symm
      | around kind name inner => contradiction
    · rename_i hmodifier
      rw [if_neg hmodifier]
      injection h with h
      rw [← h]
      rfl

end TypeNode

/-! ### Types -/

/-- A named type is read of its name, whatever else it has. -/
theorem toType_of_named {node : TypeNode} (h : node.kind = "NamedType") :
    node.toType = match node.name? with
      | some name => .ok (.named name)
      | none => faulty .namelessType := by
  cases node with
  | bare kind name => cases name <;> exact if_pos h
  | around kind name inner => cases name <;> exact if_pos h

theorem toType_around_nonNull (name : Option String) (inner : TypeNode) :
    (TypeNode.around "NonNullType" name inner).toType = .nonNull <$> inner.toType := by
  cases name <;> rfl

theorem toType_around_list (name : Option String) (inner : TypeNode) :
    (TypeNode.around "ListType" name inner).toType = .list <$> inner.toType := by
  cases name <;> rfl

/-- What a type node stands for is read of it. -/
theorem toType_of_standsFor {node : TypeNode} {type : TypeRef} (h : node.StandsFor type) :
    node.toType = .ok type := by
  induction h with
  | named hkind hname => rw [toType_of_named hkind, hname]
  | nonNull _ ih =>
    rw [toType_around_nonNull, ih]
    rfl
  | list _ ih =>
    rw [toType_around_list, ih]
    rfl

/-- A type node stands for what is read of it. -/
theorem standsFor_of_toType {node : TypeNode} {type : TypeRef} (h : node.toType = .ok type) :
    node.StandsFor type := by
  fun_induction TypeNode.toType node generalizing type with
  | case1 name =>
    injection h with h
    subst h
    exact .named rfl rfl
  | case5 inner name =>
    injection h with h
    subst h
    exact .named rfl rfl
  | case7 name inner _ ih =>
    obtain ⟨type, htype, rfl⟩ := map_eq_ok_iff.1 h
    exact .nonNull (ih htype)
  | case8 name inner _ _ ih =>
    obtain ⟨type, htype, rfl⟩ := map_eq_ok_iff.1 h
    exact .list (ih htype)
  | case2 | case3 | case4 | case6 | case9 => contradiction

theorem toType_eq_ok_iff {node : TypeNode} {type : TypeRef} :
    node.toType = .ok type ↔ node.StandsFor type :=
  ⟨standsFor_of_toType, toType_of_standsFor⟩

/-- The failure of a type node is the first offence on its chain. -/
theorem failureOf?_toType (node : TypeNode) :
    failureOf? node.toType = node.chain.findSome? TypeNode.offence? := by
  fun_induction TypeNode.toType node with
  | case1 | case2 | case5 | case6 => rfl
  | case3 kind name hnamed hmodifier =>
    simp [TypeNode.chain, TypeNode.offence?, TypeNode.kind, hnamed, hmodifier, faulty]
  | case4 kind name hnamed hmodifier =>
    simp [TypeNode.chain, TypeNode.offence?, TypeNode.kind, hnamed, hmodifier]
  | case7 name inner _ ih =>
    -- The modifier itself is sound, so the search goes on inside.
    rw [failureOf?_map, ih]
    rfl
  | case8 name inner _ _ ih =>
    rw [failureOf?_map, ih]
    rfl
  | case9 kind name inner hnamed hnonNull hlist =>
    simp [TypeNode.chain, TypeNode.offence?, TypeNode.kind, hnamed, hnonNull, hlist]

/-- A type node stands for a type iff no node of its chain offends. -/
theorem exists_standsFor_iff {node : TypeNode} :
    (∃ type, node.StandsFor type) ↔ node.chain.findSome? TypeNode.offence? = none := by
  rw [← failureOf?_toType, failureOf?_eq_none_iff]
  simp only [toType_eq_ok_iff]

/-! ### Fields -/

/-- Fields are read by the types of their nodes. -/
theorem toFields_eq (nodes : List FieldNode) :
    toFields nodes
      = nodes.mapM fun node => (fun type => { name := node.name, type }) <$> node.type.toType := by
  rw [toFields]
  congr 1

/-- Fields are read iff each has a type, and then they stand for their nodes. -/
theorem toFields_eq_ok_iff {nodes : List FieldNode} {fields : List Field} :
    toFields nodes = .ok fields ↔ List.Forall₂ FieldNode.StandsFor nodes fields := by
  have hfield : ∀ (node : FieldNode) (f : Field),
      (fun type => ({ name := node.name, type } : Field)) <$> node.type.toType = .ok f
        ↔ node.StandsFor f := by
    rintro node ⟨name, type⟩
    simp only [map_eq_ok_iff, toType_eq_ok_iff, FieldNode.StandsFor, Field.mk.injEq]
    constructor
    · rintro ⟨t, ht, rfl, rfl⟩
      exact ⟨rfl, ht⟩
    · rintro ⟨rfl, ht⟩
      exact ⟨type, ht, rfl, rfl⟩
  simp only [toFields_eq, mapM_eq_ok_iff, hfield]

/-- The failure of fields is the first offence on the chains of their types. -/
theorem failureOf?_toFields (nodes : List FieldNode) :
    failureOf? (toFields nodes)
      = ((nodes.map FieldNode.type).flatMap TypeNode.chain).findSome? TypeNode.offence? := by
  rw [toFields_eq, failureOf?_mapM, findSome?_flatMap, List.findSome?_map]
  simp only [failureOf?_map, failureOf?_toType, Function.comp_def]

/-! ### Definitions -/

/-- The outcome of a definition with a name, by its kind. -/
theorem outcome_toDefinition_of_name {node : DefinitionNode} {name : String}
    (h : node.name = some name) :
    node.toDefinition.outcome =
      if node.kind = "ScalarTypeDefinition" then .ok (some (.scalar name))
      else if node.kind = "InterfaceTypeDefinition" then
        (fun fields => some (.interface name fields)) <$> toFields node.fields
      else if node.kind = "ObjectTypeDefinition" then
        (fun fields => some (.object
          { name, interfaces := node.interfaces.filterMap TypeNode.name?, fields }))
          <$> toFields node.fields
      else if node.kind = "EnumTypeDefinition" ∨ node.kind = "UnionTypeDefinition"
          ∨ node.kind = "InputObjectTypeDefinition" then .ok (some (.other name))
      else .ok none := by
  rw [DefinitionNode.toDefinition, h]
  dsimp only
  split
  · rfl
  split
  · cases toFields node.fields <;> rfl
  split
  · cases toFields node.fields <;> rfl
  split <;> rfl

/-- A definition that does not count is left out. -/
theorem outcome_toDefinition_of_not_counts {node : DefinitionNode}
    (h : ¬ node.counts = true) : node.toDefinition.outcome = .ok none := by
  cases hname : node.name with
  | none =>
    rw [DefinitionNode.toDefinition, hname]
    rfl
  | some name =>
    have hkind : node.kind ∉ countedKinds := by
      simpa [DefinitionNode.counts, hname] using h
    simp only [countedKinds, List.mem_cons, List.not_mem_nil, or_false, not_or] at hkind
    obtain ⟨hscalar, hinterface, hobject, hother⟩ := hkind
    rw [outcome_toDefinition_of_name hname, if_neg hscalar, if_neg hinterface, if_neg hobject,
      if_neg (by simpa using hother)]

/-- A definition that counts stands for what is read of it. -/
theorem exists_standsFor_of_toDefinition {node : DefinitionNode} (h : node.counts = true)
    {read : Option Definition} (hread : node.toDefinition.outcome = .ok read) :
    ∃ definition, read = some definition ∧ node.StandsFor definition := by
  rw [DefinitionNode.counts, Bool.and_eq_true, Option.isSome_iff_exists] at h
  obtain ⟨⟨name, hname⟩, hcounted⟩ := h
  rw [outcome_toDefinition_of_name hname] at hread
  split at hread
  · rename_i hkind
    injection hread with hread
    exact ⟨_, hread.symm, .scalar hkind hname⟩
  split at hread
  · rename_i hkind
    obtain ⟨fields, hfields, rfl⟩ := map_eq_ok_iff.1 hread
    exact ⟨_, rfl, .interface hkind hname (toFields_eq_ok_iff.1 hfields)⟩
  split at hread
  · rename_i hkind
    obtain ⟨fields, hfields, rfl⟩ := map_eq_ok_iff.1 hread
    exact ⟨_, rfl, .object hkind hname (toFields_eq_ok_iff.1 hfields)⟩
  split at hread
  · rename_i hkind
    injection hread with hread
    exact ⟨_, hread.symm, .other (by simpa using hkind) hname⟩
  · -- No kind is left that counts.
    rename_i hscalar hinterface hobject hother
    simp [countedKinds, hscalar, hinterface, hobject, hother] at hcounted

/-- The failure of a definition that counts is the first offence on the chains of its field
    types; one that does not count has none. -/
theorem failureOf?_outcome_toDefinition (node : DefinitionNode) :
    failureOf? node.toDefinition.outcome
      = if node.counts then
          (node.fieldTypes.flatMap TypeNode.chain).findSome? TypeNode.offence?
        else none := by
  split
  · rename_i hcounts
    rw [DefinitionNode.counts, Bool.and_eq_true, Option.isSome_iff_exists] at hcounts
    obtain ⟨⟨name, hname⟩, -⟩ := hcounts
    rw [outcome_toDefinition_of_name hname, DefinitionNode.fieldTypes]
    by_cases hinterface : node.kind = "InterfaceTypeDefinition"
    · simp [hinterface, failureOf?_toFields]
    · by_cases hobject : node.kind = "ObjectTypeDefinition"
      · simp [hobject, failureOf?_toFields]
      · simp only [hinterface, hobject, or_self, if_false]
        split
        · rfl
        · split <;> rfl
  · rename_i hcounts
    rw [outcome_toDefinition_of_not_counts hcounts]
    rfl

/-! ### Documents -/

namespace DocumentNode

/-- All field types stand for types iff no node offends of those that are looked at. -/
theorem forall_standsFor_iff {node : DocumentNode} :
    (∀ type ∈ node.fieldTypes, ∃ t, type.StandsFor t)
      ↔ node.typeNodes.findSome? TypeNode.offence? = none := by
  rw [typeNodes, findSome?_flatMap, List.findSome?_eq_none_iff]
  simp only [exists_standsFor_iff]

/-- The failure of all definitions is the first offence among the nodes that are looked
    at. -/
theorem failureOf?_mapM_toDefinition (node : DocumentNode) :
    failureOf? (node.definitions.mapM fun definition => definition.toDefinition.outcome)
      = node.typeNodes.findSome? TypeNode.offence? := by
  rw [failureOf?_mapM, typeNodes, fieldTypes, counted, List.flatMap_assoc, findSome?_flatMap]
  induction node.definitions with
  | nil => rfl
  | cons definition rest ih =>
    rw [List.findSome?_cons, ih, failureOf?_outcome_toDefinition, List.filter_cons]
    by_cases hcounts : definition.counts = true
    · rw [if_pos hcounts, if_pos hcounts, List.findSome?_cons]
    · rw [if_neg hcounts, if_neg hcounts]

/-- What is read of definitions are the definitions that the counted ones stand for. -/
theorem standsFor_filterMap {nodes : List DefinitionNode} {read : List (Option Definition)}
    (h : List.Forall₂ (fun node r => node.toDefinition.outcome = .ok r) nodes read) :
    List.Forall₂ DefinitionNode.StandsFor (nodes.filter DefinitionNode.counts)
      (read.filterMap id) := by
  induction h with
  | nil => exact .nil
  | @cons node r _ _ hread _ ih =>
    by_cases hcounts : node.counts = true
    · obtain ⟨definition, rfl, hstands⟩ := exists_standsFor_of_toDefinition hcounts hread
      rw [List.filter_cons, if_pos hcounts]
      exact .cons hstands ih
    · rw [outcome_toDefinition_of_not_counts hcounts, Except.ok.injEq] at hread
      rw [← hread, List.filter_cons, if_neg hcounts]
      exact ih

/-- The outcome of a document that is called one. -/
theorem outcome_toDocument {node : DocumentNode} (h : node.kind = "Document") :
    node.toDocument.outcome
      = (fun read => { definitions := read.filterMap id })
        <$> node.definitions.mapM fun definition => definition.toDefinition.outcome := by
  rw [toDocument, if_pos h, Run.outcome_bind, Run.outcome_mapM]
  rfl

end DocumentNode

/-- **Reading a syntax tree.** A tree that is no document is refused as such. A document has
    an outcome without failure iff every field type of the definitions that count is a chain
    of modifiers around a name, and then its definitions are what these stand for, in order.
    Otherwise it fails with the first node that offends, of all nodes that are looked at. -/
theorem outcome_parseTree_of_ofText {text : String} {node : DocumentNode}
    (h : DocumentNode.ofText text = .ok node) :
    (node.kind ≠ "Document" → ∃ failure, (parseTree text).outcome = .error failure
        ∧ failure = .syntaxTree (.notDocument node.kind)
        ∧ failure.message
            = "JSON AST parse error: expected a Document node, found " ++ node.kind)
      ∧ (node.kind = "Document" →
        ((∀ type ∈ node.fieldTypes, ∃ t, type.StandsFor t)
          ↔ ∃ d, (parseTree text).outcome = .ok d
            ∧ List.Forall₂ DefinitionNode.StandsFor node.counted d.definitions)
        ∧ ((¬ ∀ type ∈ node.fieldTypes, ∃ t, type.StandsFor t) →
          ∃ before bad after failure, node.typeNodes = before ++ bad :: after
            ∧ (∀ n ∈ before, n.offence? = none)
            ∧ bad.offence? = some failure
            ∧ failure.message = bad.complaint
            ∧ (parseTree text).outcome = .error failure)) := by
  rw [outcome_parseTree h]
  refine ⟨?_, ?_⟩
  · intro hkind
    refine ⟨_, ?_, rfl, (String.append_assoc ..).symm⟩
    rw [DocumentNode.toDocument, if_neg hkind]
    rfl
  · intro hkind
    rw [DocumentNode.forall_standsFor_iff, ← DocumentNode.failureOf?_mapM_toDefinition,
      DocumentNode.outcome_toDocument hkind]
    constructor
    · rw [failureOf?_eq_none_iff]
      constructor
      · rintro ⟨read, hread⟩
        rw [hread]
        exact ⟨_, rfl, DocumentNode.standsFor_filterMap (mapM_eq_ok_iff.1 hread)⟩
      · rintro ⟨d, hd, -⟩
        obtain ⟨read, hread, -⟩ := map_eq_ok_iff.1 hd
        exact ⟨read, hread⟩
    · intro hfails
      obtain ⟨failure, hfailure⟩ := Option.ne_none_iff_exists'.1 hfails
      have hfirst := hfailure
      rw [DocumentNode.failureOf?_mapM_toDefinition, List.findSome?_eq_some_iff] at hfirst
      obtain ⟨before, bad, after, hnodes, hbad, hbefore⟩ := hfirst
      refine ⟨before, bad, after, failure, hnodes, hbefore, hbad,
        TypeNode.message_of_offence? hbad, ?_⟩
      rw [failureOf?_eq_some_iff.1 hfailure]
      rfl

/-- An enum whose field is of an unknown kind, which does not matter, and an object with two
    fields that offend, the first by a modifier around nothing. -/
def hollowTree : Json.Value :=
  dumpNode "Document" [("definitions", .array [
    dumpNode "EnumTypeDefinition" [("name", dumpName "Colour"), ("fields", .array [
      dumpNode "Field" [("name", dumpName "red"), ("type", dumpNode "Shade" [])]])],
    dumpNode "ObjectTypeDefinition" [("name", dumpName "Book"), ("fields", .array [
      dumpNode "Field" [("name", dumpName "pages"),
        ("type", dumpNode "ListType" [("type", dumpNode "NonNullType" [])])],
      dumpNode "Field" [("name", dumpName "colour"), ("type", dumpNode "Shade" [])]])]])]

/-- The nodes of that tree. -/
def hollowNode : DocumentNode where
  kind := "Document"
  definitions := [
    { kind := "EnumTypeDefinition", name := some "Colour", interfaces := []
      fields := [{ name := "red", type := .bare "Shade" none }] },
    { kind := "ObjectTypeDefinition", name := some "Book", interfaces := []
      fields := [
        { name := "pages", type := .around "ListType" none (.bare "NonNullType" none) },
        { name := "colour", type := .bare "Shade" none }] }]

/-- The modifier around nothing is the first node that offends. -/
theorem outcome_parseTree_of_ofText_hollowTree :
    DocumentNode.ofText hollowTree.compact = .ok hollowNode
      ∧ (parseTree hollowTree.compact).outcome
        = .error (.syntaxTree (.noInnerType "NonNullType")) := by
  have hread : DocumentNode.ofText hollowTree.compact = .ok hollowNode := by
    rw [DocumentNode.ofText, Json.readWhole_of_carries ignoresAdded_documentRecord
      (Json.carries_tree hollowTree) (Json.spells_compact hollowTree)]
    decide +kernel
  have hfirst : hollowNode.typeNodes.findSome? TypeNode.offence?
      = some (.syntaxTree (.noInnerType "NonNullType")) := rfl
  have hoffends : ¬ ∀ type ∈ hollowNode.fieldTypes, ∃ t, type.StandsFor t := by
    rw [DocumentNode.forall_standsFor_iff, hfirst]
    exact Option.some_ne_none _
  obtain ⟨-, hdocument⟩ := outcome_parseTree_of_ofText hread
  obtain ⟨before, bad, after, failure, hnodes, hbefore, hbad, -, hfails⟩ :=
    (hdocument rfl).2 hoffends
  -- The failure is that of the first offence, which is known.
  have hfailure := List.findSome?_eq_some_iff.2 ⟨before, bad, after, hnodes, hbad, hbefore⟩
  rw [hfirst, Option.some.injEq] at hfailure
  refine ⟨hread, ?_⟩
  rw [hfails, ← hfailure]

end RelayCollections.SyntaxTree
