import RelayCollections.Compilation
import RelayCollections.Proofs.Flattening
import RelayCollections.Proofs.Registry

namespace RelayCollections

/-!
# Compilation as a lookup in the document

What the collections of a document are, said of its definitions alone: there is no
registry, and nothing is said of the order in which things are found out.

* `Document.base?` — what the leaf of a field's type stands for;
* `Document.result` — the collections, or the failure that comes first;
* `outcome_compile` — compilation gives just this result.
-/

/-! ### The result of a document -/

/-- The collection of an object type, of those fields of it that are stored. -/
def ObjectType.collection (stored? : Field → Option (String × Descriptor)) (type : ObjectType) :
    Collection where
  name := type.name
  fields := type.fields.filterMap stored?

namespace Document

/-- Some object type of the document has the name and is a node. -/
def declaresNode (d : Document) (name : String) : Bool :=
  d.definitions.any fun
    | .object type => type.name == name && type.isNode
    | _ => false

/-- Some interface of the document has the name. -/
def declaresInterface (d : Document) (name : String) : Bool :=
  d.definitions.any fun
    | .interface declared _ => declared == name
    | _ => false

/-- The base type of a leaf: of the name without a final `Connection`, the storage as a
    built-in scalar, then as a custom one, then the node, then the interface. -/
def base? (d : Document) (config : Config) (leaf : String) : Option BaseType :=
  let name := substituteConnection leaf
  ((builtInStorage? name).map .primitive).or <|
    (config.scalars.custom[name]?.map .primitive).or <|
      if d.declaresNode name then some (.reference (some name))
      else if d.declaresInterface name then some (.reference none)
      else none

/-- The stored field of a declared one, if its leaf has a base type. -/
def storedField? (d : Document) (config : Config) (f : Field) :
    Option (String × Descriptor) :=
  (d.base? config f.type.leaf).map fun base => (f.name, .flattened base f.type.modifiers)

/-- The first declared scalar that cannot be stored, where all must be. -/
def firstUnmapped? (d : Document) (config : Config) : Option String :=
  if config.strict then
    (d.scalars.map Definition.name).find? fun name => !config.scalars.contains name
  else none

/-- The leaf of the first field without a base type, node by node and field by field. -/
def firstUnresolved? (d : Document) (config : Config) : Option String :=
  ((d.nodes.flatMap ObjectType.fields).map fun f => f.type.leaf).find? fun leaf =>
    (d.base? config leaf).isNone

/-- The collections of a document, one for each node in the order of declaration, or the
    failure that comes first. -/
def result (d : Document) (config : Config) : Except Failure (List Collection) :=
  match d.firstUnmapped? config, d.firstUnresolved? config with
  | some name, _ => .error (.unmappedScalar name)
  | none, some leaf => .error (.unknownType (substituteConnection leaf))
  | none, none => .ok (d.nodes.map (ObjectType.collection (d.storedField? config)))

/-- The collections store the nodes: one collection for each node and one stored field for
    each of its fields, in the same order and under the same names. -/
def Stores (d : Document) (config : Config) : List Collection → Prop :=
  List.Forall₂ (fun type c => c.name = type.name
    ∧ List.Forall₂ (fun f entry => d.storedField? config f = some entry)
        type.fields c.fields) d.nodes

/-! ### Lookups agree -/

theorem declaresNode_iff {d : Document} {name : String} :
    d.declaresNode name = true ↔ ∃ type ∈ d.nodes, type.name = name := by
  rw [declaresNode, List.any_eq_true]
  constructor
  · rintro ⟨definition, hmem, h⟩
    cases definition with
    | object type =>
      simp only [Bool.and_eq_true, beq_iff_eq] at h
      exact ⟨type, mem_nodes.2 ⟨hmem, h.2⟩, h.1⟩
    | _ => simp at h
  · rintro ⟨type, hmem, rfl⟩
    obtain ⟨hmem, hnode⟩ := mem_nodes.1 hmem
    exact ⟨.object type, hmem, by simp [hnode]⟩

theorem declaresInterface_iff {d : Document} {name : String} :
    d.declaresInterface name = true ↔ ∃ fields, .interface name fields ∈ d.definitions := by
  rw [declaresInterface, List.any_eq_true]
  constructor
  · rintro ⟨definition, hmem, h⟩
    cases definition with
    | interface declared fields =>
      simp only [beq_iff_eq] at h
      exact ⟨fields, h ▸ hmem⟩
    | _ => simp at h
  · rintro ⟨fields, hmem⟩
    exact ⟨_, hmem, by simp⟩

/-- The base type of a leaf where scalars of both kinds are looked up at once. -/
theorem base?_eq (d : Document) (config : Config) (leaf : String) :
    d.base? config leaf = match config.scalars.storage? (substituteConnection leaf) with
      | some storage => some (.primitive storage)
      | none =>
        if d.declaresNode (substituteConnection leaf) then
          some (.reference (some (substituteConnection leaf)))
        else if d.declaresInterface (substituteConnection leaf) then some (.reference none)
        else none := by
  rw [base?, ScalarTable.storage?]
  cases builtInStorage? (substituteConnection leaf) with
  | some storage => rfl
  | none => cases config.scalars.custom[substituteConnection leaf]? <;> rfl

/-- The scope in which the fields of a document are described. -/
def scope (d : Document) (config : Config) : Scope where
  registry := d.registry
  scalars := config.scalars

@[simp] theorem registry_scope (d : Document) (config : Config) :
    (d.scope config).registry = d.registry := rfl

@[simp] theorem scalars_scope (d : Document) (config : Config) :
    (d.scope config).scalars = config.scalars := rfl

/-- The registry and the scalar table of a document answer as its definitions do. -/
theorem base?_scope (d : Document) (config : Config) (leaf : String) :
    (d.scope config).base? (substituteConnection leaf) = d.base? config leaf := by
  have hnode : d.registry.isRefTarget (substituteConnection leaf)
      = d.declaresNode (substituteConnection leaf) := by
    rw [Bool.eq_iff_iff, isRefTarget_registry, declaresNode_iff]
  have hinterface : d.registry.isPolymorphicTarget (substituteConnection leaf)
      = d.declaresInterface (substituteConnection leaf) := by
    rw [Bool.eq_iff_iff, isPolymorphicTarget_registry, declaresInterface_iff]
  -- Scalars come before names of the document, in the scope as among the definitions.
  cases hs : config.scalars.storage? (substituteConnection leaf) with
  | some storage => simp only [Scope.base?, scalars_scope, base?_eq, hs]
  | none =>
    simp only [Scope.base?, scalars_scope, registry_scope, hnode, hinterface, base?_eq, hs]

end Document

/-! ### Compilation -/

/-- The check of declared scalars stops at the first that cannot be stored. -/
theorem outcome_checkScalars (config : Config) (names : List String) :
    (checkScalars config names).outcome
      = unlessFound ((if config.strict then names.find? fun n => !config.scalars.contains n
          else none).map .unmappedScalar) () := by
  induction names with
  | nil => cases config.strict <;> rfl
  | cons name rest ih =>
    rw [checkScalars, Run.outcome_bind, ih, checkScalar]
    by_cases hmapped : config.scalars.contains name = true
    · -- A scalar that can be stored is passed over, strict or not.
      simp only [hmapped, if_true, List.find?_cons, Bool.not_true]
      rfl
    · cases hstrict : config.strict with
      | false => simp [hmapped, bind, Except.bind]
      | true => simp [hmapped, bind, Except.bind]

namespace Scope

variable (d : Document) (config : Config)

/-- A field of a document is described iff its leaf has a base type. -/
theorem outcome_field (node : String) (f : Field) :
    ((d.scope config).field node f).outcome
      = foundOr (.unknownType (substituteConnection f.type.leaf)) (d.storedField? config f) := by
  rw [field, Run.outcome_bind, outcome_describe, Document.registry_scope,
    Document.resolve_registry, Document.base?_scope]
  simp only [Run.outcome_bind, Run.outcome_tell, Run.outcome_pure, ok_bind, foundOr_bind_ok,
    Option.map_map, Function.comp_def, Document.storedField?]

/-- The collection of a type is a lookup for each of its fields. -/
theorem outcome_collection (type : ObjectType) :
    ((d.scope config).collection type).outcome
      = (type.fields.mapM fun f =>
          foundOr (.unknownType (substituteConnection f.type.leaf)) (d.storedField? config f))
        >>= fun fields => .ok { name := type.name, fields } := by
  rw [collection, Run.outcome_bind, Run.outcome_mapM]
  simp only [outcome_field, Run.outcome_bind, Run.outcome_tell, Run.outcome_pure, ok_bind]

/-- The collections of types are those of one type after another. -/
theorem outcome_collections (types : List ObjectType) :
    ((d.scope config).collections types).outcome
      = types.mapM fun type => ((d.scope config).collection type).outcome := by
  rw [collections, Run.outcome_bind, Run.outcome_mapM]
  simp only [Run.outcome_bind, Run.outcome_tell, Run.outcome_pure, ok_bind]
  exact bind_pure _

/-- The collections of a document fail at the first field whose leaf has no base type. -/
theorem outcome_collections_nodes :
    ((d.scope config).collections d.nodes).outcome
      = unlessFound ((d.firstUnresolved? config).map fun leaf =>
            .unknownType (substituteConnection leaf))
          (d.nodes.map (ObjectType.collection (d.storedField? config))) := by
  -- A field is stored iff its leaf has a base type, so both searches stop at one place.
  have hfirst : d.firstUnresolved? config
      = ((d.nodes.flatMap ObjectType.fields).find? fun f =>
          (d.storedField? config f).isNone).map fun f => f.type.leaf := by
    simp only [Document.firstUnresolved?, List.find?_map, Document.storedField?,
      Option.isNone_map, Function.comp_def]
  simp only [outcome_collections, outcome_collection, mapM_foundOr, unlessFound_bind_ok,
    mapM_unlessFound ObjectType.fields, hfirst, Option.map_map, Function.comp_def]
  rfl

/-- What the collections of a document are, if there are any, they store its nodes. -/
theorem stores_of_outcome_collections {cs : List Collection}
    (h : ((d.scope config).collections d.nodes).outcome = .ok cs) : d.Stores config cs := by
  rw [outcome_collections, mapM_eq_ok_iff] at h
  refine h.imp fun type c hc => ?_
  rw [outcome_collection] at hc
  obtain ⟨fields, hfields, hc⟩ := bind_eq_ok_iff.1 hc
  obtain rfl := Except.ok.inj hc
  -- What holds of types and collections holds of fields and entries: each was found.
  refine ⟨rfl, (mapM_eq_ok_iff.1 hfields).imp fun f entry hentry => ?_⟩
  cases hstored : d.storedField? config f with
  | none => simp [hstored] at hentry
  | some stored => simpa [hstored] using hentry

end Scope

/-- Classification has an outcome, whatever the document. -/
theorem outcome_classify (d : Document) (scalars : ScalarTable) :
    (classify d scalars).outcome = .ok d.classification := rfl

/-- A compilation is a check of the declared scalars and then a traversal of the nodes. -/
theorem outcome_compile_eq (d : Document) (config : Config) :
    (compile d config).outcome
      = unlessFound ((d.firstUnmapped? config).map .unmappedScalar) ()
        >>= fun _ => ((d.scope config).collections d.nodes).outcome := by
  rw [compile, Run.outcome_bind, ScalarTable.check, Run.outcome_tell, ok_bind, Run.outcome_bind,
    outcome_classify, ok_bind, Run.outcome_bind, outcome_checkScalars]
  rfl

/-- The collections that come of a compilation store the nodes of the document. -/
theorem stores_of_compile {d : Document} {config : Config} {cs : List Collection}
    (h : (compile d config).outcome = .ok cs) : d.Stores config cs := by
  rw [outcome_compile_eq] at h
  cases hunmapped : d.firstUnmapped? config with
  | some name => simp [hunmapped] at h
  | none =>
    simp only [hunmapped, Option.map_none, unlessFound_none, ok_bind] at h
    exact Scope.stores_of_outcome_collections d config h

/-- **Compilation is a lookup.** The outcome of a compilation is the result that the
    definitions of the document have; if there are collections, they store the nodes of
    the document, one by one. -/
theorem outcome_compile (d : Document) (config : Config) :
    (compile d config).outcome = d.result config
      ∧ ∀ cs, d.result config = .ok cs → d.Stores config cs := by
  have heq : (compile d config).outcome = d.result config := by
    rw [outcome_compile_eq, Scope.outcome_collections_nodes, Document.result]
    -- The check of scalars comes before all fields, so its failure hides theirs.
    cases d.firstUnmapped? config with
    | some name => rfl
    | none => cases d.firstUnresolved? config <;> rfl
  refine ⟨heq, fun cs hcs => ?_⟩
  rw [← heq] at hcs
  exact stores_of_compile hcs

/-- A document in which a node refers to what is declared after it, once by way of a
    connection that is not declared at all, and in which an interface has a node's name. -/
def forwardReferences : Document where
  definitions := [
    .interface "Post" [],
    .object { name := "User", interfaces := ["Node"], fields := [
      { name := "posts", type := .nonNull (.named "PostConnection") },
      { name := "tags", type := .nonNull (.list (.nonNull (.named "Tag"))) },
      { name := "owner", type := .named "Actor" }] },
    .interface "Actor" [],
    .object { name := "Post", interfaces := ["Actor", "Node"], fields := [] }]

/-- One custom scalar, stored as a string. -/
def tagsAsStrings : Config where
  scalars := { custom := .ofList [("Tag", Storage.string)] }

/-- The collections of that document, with tags as strings. -/
def forwardCollections : List Collection := [
  { name := "User", fields := [
    ("posts", { base := .reference (some "Post"), required := true }),
    ("tags", { base := .primitive .string, isList := true, required := true,
               listRequired := true }),
    ("owner", { base := .reference none })] },
  { name := "Post", fields := [] }]

/-- Both parts of the theorem at that document. -/
theorem outcome_compile_forwardReferences :
    (compile forwardReferences tagsAsStrings).outcome = .ok forwardCollections
      ∧ forwardReferences.Stores tagsAsStrings forwardCollections := by
  have hresult : forwardReferences.result tagsAsStrings = .ok forwardCollections := rfl
  have hcompile := outcome_compile forwardReferences tagsAsStrings
  exact ⟨hcompile.1.trans hresult, hcompile.2 _ hresult⟩

end RelayCollections
