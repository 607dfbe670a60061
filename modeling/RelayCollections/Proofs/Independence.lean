import RelayCollections.Proofs.Resolution

namespace RelayCollections

/-!
# What a compilation depends on

Two documents are compared. What a compilation looks up in a document is little: the names
and fields of its nodes, the names of its interfaces, and the scalars that cannot be stored.
Where two documents agree on these they have the same collections or the same failure, and
where one merely lists its definitions in another order than the other, the collections
differ in their order alone.

* `Document.firstFailure?` — the outcome of a compilation as one lookup for failures beside
  the collections of the nodes;
* `outcome_compile_congr` — whatever else two documents declare has no influence;
* `outcome_compile_perm` — the order of declaration orders the collections and does no more.
-/

/-- What is stored of a node: its name and its fields, not the interfaces it lists. -/
def ObjectType.stored (type : ObjectType) : String × List Field :=
  (type.name, type.fields)

namespace Document

/-! ### Outcomes without a traversal -/

/-- The failure of a document that comes first: scalars come before fields. -/
def firstFailure? (d : Document) (config : Config) : Option Failure :=
  ((d.firstUnmapped? config).map .unmappedScalar).or
    ((d.firstUnresolved? config).map fun leaf => .unknownType (substituteConnection leaf))

/-- A compilation is a search for failures beside one collection for each node. -/
theorem outcome_compile_eq_unlessFound (d : Document) (config : Config) :
    (compile d config).outcome
      = unlessFound (d.firstFailure? config)
          (d.nodes.map (ObjectType.collection (d.storedField? config))) := by
  rw [outcome_compile_eq, Scope.outcome_collections_nodes, firstFailure?]
  cases d.firstUnmapped? config with
  | some name => rfl
  | none => rfl

/-! ### Lookups that agree -/

section

variable {d d' : Document} {config config' : Config}

/-- Nodes that store the same have the same names. -/
theorem declaresNode_congr
    (hnodes : d.nodes.map ObjectType.stored = d'.nodes.map ObjectType.stored) (name : String) :
    d.declaresNode name = d'.declaresNode name := by
  have hnames : d.nodes.map ObjectType.name = d'.nodes.map ObjectType.name := by
    have hfirst := congrArg (List.map Prod.fst) hnodes
    rwa [List.map_map, List.map_map] at hfirst
  rw [Bool.eq_iff_iff, declaresNode_iff, declaresNode_iff, ← List.mem_map, hnames, List.mem_map]

theorem declaresInterface_congr
    (hinterfaces : ∀ name, (∃ fields, .interface name fields ∈ d.definitions)
      ↔ ∃ fields, .interface name fields ∈ d'.definitions) (name : String) :
    d.declaresInterface name = d'.declaresInterface name := by
  rw [Bool.eq_iff_iff, declaresInterface_iff, declaresInterface_iff]
  exact hinterfaces name

/-- Base types agree where declared names and scalars agree. A custom entry for a built-in
    scalar is never read. -/
theorem base?_congr (hnodes : ∀ name, d.declaresNode name = d'.declaresNode name)
    (hinterfaces : ∀ name, d.declaresInterface name = d'.declaresInterface name)
    (hscalars : ∀ name, builtInStorage? name = none →
      config.scalars.custom[name]? = config'.scalars.custom[name]?) (leaf : String) :
    d.base? config leaf = d'.base? config' leaf := by
  rw [base?, base?, hnodes, hinterfaces]
  cases hbuiltIn : builtInStorage? (substituteConnection leaf) with
  | some storage => rfl
  | none => rw [hscalars _ hbuiltIn]

/-- Fields are stored alike where base types agree. -/
theorem storedField?_congr (hbase : ∀ leaf, d.base? config leaf = d'.base? config' leaf) :
    d.storedField? config = d'.storedField? config' := by
  funext f
  rw [storedField?, storedField?, hbase]

/-- The fields of all nodes are part of what is stored of nodes. -/
theorem flatMap_fields_nodes (d : Document) :
    d.nodes.flatMap ObjectType.fields = (d.nodes.map ObjectType.stored).flatMap Prod.snd := by
  rw [List.flatMap_map]
  rfl

/-- The collections of nodes are made of what is stored of the nodes. -/
theorem map_collection_congr (stored? : Field → Option (String × Descriptor))
    {types types' : List ObjectType}
    (h : types.map ObjectType.stored = types'.map ObjectType.stored) :
    types.map (ObjectType.collection stored?) = types'.map (ObjectType.collection stored?) := by
  have hcollection : ObjectType.collection stored?
      = (fun stored => { name := stored.1, fields := stored.2.filterMap stored? })
        ∘ ObjectType.stored := rfl
  rw [hcollection, ← List.map_map, ← List.map_map, h]

end

end Document

/-! ### What has no influence -/

/-- **Compilation depends on little.** Two documents have the same collections, or the same
    failure, if their nodes have the same names and fields in the same order, their
    interfaces have the same names, and the first scalar that must be stored and cannot be
    is the same; and that under any two configurations that are equally strict and agree on
    the scalars that are not built in. -/
theorem outcome_compile_congr {d d' : Document} {config config' : Config}
    (hnodes : d.nodes.map ObjectType.stored = d'.nodes.map ObjectType.stored)
    (hinterfaces : ∀ name, (∃ fields, .interface name fields ∈ d.definitions)
      ↔ ∃ fields, .interface name fields ∈ d'.definitions)
    (hstrict : config.strict = config'.strict)
    (hscalars : ∀ name, builtInStorage? name = none →
      config.scalars.custom[name]? = config'.scalars.custom[name]?)
    (hunmapped : config.strict = true →
      (d.scalars.map Definition.name).find? (fun name => !config.scalars.contains name)
        = (d'.scalars.map Definition.name).find? fun name => !config'.scalars.contains name) :
    (compile d config).outcome = (compile d' config').outcome := by
  have hbase : ∀ leaf, d.base? config leaf = d'.base? config' leaf :=
    Document.base?_congr (Document.declaresNode_congr hnodes)
      (Document.declaresInterface_congr hinterfaces) hscalars
  have hfirstUnmapped : d.firstUnmapped? config = d'.firstUnmapped? config' := by
    rw [Document.firstUnmapped?, Document.firstUnmapped?, ← hstrict]
    by_cases h : config.strict = true
    · rw [if_pos h, if_pos h, hunmapped h]
    · rw [if_neg h, if_neg h]
  have hfirstUnresolved : d.firstUnresolved? config = d'.firstUnresolved? config' := by
    simp only [Document.firstUnresolved?, Document.flatMap_fields_nodes, hnodes, hbase]
  rw [Document.outcome_compile_eq_unlessFound, Document.outcome_compile_eq_unlessFound,
    Document.firstFailure?, Document.firstFailure?, hfirstUnmapped, hfirstUnresolved,
    Document.storedField?_congr hbase, Document.map_collection_congr _ hnodes]

/-- A document that is little more than one node. -/
def bareShop : Document where
  definitions := [
    .object { name := "Shop", interfaces := ["Node"], fields := [
      { name := "id", type := .named "ID" },
      { name := "seller", type := .named "SellerConnection" }] },
    .interface "Seller" []]

/-- The same node and interface in another order, among a connection, an edge, an object
    that is no node, an enum and a scalar. The node lists more and the interface has a
    field. -/
def crowdedShop : Document where
  definitions := [
    .scalar "Price",
    .interface "Seller" [{ name := "name", type := .named "Nobody" }],
    .object { name := "SellerConnection", interfaces := [], fields := [
      { name := "edges", type := .list (.named "SellerEdge") }] },
    .object { name := "SellerEdge", interfaces := [], fields := [] },
    .object { name := "Shop", interfaces := ["Seller", "Node"], fields := [
      { name := "id", type := .named "ID" },
      { name := "seller", type := .named "SellerConnection" }] },
    .other "Colour"]

/-- A configuration with an entry for a built-in scalar, which is never read. -/
def clashingConfig : Config where
  scalars := { custom := .ofList [("ID", Storage.number)] }

/-- All hypotheses hold of the two documents, and so does the conclusion. -/
theorem outcome_compile_congr_shops :
    bareShop.nodes.map ObjectType.stored = crowdedShop.nodes.map ObjectType.stored
      ∧ (∀ name, (∃ fields, .interface name fields ∈ bareShop.definitions)
        ↔ ∃ fields, .interface name fields ∈ crowdedShop.definitions)
      ∧ (∀ name, builtInStorage? name = none →
        ({} : Config).scalars.custom[name]? = clashingConfig.scalars.custom[name]?)
      ∧ (compile bareShop {}).outcome = (compile crowdedShop clashingConfig).outcome := by
  have hnodes : bareShop.nodes.map ObjectType.stored
      = crowdedShop.nodes.map ObjectType.stored := rfl
  have hinterfaces : ∀ name, (∃ fields, .interface name fields ∈ bareShop.definitions)
      ↔ ∃ fields, .interface name fields ∈ crowdedShop.definitions := by
    intro name
    simp [bareShop, crowdedShop]
  have hscalars : ∀ name, builtInStorage? name = none →
      ({} : Config).scalars.custom[name]? = clashingConfig.scalars.custom[name]? := by
    intro name hname
    have hne : ¬ "ID" = name := by
      rintro rfl
      exact absurd hname (by decide)
    simp [clashingConfig, Std.ExtTreeMap.ofList_singleton, hne]
  exact ⟨hnodes, hinterfaces, hscalars,
    outcome_compile_congr hnodes hinterfaces rfl hscalars (fun h => absurd h (by decide))⟩

/-! ### Order of declaration -/

/-- Whether a search finds anything does not depend on the order. -/
private theorem isSome_find?_perm {as bs : List α} (h : as.Perm bs) (p : α → Bool) :
    (as.find? p).isSome = (bs.find? p).isSome := by
  rw [Bool.eq_iff_iff, List.find?_isSome, List.find?_isSome]
  simp only [h.mem_iff]

/-- Two searches find something both or neither. -/
private theorem exists_or_none_of_isSome_eq {a b : Option α} (h : a.isSome = b.isSome) :
    (∃ x y, a = some x ∧ b = some y) ∨ (a = none ∧ b = none) := by
  cases a with
  | some x =>
    obtain ⟨y, hy⟩ := Option.isSome_iff_exists.1 h.symm
    exact Or.inl ⟨x, y, rfl, hy⟩
  | none => exact Or.inr ⟨rfl, Option.isNone_iff_eq_none.1 (Option.isSome_eq_false_iff.1 h.symm)⟩

namespace Document

section

variable {d d' : Document} (h : d.definitions.Perm d'.definitions)

include h

/-- The nodes of both orders are the same, each in its own order. -/
theorem nodes_perm : d.nodes.Perm d'.nodes :=
  h.filterMap _

/-- **Registries have no order.** Whatever the order of declaration, the same names are
    reference targets, polymorphic targets and aliases. -/
theorem registry_perm : d.registry = d'.registry := by
  have hadditions : d.additions.Perm d'.additions := by
    have hinterfaces : d.interfaces.Perm d'.interfaces := h.filter _
    have hconnections : d.connections.Perm d'.connections := h.filter _
    exact ((hinterfaces.map _).append (hconnections.map _)).append ((nodes_perm h).map _)
  rw [registry_eq, registry_eq]
  exact Registry.ofAdditions_congr fun _ => hadditions.mem_iff

/-- A leaf has the same base type in both orders. -/
theorem base?_perm (config : Config) (leaf : String) :
    d.base? config leaf = d'.base? config leaf := by
  rw [← base?_scope, ← base?_scope, scope, scope, registry_perm h]

/-- Some scalar cannot be stored in both orders or in neither. -/
theorem isSome_firstUnmapped?_perm (config : Config) :
    (d.firstUnmapped? config).isSome = (d'.firstUnmapped? config).isSome := by
  have hscalars : (d.scalars.map Definition.name).Perm (d'.scalars.map Definition.name) :=
    (h.filter _).map _
  rw [firstUnmapped?, firstUnmapped?]
  split
  · exact isSome_find?_perm hscalars _
  · rfl

/-- Some field has no base type in both orders or in neither. -/
theorem isSome_firstUnresolved?_perm (config : Config) :
    (d.firstUnresolved? config).isSome = (d'.firstUnresolved? config).isSome := by
  have hleaves : ((d.nodes.flatMap ObjectType.fields).map fun f => f.type.leaf).Perm
      ((d'.nodes.flatMap ObjectType.fields).map fun f => f.type.leaf) :=
    ((nodes_perm h).flatMap_right _).map _
  simp only [firstUnresolved?, base?_perm h config]
  exact isSome_find?_perm hleaves _

end

end Document

/-- **Order of declaration orders the collections and does no more.** If one document lists
    the definitions of another in any other order, both have the same registry. Either both
    have collections, and these are the same for each node, in the order of the nodes; or
    both have a scalar that must be stored and cannot be; or both have, instead, a field
    whose type is unknown. -/
theorem outcome_compile_perm {d d' : Document} (h : d.definitions.Perm d'.definitions)
    (config : Config) :
    (∃ c c', (classify d config.scalars).outcome = .ok c
        ∧ (classify d' config.scalars).outcome = .ok c' ∧ c.registry = c'.registry)
      ∧ ((∃ build : ObjectType → Collection,
            (compile d config).outcome = .ok (d.nodes.map build)
            ∧ (compile d' config).outcome = .ok (d'.nodes.map build)
            ∧ (d.nodes.map build).Perm (d'.nodes.map build))
        ∨ (∃ name name', (compile d config).outcome = .error (.unmappedScalar name)
            ∧ (compile d' config).outcome = .error (.unmappedScalar name'))
        ∨ ∃ name name', (compile d config).outcome = .error (.unknownType name)
            ∧ (compile d' config).outcome = .error (.unknownType name')) := by
  refine ⟨⟨_, _, outcome_classify d _, outcome_classify d' _, Document.registry_perm h⟩, ?_⟩
  rw [Document.outcome_compile_eq_unlessFound, Document.outcome_compile_eq_unlessFound,
    Document.firstFailure?, Document.firstFailure?,
    ← Document.storedField?_congr (Document.base?_perm h config)]
  -- Which failure comes first, if any, is the same in both orders.
  rcases exists_or_none_of_isSome_eq (Document.isSome_firstUnmapped?_perm h config) with
    ⟨name, name', hname, hname'⟩ | ⟨hnone, hnone'⟩
  · rw [hname, hname']
    exact Or.inr (Or.inl ⟨name, name', rfl, rfl⟩)
  · rw [hnone, hnone']
    rcases exists_or_none_of_isSome_eq (Document.isSome_firstUnresolved?_perm h config) with
      ⟨leaf, leaf', hleaf, hleaf'⟩ | ⟨hnone, hnone'⟩
    · rw [hleaf, hleaf']
      exact Or.inr (Or.inr ⟨_, _, rfl, rfl⟩)
    · rw [hnone, hnone']
      exact Or.inl ⟨_, rfl, rfl, (Document.nodes_perm h).map _⟩

/-- The definitions of `forwardReferences` from the last to the first. -/
def backwardReferences : Document where
  definitions := forwardReferences.definitions.reverse

/-- The collections of both nodes are those of `forwardReferences`, in the other order. -/
theorem outcome_compile_perm_backwardReferences :
    forwardReferences.definitions.Perm backwardReferences.definitions
      ∧ (compile backwardReferences tagsAsStrings).outcome = .ok forwardCollections.reverse := by
  have hperm : forwardReferences.definitions.Perm backwardReferences.definitions :=
    (List.reverse_perm _).symm
  have hforward : (compile forwardReferences tagsAsStrings).outcome = .ok forwardCollections :=
    rfl
  have hnodes : backwardReferences.nodes = forwardReferences.nodes.reverse := rfl
  refine ⟨hperm, ?_⟩
  obtain ⟨_, ⟨build, hok, hok', _⟩ | ⟨_, _, hfails, _⟩ | ⟨_, _, hfails, _⟩⟩ :=
    outcome_compile_perm hperm tagsAsStrings
  · rw [hforward, Except.ok.injEq] at hok
    rw [hok', hnodes, List.map_reverse, ← hok]
  · rw [hforward] at hfails
    contradiction
  · rw [hforward] at hfails
    contradiction

end RelayCollections
