import RelayCollections.Proofs.Registry

namespace RelayCollections

/-!
# Classification is exact

Each part of a classification is a subsequence of the definitions, said here of each definition
on its own, and the tables of the registry hold the names of three of these parts. A connection
is told by its name twice, once to be counted among the connections and once to be added to the
registry; both tests agree on all names, so no connection is missing from the registry.

* `Selects` — a list is the subsequence of those elements of another that play a part;
* `isSome_baseBefore?` — both tests for the end of a name agree;
* `Classification.IsExact` — what a classification has to say of definitions;
* `outcome_classify_isExact` — every document has an exact classification.
-/

/-! ### Subsequences -/

/-- The second list is what the elements of the first are selected as, in order and with
    repeats; elements that are selected as nothing are passed over. -/
inductive Selects (p : α → β → Prop) : List α → List β → Prop where
  | nil : Selects p [] []
  | taken {a : α} {b : β} {as : List α} {bs : List β} (h : p a b) (hrest : Selects p as bs) :
      Selects p (a :: as) (b :: bs)
  | passed {a : α} {as : List α} {bs : List β} (h : ∀ b, ¬ p a b) (hrest : Selects p as bs) :
      Selects p (a :: as) bs

/-- A lookup at each element selects what it finds. -/
theorem selects_filterMap {p : α → β → Prop} {f : α → Option β}
    (h : ∀ a b, f a = some b ↔ p a b) (as : List α) : Selects p as (as.filterMap f) := by
  induction as with
  | nil => exact .nil
  | cons a as ih =>
    cases hf : f a with
    | none =>
      rw [List.filterMap_cons_none hf]
      refine .passed (fun b hb => ?_) ih
      have hfound := (h a b).2 hb
      rw [hf] at hfound
      contradiction
    | some b =>
      rw [List.filterMap_cons_some hf]
      exact .taken ((h a b).1 hf) ih

/-- A test of each element selects those that pass it, as themselves. -/
theorem selects_filter {p : α → Prop} {q : α → Bool} (h : ∀ a, q a = true ↔ p a) (as : List α) :
    Selects (fun a b => b = a ∧ p a) as (as.filter q) := by
  rw [← List.filterMap_eq_filter]
  refine selects_filterMap (fun a b => ?_) as
  rw [Option.guard_eq_some_iff, h, eq_comm]

/-! ### Parts of definitions -/

/-- Both tests for the end of a name agree: a base is found where there is one. -/
theorem isSome_baseBefore? (suffix name : String) :
    (baseBefore? suffix name).isSome = hasBaseBefore suffix name := by
  rw [Bool.eq_iff_iff, hasBaseBefore_iff, Option.isSome_iff_exists]
  simp only [baseBefore?_eq_some_iff]

namespace Definition

theorem isScalar_iff {x : Definition} : x.isScalar = true ↔ ∃ name, x = .scalar name := by
  cases x <;> simp [isScalar]

theorem isInterface_iff {x : Definition} :
    x.isInterface = true ↔ ∃ name fields, x = .interface name fields := by
  cases x <;> simp [isInterface]

theorem isConnection_iff {x : Definition} :
    x.isConnection = true ↔ ∃ base, base ≠ "" ∧ x.name = base ++ "Connection" :=
  hasBaseBefore_iff

theorem isEdge_iff {x : Definition} :
    x.isEdge = true ↔ ∃ base, base ≠ "" ∧ x.name = base ++ "Edge" :=
  hasBaseBefore_iff

/-- A definition declares a node if it is an object type with the marker interface. -/
theorem node?_eq_some_iff {x : Definition} {type : ObjectType} :
    x.node? = some type ↔ x = .object type ∧ "Node" ∈ type.interfaces := by
  cases x with
  | object t =>
    rw [node?, Option.ite_none_right_eq_some, Option.some.injEq, ObjectType.isNode,
      List.contains_iff_mem, Definition.object.injEq]
    constructor
    · rintro ⟨hnode, rfl⟩
      exact ⟨rfl, hnode⟩
    · rintro ⟨rfl, hnode⟩
      exact ⟨hnode, rfl⟩
  | _ => simp [node?]

end Definition

/-! ### Classifications -/

/-- The parts of a classification are the subsequences of the definitions that play them, and
    its registry has the names of the nodes, of the interfaces and of the connections. -/
structure Classification.IsExact (c : Classification) (definitions : List Definition) :
    Prop where
  scalars : Selects (fun x y => y = x ∧ ∃ name, x = .scalar name) definitions c.scalars
  interfaces :
    Selects (fun x y => y = x ∧ ∃ name fields, x = .interface name fields) definitions
      c.interfaces
  nodes :
    Selects (fun x type => x = .object type ∧ "Node" ∈ type.interfaces) definitions c.nodes
  connections :
    Selects (fun x y => y = x ∧ ∃ base, base ≠ "" ∧ x.name = base ++ "Connection") definitions
      c.connections
  edges :
    Selects (fun x y => y = x ∧ ∃ base, base ≠ "" ∧ x.name = base ++ "Edge") definitions c.edges
  refTarget : ∀ n, c.registry.isRefTarget n = true
    ↔ ∃ type, .object type ∈ definitions ∧ type.name = n ∧ "Node" ∈ type.interfaces
  polymorphicTarget : ∀ n, c.registry.isPolymorphicTarget n = true
    ↔ ∃ fields, .interface n fields ∈ definitions
  /-- Names with an alias are the names of connections. -/
  aliasNames : ∀ n, n ∈ c.registry.aliases ↔ n ∈ c.connections.map Definition.name
  /-- Each stands for what is before its suffix, declared or not. -/
  aliasBase : ∀ x ∈ c.connections, ∃ base, x.name = base ++ "Connection"
    ∧ c.registry.alias? x.name = some base

namespace Document

variable (d : Document)

/-- The alias of a name in the registry of a document: what a connection of that name
    connects. -/
theorem alias?_registry (n : String) :
    d.registry.alias? n
      = if n ∈ d.connections.map Definition.name then connectionBase? n else none := by
  have hadded : .connection n ∈ d.additions ↔ n ∈ d.connections.map Definition.name := by
    simp [additions]
  rw [registry_eq, Registry.alias?_ofAdditions]
  simp only [hadded]

/-- A connection is registered under what is before its suffix. -/
theorem alias?_registry_of_mem {x : Definition} (h : x ∈ d.connections) :
    ∃ base, x.name = base ++ "Connection" ∧ d.registry.alias? x.name = some base := by
  obtain ⟨_, hconnection⟩ := List.mem_filter.1 h
  obtain ⟨base, hne, hname⟩ := Definition.isConnection_iff.1 hconnection
  have hbase : connectionBase? x.name = some base := baseBefore?_eq_some_iff.2 ⟨hne, hname⟩
  refine ⟨base, hname, ?_⟩
  rw [alias?_registry, if_pos (List.mem_map_of_mem h), hbase]

/-- The names with an alias are those of connections: none is missing, since a name that passes
    the one test passes the other. -/
theorem mem_aliases_registry (n : String) :
    n ∈ d.registry.aliases ↔ n ∈ d.connections.map Definition.name := by
  rw [← Std.ExtTreeMap.isSome_getElem?_iff_mem]
  show (d.registry.alias? n).isSome = true ↔ _
  constructor
  · intro h
    rw [alias?_registry] at h
    by_cases hmem : n ∈ d.connections.map Definition.name
    · exact hmem
    · rw [if_neg hmem] at h
      contradiction
  · intro h
    obtain ⟨x, hx, rfl⟩ := List.mem_map.1 h
    obtain ⟨base, _, hbase⟩ := d.alias?_registry_of_mem hx
    rw [hbase]
    rfl

/-- The classification of a document is exact. -/
theorem isExact_classification : d.classification.IsExact d.definitions where
  scalars := selects_filter (fun _ => Definition.isScalar_iff) _
  interfaces := selects_filter (fun _ => Definition.isInterface_iff) _
  nodes := selects_filterMap (fun _ _ => Definition.node?_eq_some_iff) _
  connections := selects_filter (fun _ => Definition.isConnection_iff) _
  edges := selects_filter (fun _ => Definition.isEdge_iff) _
  refTarget n := by
    show d.registry.isRefTarget n = true ↔ _
    rw [isRefTarget_registry]
    constructor
    · rintro ⟨type, htype, rfl⟩
      obtain ⟨hmem, hnode⟩ := mem_nodes.1 htype
      exact ⟨type, hmem, rfl, List.contains_iff_mem.1 hnode⟩
    · rintro ⟨type, hmem, rfl, hnode⟩
      exact ⟨type, mem_nodes.2 ⟨hmem, List.contains_iff_mem.2 hnode⟩, rfl⟩
  polymorphicTarget _ := isPolymorphicTarget_registry
  aliasNames := d.mem_aliases_registry
  aliasBase _ := d.alias?_registry_of_mem

end Document

/-- **Classification is exact.** Every document has a classification, under any scalars, and it
    is exact. A name that is tested for a connection or an edge, or for anything else that is
    told by the end of a name, passes the test iff something is found before that end. -/
theorem outcome_classify_isExact (d : Document) (scalars : ScalarTable) :
    (∃ c, (classify d scalars).outcome = .ok c ∧ c.IsExact d.definitions)
      ∧ ∀ suffix name, hasBaseBefore suffix name = true
        ↔ ∃ base, baseBefore? suffix name = some base := by
  refine ⟨⟨d.classification, rfl, d.isExact_classification⟩, fun suffix name => ?_⟩
  rw [← isSome_baseBefore?, Option.isSome_iff_exists]

end RelayCollections
