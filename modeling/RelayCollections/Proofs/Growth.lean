import RelayCollections.Proofs.Closure
import RelayCollections.Proofs.Independence

namespace RelayCollections

/-!
# Growth of a schema

A schema grows when definitions are inserted anywhere among those that are there, and when
scalars get entries that had none. What compiled before compiles afterwards, if what is
inserted does. A name can be declared as a node that was an interface alone, or become a
scalar, so the base type of a field that was there can rise; nothing else of it changes.

* `BaseType.Raised` — the ways in which a base type can rise, by the order of lookups;
* `Document.Resolves`, `outcome_compile_eq_ok_iff` — when a document has collections, and
  which;
* `Document.Grows` — one document and configuration grown from another;
* `exists_outcome_compile_of_grows` — collections are kept and rise at most.
-/

/-! ### Rising -/

/-- From a base type of a name to one of the same or of an earlier lookup: a scalar comes
    before a node, and a node before an interface. -/
inductive BaseType.Raised (name : String) : BaseType → BaseType → Prop where
  | same (base : BaseType) : Raised name base base
  | interfaceToNode : Raised name (.reference none) (.reference (some name))
  | interfaceToScalar (storage : Storage) : Raised name (.reference none) (.primitive storage)
  | nodeToScalar (storage : Storage) :
    Raised name (.reference (some name)) (.primitive storage)

/-- A descriptor that differs from another at most by the base type, which is raised. -/
structure Descriptor.Raised (name : String) (old new : Descriptor) : Prop where
  base : old.base.Raised name new.base
  isList : new.isList = old.isList
  required : new.required = old.required
  listRequired : new.listRequired = old.listRequired

/-- The flags of a flattened chain do not depend on the base type. -/
theorem BaseType.Raised.flattened {name : String} {old new : BaseType}
    (h : old.Raised name new) (ms : List Modifier) :
    (Descriptor.flattened old ms).Raised name (.flattened new ms) where
  base := h
  isList := rfl
  required := rfl
  listRequired := rfl

/-! ### Documents that have collections -/

namespace Document

/-- All that must be found is found: every scalar can be stored if it must be, and the leaf
    of every field of a node has a base type. -/
structure Resolves (d : Document) (config : Config) : Prop where
  scalars : config.strict = true → ∀ name, .scalar name ∈ d.definitions →
    config.scalars.contains name = true
  leaves : ∀ type ∈ d.nodes, ∀ f ∈ type.fields, (d.base? config f.type.leaf).isSome = true

/-- The descriptor of a field; an unknown reference where there is none. -/
def descriptor (d : Document) (config : Config) (f : Field) : Descriptor :=
  .flattened ((d.base? config f.type.leaf).getD (.reference none)) f.type.modifiers

variable {d d' : Document} {config config' : Config}

/-- The names of the declared scalars. -/
theorem mem_names_scalars {name : String} :
    name ∈ d.scalars.map Definition.name ↔ .scalar name ∈ d.definitions := by
  rw [List.mem_map]
  constructor
  · rintro ⟨definition, hmem, rfl⟩
    obtain ⟨hmem, hscalar⟩ := List.mem_filter.1 hmem
    cases definition with
    | scalar name => exact hmem
    | _ => simp [Definition.isScalar] at hscalar
  · intro hmem
    exact ⟨.scalar name, List.mem_filter.2 ⟨hmem, rfl⟩, rfl⟩

theorem firstUnmapped?_eq_none_iff :
    d.firstUnmapped? config = none ↔ (config.strict = true → ∀ name,
      .scalar name ∈ d.definitions → config.scalars.contains name = true) := by
  rw [firstUnmapped?]
  split
  · rename_i hstrict
    simp only [List.find?_eq_none, mem_names_scalars, Bool.not_eq_true', Bool.not_eq_false,
      hstrict, true_implies]
  · rename_i hstrict
    simp [hstrict]

theorem firstUnresolved?_eq_none_iff :
    d.firstUnresolved? config = none ↔ ∀ type ∈ d.nodes, ∀ f ∈ type.fields,
      (d.base? config f.type.leaf).isSome = true := by
  rw [firstUnresolved?, List.find?_eq_none]
  simp only [List.mem_map, List.mem_flatMap, Option.isNone_iff_eq_none,
    Option.isSome_iff_ne_none]
  constructor
  · intro h type htype f hf
    exact h _ ⟨f, ⟨type, htype, hf⟩, rfl⟩
  · rintro h _ ⟨f, ⟨type, htype, hf⟩, rfl⟩
    exact h type htype f hf

/-- Nothing fails in a document iff all that must be found is found. -/
theorem firstFailure?_eq_none_iff :
    d.firstFailure? config = none ↔ d.Resolves config := by
  rw [firstFailure?, Option.or_eq_none_iff, Option.map_eq_none_iff, Option.map_eq_none_iff,
    firstUnmapped?_eq_none_iff, firstUnresolved?_eq_none_iff]
  constructor
  · intro h
    exact ⟨h.1, h.2⟩
  · intro h
    exact ⟨h.scalars, h.leaves⟩

/-- Where all leaves have base types no field is left out. -/
theorem Resolves.map_collection (h : d.Resolves config) :
    d.nodes.map (ObjectType.collection (d.storedField? config))
      = d.nodes.map (ObjectType.collection fun f => some (f.name, d.descriptor config f)) := by
  refine List.map_congr_left fun type htype => ?_
  have hfields : ∀ f ∈ type.fields,
      d.storedField? config f = some (f.name, d.descriptor config f) := by
    intro f hf
    obtain ⟨base, hbase⟩ := Option.isSome_iff_exists.1 (h.leaves type htype f hf)
    rw [storedField?, descriptor, hbase]
    rfl
  rw [ObjectType.collection, ObjectType.collection]
  congr 1
  exact List.filterMap_congr hfields

end Document

/-- A document has collections iff all that must be found is found, and then one for each
    node with all its fields. -/
theorem outcome_compile_eq_ok_iff {d : Document} {config : Config} {cs : List Collection} :
    (compile d config).outcome = .ok cs
      ↔ d.Resolves config
        ∧ cs = d.nodes.map
            (ObjectType.collection fun f => some (f.name, d.descriptor config f)) := by
  rw [Document.outcome_compile_eq_unlessFound, ← Document.firstFailure?_eq_none_iff]
  cases hfailure : d.firstFailure? config with
  | some failure => simp
  | none =>
    have hresolves : d.Resolves config := Document.firstFailure?_eq_none_iff.1 hfailure
    rw [unlessFound_none, Except.ok.injEq, hresolves.map_collection]
    simp [eq_comm]

/-! ### Growth -/

namespace Document

/-- One document and configuration grown from another: definitions are inserted, and scalars
    that had no entry may get one. What is inserted resolves where it now stands. -/
structure Grows (d d' : Document) (config config' : Config) (inserted : List Definition) :
    Prop where
  /-- The definitions that were there are there, in their order. -/
  kept : d.definitions.Sublist d'.definitions
  /-- The other definitions are the inserted ones. -/
  perm : d'.definitions.Perm (d.definitions ++ inserted)
  strict : config'.strict = config.strict
  entries : ∀ (name : String) (storage : Storage), config.scalars.custom[name]? = some storage →
    config'.scalars.custom[name]? = some storage
  /-- Where scalars must be stored, the inserted ones can be. -/
  scalars : config'.strict = true → ∀ name, .scalar name ∈ inserted →
    config'.scalars.contains name = true
  /-- The fields of the inserted nodes have base types. -/
  leaves : ∀ type, .object type ∈ inserted → type.isNode = true → ∀ f ∈ type.fields,
    (d'.base? config' f.type.leaf).isSome = true

end Document

/-- A scalar that can be stored keeps its storage when entries are added. -/
theorem ScalarTable.storage?_of_entries {table table' : ScalarTable}
    (h : ∀ (name : String) (storage : Storage), table.custom[name]? = some storage →
      table'.custom[name]? = some storage)
    {name : String} {storage : Storage} (hstorage : table.storage? name = some storage) :
    table'.storage? name = some storage := by
  rw [storage?] at hstorage ⊢
  cases hbuiltIn : builtInStorage? name with
  | some builtIn => simpa [hbuiltIn] using hstorage
  | none =>
    rw [hbuiltIn, Option.none_or] at hstorage
    rw [Option.none_or, h name storage hstorage]

namespace Document

variable {d d' : Document} {config config' : Config} {inserted : List Definition}

namespace Grows

variable (h : d.Grows d' config config' inserted)

include h

theorem mem_definitions_iff {definition : Definition} :
    definition ∈ d'.definitions ↔ definition ∈ d.definitions ∨ definition ∈ inserted := by
  rw [h.perm.mem_iff, List.mem_append]

/-- A node that is declared stays declared. -/
theorem declaresNode {name : String} (hnode : d.declaresNode name = true) :
    d'.declaresNode name = true := by
  obtain ⟨type, hmem, hname⟩ := declaresNode_iff.1 hnode
  obtain ⟨hmem, htype⟩ := mem_nodes.1 hmem
  exact declaresNode_iff.2 ⟨type, mem_nodes.2 ⟨h.kept.subset hmem, htype⟩, hname⟩

/-- An interface that is declared stays declared. -/
theorem declaresInterface {name : String} (hinterface : d.declaresInterface name = true) :
    d'.declaresInterface name = true := by
  obtain ⟨fields, hmem⟩ := declaresInterface_iff.1 hinterface
  exact declaresInterface_iff.2 ⟨fields, h.kept.subset hmem⟩

/-- **Base types rise.** A leaf that has a base type keeps it or gets one of an earlier
    lookup. -/
theorem exists_base? {leaf : String} {base : BaseType}
    (hbase : d.base? config leaf = some base) :
    ∃ base', d'.base? config' leaf = some base'
      ∧ base.Raised (substituteConnection leaf) base' := by
  rcases base?_cases hbase with ⟨storage, rfl, hs⟩ | ⟨-, hnode, rfl⟩ | ⟨-, -, hi, rfl⟩
  · -- Scalars come first, so a scalar stays what it is.
    have hs' := ScalarTable.storage?_of_entries h.entries hs
    exact ⟨.primitive storage, by rw [base?_eq, hs'], .same _⟩
  · have hnode' := h.declaresNode hnode
    cases hs' : config'.scalars.storage? (substituteConnection leaf) with
    | some storage => exact ⟨.primitive storage, by rw [base?_eq, hs'], .nodeToScalar storage⟩
    | none => exact ⟨_, by simp only [base?_eq, hs', hnode', if_true], .same _⟩
  · have hi' := h.declaresInterface hi
    cases hs' : config'.scalars.storage? (substituteConnection leaf) with
    | some storage =>
      exact ⟨.primitive storage, by rw [base?_eq, hs'], .interfaceToScalar storage⟩
    | none =>
      cases hnode' : d'.declaresNode (substituteConnection leaf) with
      | true => exact ⟨_, by simp only [base?_eq, hs', hnode', if_true], .interfaceToNode⟩
      | false =>
        exact ⟨.reference none, by simp [base?_eq, hs', hnode', hi'], .same _⟩

/-- The nodes that were there are there, in their order. -/
theorem nodes_sublist : d.nodes.Sublist d'.nodes :=
  h.kept.filterMap _

/-- What is inserted does not keep the rest from being found, nor is it missing anything. -/
theorem resolves (hresolves : d.Resolves config) : d'.Resolves config' where
  scalars hstrict name hmem := by
    rcases h.mem_definitions_iff.1 hmem with hmem | hmem
    · have hcontains := hresolves.scalars (h.strict ▸ hstrict) name hmem
      obtain ⟨storage, hs⟩ := Option.isSome_iff_exists.1 hcontains
      rw [ScalarTable.contains, ScalarTable.storage?_of_entries h.entries hs]
      rfl
    · exact h.scalars hstrict name hmem
  leaves type hmem f hf := by
    obtain ⟨hmem, hnode⟩ := mem_nodes.1 hmem
    rcases h.mem_definitions_iff.1 hmem with hmem | hmem
    · have hsome := hresolves.leaves type (mem_nodes.2 ⟨hmem, hnode⟩) f hf
      obtain ⟨base, hbase⟩ := Option.isSome_iff_exists.1 hsome
      obtain ⟨base', hbase', -⟩ := h.exists_base? hbase
      exact Option.isSome_iff_exists.2 ⟨base', hbase'⟩
    · exact h.leaves type hmem hnode f hf

/-- The descriptor of a field that was there is raised. -/
theorem raised_descriptor {f : Field} (hf : (d.base? config f.type.leaf).isSome = true) :
    (d.descriptor config f).Raised (substituteConnection f.type.leaf)
      (d'.descriptor config' f) := by
  obtain ⟨base, hbase⟩ := Option.isSome_iff_exists.1 hf
  obtain ⟨base', hbase', hraised⟩ := h.exists_base? hbase
  rw [descriptor, descriptor, hbase, hbase']
  exact hraised.flattened _

end Grows

end Document

/-- **Growth breaks nothing.** If a document has collections, so has every one that is grown
    from it. The collections of the nodes that were there are among the new ones, in their
    order, under the same names and with the same fields in the same order; each field keeps
    its flags, and its base type is the same or raised for the name that its leaf stands
    for. -/
theorem exists_outcome_compile_of_grows {d d' : Document} {config config' : Config}
    {inserted : List Definition} {cs : List Collection}
    (hcompile : (compile d config).outcome = .ok cs)
    (hgrows : d.Grows d' config config' inserted) :
    ∃ cs', (compile d' config').outcome = .ok cs'
      ∧ ∃ store store' : Field → Descriptor,
        cs = d.nodes.map (ObjectType.collection fun f => some (f.name, store f))
        ∧ (d.nodes.map (ObjectType.collection fun f => some (f.name, store' f))).Sublist cs'
        ∧ ∀ type ∈ d.nodes, ∀ f ∈ type.fields,
          (store f).Raised (substituteConnection f.type.leaf) (store' f) := by
  obtain ⟨hresolves, rfl⟩ := outcome_compile_eq_ok_iff.1 hcompile
  have hcompile' := outcome_compile_eq_ok_iff.2 ⟨hgrows.resolves hresolves, rfl⟩
  refine ⟨_, hcompile', d.descriptor config, d'.descriptor config', rfl, ?_, ?_⟩
  · exact hgrows.nodes_sublist.map _
  · intro type htype f hf
    exact hgrows.raised_descriptor (hresolves.leaves type htype f hf)

/-- `forwardReferences` with a connection and a node between its definitions. The node has
    the name of an interface, and a field that refers to the node itself. -/
def grownReferences : Document where
  definitions := [
    .interface "Post" [],
    .object { name := "PostConnection", interfaces := [], fields := [] },
    .object { name := "User", interfaces := ["Node"], fields := [
      { name := "posts", type := .nonNull (.named "PostConnection") },
      { name := "tags", type := .nonNull (.list (.nonNull (.named "Tag"))) },
      { name := "owner", type := .named "Actor" }] },
    .interface "Actor" [],
    .object { name := "Post", interfaces := ["Actor", "Node"], fields := [] },
    .object { name := "Actor", interfaces := ["Node"], fields := [
      { name := "friends", type := .list (.named "ActorConnection") }] }]

/-- What is inserted there. -/
def insertedReferences : List Definition := [
  .object { name := "PostConnection", interfaces := [], fields := [] },
  .object { name := "Actor", interfaces := ["Node"], fields := [
    { name := "friends", type := .list (.named "ActorConnection") }] }]

/-- Tags as strings, and an entry with the name of a node. -/
def postsAsIdentifiers : Config where
  scalars := { custom := tagsAsStrings.scalars.custom.insert "Post" .objectId }

/-- The document and the configuration are grown from those of `forwardReferences`. -/
theorem grows_grownReferences :
    forwardReferences.Grows grownReferences tagsAsStrings postsAsIdentifiers
      insertedReferences where
  kept := by decide
  perm := by decide
  strict := rfl
  entries name storage hstorage := by
    have hpost : tagsAsStrings.scalars.custom["Post"]? = none := rfl
    have hne : "Post" ≠ name := by
      rintro rfl
      rw [hpost] at hstorage
      contradiction
    simpa [postsAsIdentifiers, Std.ExtTreeMap.getElem?_insert, hne] using hstorage
  scalars hstrict := absurd hstrict (by decide)
  leaves type hmem hnode f hf := by
    simp only [insertedReferences, List.mem_cons, Definition.object.injEq, List.not_mem_nil,
      or_false] at hmem
    rcases hmem with rfl | rfl
    · simp at hf
    · obtain rfl := List.mem_singleton.1 hf
      rfl

/-- There the owner of a user becomes a known reference, and its posts become identifiers. -/
theorem exists_outcome_compile_of_grows_forwardReferences :
    (compile forwardReferences tagsAsStrings).outcome = .ok forwardCollections
      ∧ forwardReferences.Grows grownReferences tagsAsStrings postsAsIdentifiers
          insertedReferences
      ∧ ∃ cs', (compile grownReferences postsAsIdentifiers).outcome = .ok cs'
        ∧ ∃ store store' : Field → Descriptor,
          forwardCollections
              = forwardReferences.nodes.map (ObjectType.collection fun f => some (f.name, store f))
          ∧ (forwardReferences.nodes.map
              (ObjectType.collection fun f => some (f.name, store' f))).Sublist cs'
          ∧ ∀ type ∈ forwardReferences.nodes, ∀ f ∈ type.fields,
            (store f).Raised (substituteConnection f.type.leaf) (store' f) := by
  have hcompile : (compile forwardReferences tagsAsStrings).outcome = .ok forwardCollections :=
    rfl
  exact ⟨hcompile, grows_grownReferences,
    exists_outcome_compile_of_grows hcompile grows_grownReferences⟩

end RelayCollections
