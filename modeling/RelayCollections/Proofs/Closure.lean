import RelayCollections.Proofs.Resolution

namespace RelayCollections

/-!
# Referential closure

Collections refer to each other by name. No reference dangles: a reference with a known
target names one of the collections beside it, and a reference without one comes from an
interface that no collection is named after. Scalars are never referred to.

* `Document.Grounded` — what the base type of a stored field promises;
* `grounded_of_compile` — compilation keeps every such promise.
-/

namespace Document

/-- What the base type of a stored field promises, given the collections and the leaf of
    the declared field. -/
def Grounded (d : Document) (config : Config) (cs : List Collection) (leaf : String) :
    BaseType → Prop
  | .primitive storage =>
    config.scalars.storage? (substituteConnection leaf) = some storage
  | .reference (some target) =>
    target = substituteConnection leaf
      ∧ (∃ c ∈ cs, c.name = target)
      ∧ config.scalars.storage? target = none
  | .reference none =>
    (∃ fields, .interface (substituteConnection leaf) fields ∈ d.definitions)
      ∧ config.scalars.storage? (substituteConnection leaf) = none
      ∧ ∀ c ∈ cs, c.name ≠ substituteConnection leaf

variable {d : Document} {config : Config} {cs : List Collection}

/-- Collections have the names of the nodes that they store. -/
theorem Stores.names_eq (h : d.Stores config cs) :
    cs.map Collection.name = d.nodes.map ObjectType.name := by
  unfold Stores at h
  generalize d.nodes = types at h ⊢
  induction h with
  | nil => rfl
  | cons hc _ ih => rw [List.map_cons, List.map_cons, hc.1, ih]

/-- A document declares a node of some name iff a collection has it. -/
theorem Stores.declaresNode_iff (h : d.Stores config cs) {name : String} :
    d.declaresNode name = true ↔ ∃ c ∈ cs, c.name = name := by
  rw [Document.declaresNode_iff, ← List.mem_map, ← List.mem_map, h.names_eq]

/-- The ways in which a leaf can have a base type. -/
theorem base?_cases {leaf : String} {base : BaseType} (h : d.base? config leaf = some base) :
    (∃ storage, base = .primitive storage
        ∧ config.scalars.storage? (substituteConnection leaf) = some storage)
      ∨ (config.scalars.storage? (substituteConnection leaf) = none
        ∧ d.declaresNode (substituteConnection leaf) = true
        ∧ base = .reference (some (substituteConnection leaf)))
      ∨ (config.scalars.storage? (substituteConnection leaf) = none
        ∧ d.declaresNode (substituteConnection leaf) = false
        ∧ d.declaresInterface (substituteConnection leaf) = true
        ∧ base = .reference none) := by
  rw [base?_eq] at h
  cases hs : config.scalars.storage? (substituteConnection leaf) with
  | some storage =>
    simp only [hs, Option.some.injEq] at h
    exact Or.inl ⟨storage, h.symm, rfl⟩
  | none =>
    simp only [hs] at h
    split at h
    · rename_i hnode
      exact Or.inr (Or.inl ⟨rfl, hnode, by simpa using h.symm⟩)
    · rename_i hnode
      split at h
      · rename_i hinterface
        exact Or.inr (Or.inr ⟨rfl, by simpa using hnode, hinterface, by simpa using h.symm⟩)
      · simp at h

/-- The base type of a leaf keeps its promise beside the collections of the document. -/
theorem grounded_of_base? (h : d.Stores config cs) {leaf : String} {base : BaseType}
    (hbase : d.base? config leaf = some base) : d.Grounded config cs leaf base := by
  rcases base?_cases hbase with ⟨storage, rfl, hs⟩ | ⟨hs, hnode, rfl⟩ | ⟨hs, hnode, hi, rfl⟩
  · exact hs
  · exact ⟨rfl, h.declaresNode_iff.1 hnode, hs⟩
  · refine ⟨declaresInterface_iff.1 hi, hs, fun c hc hname => ?_⟩
    -- A collection of this name would store a node of this name.
    have hdeclared := h.declaresNode_iff.2 ⟨c, hc, hname⟩
    rw [hnode] at hdeclared
    exact absurd hdeclared (by decide)

/-- A stored field has the name of the declared one and the base type of its leaf. -/
theorem of_storedField? {f : Field} {entry : String × Descriptor}
    (h : d.storedField? config f = some entry) :
    entry.1 = f.name ∧ d.base? config f.type.leaf = some entry.2.base := by
  rw [storedField?, Option.map_eq_some_iff] at h
  obtain ⟨base, hbase, rfl⟩ := h
  exact ⟨rfl, hbase⟩

end Document

/-- **Referential closure.** If a document has collections, they stand for its nodes one by
    one, their fields for the declared fields one by one, and every stored field keeps the
    promise of its base type. -/
theorem grounded_of_compile {d : Document} {config : Config} {cs : List Collection}
    (h : (compile d config).outcome = .ok cs) :
    List.Forall₂ (fun type c => c.name = type.name
      ∧ List.Forall₂ (fun f entry => entry.1 = f.name
          ∧ d.Grounded config cs f.type.leaf entry.2.base) type.fields c.fields) d.nodes cs := by
  have hstores := stores_of_compile h
  refine hstores.imp fun type c hc => ⟨hc.1, hc.2.imp fun f entry hentry => ?_⟩
  obtain ⟨hname, hbase⟩ := Document.of_storedField? hentry
  exact ⟨hname, Document.grounded_of_base? hstores hbase⟩

/-- The promises that the collections of `forwardReferences` keep. -/
theorem grounded_of_compile_forwardReferences :
    (compile forwardReferences tagsAsStrings).outcome = .ok forwardCollections
      ∧ List.Forall₂ (fun type c => c.name = type.name
          ∧ List.Forall₂ (fun f entry => entry.1 = f.name
              ∧ forwardReferences.Grounded tagsAsStrings forwardCollections f.type.leaf
                  entry.2.base) type.fields c.fields)
        forwardReferences.nodes forwardCollections := by
  have hcompile : (compile forwardReferences tagsAsStrings).outcome = .ok forwardCollections :=
    rfl
  exact ⟨hcompile, grounded_of_compile hcompile⟩

end RelayCollections
