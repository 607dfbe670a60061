import RelayCollections.Classification

namespace RelayCollections

/-!
# What a registry holds after a run of additions

A registry is built by adding names one after another. Which table an addition goes to
shows on the addition, so a run of additions can be described table by table:

* `isRefTarget_ofAdditions`, `isPolymorphicTarget_ofAdditions`, `alias?_ofAdditions` —
  a name is in a table iff it was added to it, in whatever order;
* `resolve_ofAdditions` — the aliases never say anything else than the spelling of a name,
  so what a name stands for does not depend on the registry at all;
* `ofAdditions_congr` — only what is added counts, not the order nor the repeats;
* `outcome_complete_ofAdditions` — what is known of every registry that is completed;
* `Document.registry_eq` — the registry of a document is such a run.
-/

/-- One addition to a registry. -/
inductive Addition where
  | refTarget (name : String)
  | polymorphicTarget (name : String)
  | connection (name : String)
  deriving DecidableEq, Repr

namespace Registry

/-- The registry after an addition. -/
def add (r : Registry) : Addition → Registry
  | .refTarget name => r.addRefTarget name
  | .polymorphicTarget name => r.addPolymorphicTarget name
  | .connection name => r.addConnection name

/-- The registry after a run of additions. -/
def ofAdditions (additions : List Addition) : Registry :=
  additions.foldl add {}

/-! ### One addition -/

/-- Connections leave the reference targets alone. -/
theorem refTargets_addConnection (r : Registry) (name : String) :
    (r.addConnection name).refTargets = r.refTargets := by
  unfold addConnection
  split <;> rfl

/-- Connections leave the polymorphic targets alone. -/
theorem polymorphicTargets_addConnection (r : Registry) (name : String) :
    (r.addConnection name).polymorphicTargets = r.polymorphicTargets := by
  unfold addConnection
  split <;> rfl

/-- An addition makes `n` a reference target only as such. -/
theorem isRefTarget_add (r : Registry) (a : Addition) (n : String) :
    (r.add a).isRefTarget n = true ↔ a = .refTarget n ∨ r.isRefTarget n = true := by
  cases a with
  | refTarget name => simpa [add] using isRefTarget_addRefTarget r name n
  | polymorphicTarget name => simp [add, isRefTarget, addPolymorphicTarget]
  | connection name => simp [add, isRefTarget, refTargets_addConnection]

/-- An addition makes `n` a polymorphic target only as such. -/
theorem isPolymorphicTarget_add (r : Registry) (a : Addition) (n : String) :
    (r.add a).isPolymorphicTarget n = true
      ↔ a = .polymorphicTarget n ∨ r.isPolymorphicTarget n = true := by
  cases a with
  | refTarget name => simp [add, isPolymorphicTarget, addRefTarget]
  | polymorphicTarget name =>
    simpa [add] using isPolymorphicTarget_addPolymorphicTarget r name n
  | connection name => simp [add, isPolymorphicTarget, polymorphicTargets_addConnection]

/-- An addition gives `n` an alias only as a connection, and then the one it is spelled
    with. -/
theorem alias?_add (r : Registry) (a : Addition) (n : String) :
    (r.add a).alias? n
      = if a = .connection n then (connectionBase? n).or (r.alias? n) else r.alias? n := by
  cases a with
  | refTarget name => simp [add, alias?, addRefTarget]
  | polymorphicTarget name => simp [add, alias?, addPolymorphicTarget]
  | connection name => simpa [add] using alias?_addConnection r name n

/-! ### Runs of additions -/

/-- What a run makes a reference target was one before or is added as one. -/
theorem isRefTarget_foldl_add (additions : List Addition) (r : Registry) (n : String) :
    (additions.foldl add r).isRefTarget n = true
      ↔ .refTarget n ∈ additions ∨ r.isRefTarget n = true := by
  induction additions generalizing r with
  | nil => simp
  | cons a rest ih =>
    rw [List.foldl_cons, ih, isRefTarget_add, List.mem_cons, or_left_comm, or_assoc,
      eq_comm (a := a)]

/-- What a run makes a polymorphic target was one before or is added as one. -/
theorem isPolymorphicTarget_foldl_add (additions : List Addition) (r : Registry)
    (n : String) :
    (additions.foldl add r).isPolymorphicTarget n = true
      ↔ .polymorphicTarget n ∈ additions ∨ r.isPolymorphicTarget n = true := by
  induction additions generalizing r with
  | nil => simp
  | cons a rest ih =>
    rw [List.foldl_cons, ih, isPolymorphicTarget_add, List.mem_cons, or_left_comm, or_assoc,
      eq_comm (a := a)]

/-- The alias of `n` after a run: its base if it is added as a connection and has one,
    otherwise what it was before. -/
theorem alias?_foldl_add (additions : List Addition) (r : Registry) (n : String) :
    (additions.foldl add r).alias? n
      = if .connection n ∈ additions then (connectionBase? n).or (r.alias? n)
        else r.alias? n := by
  induction additions generalizing r with
  | nil => simp
  | cons a rest ih =>
    rw [List.foldl_cons, ih, alias?_add]
    by_cases ha : a = .connection n
    · -- The rest can only add the same alias again.
      subst ha
      cases connectionBase? n <;> simp
    · have ha' : ¬ Addition.connection n = a := fun h => ha h.symm
      simp [ha, ha']

/-- A name is a reference target iff it was added as one. -/
theorem isRefTarget_ofAdditions (additions : List Addition) (n : String) :
    (ofAdditions additions).isRefTarget n = true ↔ .refTarget n ∈ additions := by
  rw [ofAdditions, isRefTarget_foldl_add]
  simp [isRefTarget]

/-- A name is a polymorphic target iff it was added as one. -/
theorem isPolymorphicTarget_ofAdditions (additions : List Addition) (n : String) :
    (ofAdditions additions).isPolymorphicTarget n = true
      ↔ .polymorphicTarget n ∈ additions := by
  rw [ofAdditions, isPolymorphicTarget_foldl_add]
  simp [isPolymorphicTarget]

/-- A name has an alias iff it was added as a connection and is spelled like one. -/
theorem alias?_ofAdditions (additions : List Addition) (n : String) :
    (ofAdditions additions).alias? n
      = if .connection n ∈ additions then connectionBase? n else none := by
  rw [ofAdditions, alias?_foldl_add]
  simp [alias?]

/-- **Aliases add nothing to spelling.** A registered alias is the base that the name is
    spelled with, so both ways of resolving a name agree. -/
theorem resolve_ofAdditions (additions : List Addition) (n : String) :
    (ofAdditions additions).resolve n = substituteConnection n := by
  rw [resolve, alias?_ofAdditions, substituteConnection]
  -- A name without an alias still loses the suffix that it is spelled with.
  split
  · cases connectionBase? n <;> rfl
  · rfl

/-- Runs that add the same, in whatever order and however often, lead to one registry. -/
theorem ofAdditions_congr {additions additions' : List Addition}
    (h : ∀ a, a ∈ additions ↔ a ∈ additions') :
    ofAdditions additions = ofAdditions additions' := by
  apply Registry.ext
  · apply Std.ExtTreeSet.ext_contains
    intro n
    have hadded := isRefTarget_ofAdditions additions n
    rw [h, ← isRefTarget_ofAdditions additions' n] at hadded
    exact Bool.eq_iff_iff.2 hadded
  · apply Std.ExtTreeSet.ext_contains
    intro n
    have hadded := isPolymorphicTarget_ofAdditions additions n
    rw [h, ← isPolymorphicTarget_ofAdditions additions' n] at hadded
    exact Bool.eq_iff_iff.2 hadded
  · apply Std.ExtTreeMap.ext_getElem?
    intro n
    have halias := alias?_ofAdditions additions n
    simp only [h] at halias
    exact halias.trans (alias?_ofAdditions additions' n).symm

end Registry

/-! ### Completed registries -/

namespace Addition

/-- The registries agree on the tables to which the addition does not go. -/
def KeepsOthers (r r' : Registry) : Addition → Prop
  | .refTarget _ => r'.polymorphicTargets = r.polymorphicTargets ∧ r'.aliases = r.aliases
  | .polymorphicTarget _ => r'.refTargets = r.refTargets ∧ r'.aliases = r.aliases
  | .connection _ =>
    r'.refTargets = r.refTargets ∧ r'.polymorphicTargets = r.polymorphicTargets

/-- An addition goes to one table. -/
theorem keepsOthers_add (r : Registry) (a : Addition) : a.KeepsOthers r (r.add a) := by
  cases a with
  | refTarget name => exact ⟨rfl, rfl⟩
  | polymorphicTarget name => exact ⟨rfl, rfl⟩
  | connection name =>
    exact ⟨r.refTargets_addConnection name, r.polymorphicTargets_addConnection name⟩

end Addition

namespace Registry

/-- Each table of the registry holds what was added to it and nothing else. A connection is
    in its table only if something stands before its suffix. -/
structure Holds (r : Registry) (additions : List Addition) : Prop where
  refTarget : ∀ n, r.isRefTarget n = true ↔ .refTarget n ∈ additions
  polymorphicTarget : ∀ n, r.isPolymorphicTarget n = true ↔ .polymorphicTarget n ∈ additions
  connection : ∀ n base, r.alias? n = some base
    ↔ .connection n ∈ additions ∧ n = base ++ "Connection" ∧ base ≠ ""

/-- A run of additions makes a registry that holds them. -/
theorem holds_ofAdditions (additions : List Addition) :
    (ofAdditions additions).Holds additions where
  refTarget := isRefTarget_ofAdditions additions
  polymorphicTarget := isPolymorphicTarget_ofAdditions additions
  connection n base := by
    rw [alias?_ofAdditions]
    by_cases hadded : Addition.connection n ∈ additions
    · rw [if_pos hadded, connectionBase?, baseBefore?_eq_some_iff]
      exact ⟨fun ⟨hne, hn⟩ => ⟨hadded, hn, hne⟩, fun ⟨_, hn, hne⟩ => ⟨hne, hn⟩⟩
    · simp [hadded]

/-- The empty registry takes one suffix off a connection. -/
theorem resolve_empty_connection {base : String} (h : base ≠ "") :
    ({} : Registry).resolve (base ++ "Connection") = base := by
  have hbase : connectionBase? (base ++ "Connection") = some base :=
    baseBefore?_eq_some_iff.2 ⟨h, rfl⟩
  rw [resolve_empty, substituteConnection, hbase]
  rfl

/-- The empty registry leaves alone what is no connection. -/
theorem resolve_empty_of_ne {n : String} (h : ∀ base, base ≠ "" → n ≠ base ++ "Connection") :
    ({} : Registry).resolve n = n := by
  have hbase : connectionBase? n = none := by
    rw [Option.eq_none_iff_forall_ne_some]
    intro base hsome
    obtain ⟨hne, hn⟩ := baseBefore?_eq_some_iff.1 hsome
    exact h base hne hn
  rw [resolve_empty, substituteConnection, hbase]
  rfl

/-- **Completed registries.** Whatever is added to a registry, in whatever order and however
    often, it can be completed and then holds just what was added; another run that adds the
    same leads to the same registry, under any scalars. Each addition leaves the other tables
    alone. A name resolves as it does where nothing was added: to what stands before one
    final `Connection`, if anything does, and otherwise to itself. -/
theorem outcome_complete_ofAdditions (additions : List Addition) (scalars : ScalarTable) :
    ∃ r, ((ofAdditions additions).complete scalars).outcome = .ok r
      ∧ r.Holds additions
      ∧ (∀ additions' scalars', (∀ a, a ∈ additions' ↔ a ∈ additions) →
        ((ofAdditions additions').complete scalars').outcome = .ok r)
      ∧ (∀ a, ((ofAdditions (additions ++ [a])).complete scalars).outcome = .ok (r.add a)
        ∧ a.KeepsOthers r (r.add a))
      ∧ (∀ n, r.resolve n = ({} : Registry).resolve n)
      ∧ (∀ base, base ≠ "" → r.resolve (base ++ "Connection") = base)
      ∧ ∀ n, (∀ base, base ≠ "" → n ≠ base ++ "Connection") → r.resolve n = n := by
  have hresolve : ∀ n, (ofAdditions additions).resolve n = ({} : Registry).resolve n := by
    intro n
    rw [resolve_ofAdditions, resolve_empty]
  refine ⟨ofAdditions additions, rfl, holds_ofAdditions additions, ?_, ?_, hresolve, ?_, ?_⟩
  · intro additions' scalars' hsame
    rw [← ofAdditions_congr hsame]
    rfl
  · intro a
    refine ⟨?_, a.keepsOthers_add _⟩
    show Except.ok (ofAdditions (additions ++ [a])) = _
    rw [ofAdditions, List.foldl_append]
    rfl
  · intro base hbase
    rw [hresolve, resolve_empty_connection hbase]
  · intro n hn
    rw [hresolve, resolve_empty_of_ne hn]

/-- Additions of one name to several tables, of a doubled suffix and of a bare one. -/
def clashingAdditions : List Addition := [
  .refTarget "UserConnection", .connection "UserConnection", .connection "Connection",
  .connection "éConnectionConnection", .polymorphicTarget "UserConnection",
  .refTarget "UserConnection"]

/-- Only one suffix of the doubled one is taken off, and the bare one stays; both also where
    the additions are made from the last to the first. -/
theorem outcome_complete_ofAdditions_clashing :
    (∀ a, a ∈ clashingAdditions.reverse ↔ a ∈ clashingAdditions)
      ∧ ∃ r, ((ofAdditions clashingAdditions.reverse).complete {}).outcome = .ok r
        ∧ r.alias? "éConnectionConnection" = some "éConnection"
        ∧ r.resolve "éConnectionConnection" = "éConnection"
        ∧ r.resolve "Connection" = "Connection" := by
  have hsame : ∀ a, a ∈ clashingAdditions.reverse ↔ a ∈ clashingAdditions :=
    fun _ => List.mem_reverse
  obtain ⟨r, _, hholds, hcongr, _, _, hconnection, hother⟩ :=
    outcome_complete_ofAdditions clashingAdditions {}
  refine ⟨hsame, r, hcongr _ {} hsame, ?_, hconnection "éConnection" (by decide), ?_⟩
  · exact (hholds.connection _ _).2 ⟨by decide, rfl, by decide⟩
  · refine hother "Connection" fun base hne heq => hne ?_
    -- Nothing is left in front of the suffix.
    apply String.toList_injective
    have hlength := congrArg (fun s => s.toList.length) heq
    simpa using hlength

end Registry

/-! ### The registry of a document -/

namespace Document

/-- What a document adds to its registry, in order. -/
def additions (d : Document) : List Addition :=
  (d.interfaces.map fun i => .polymorphicTarget i.name)
    ++ (d.connections.map fun c => .connection c.name)
    ++ (d.nodes.map fun n => .refTarget n.name)

/-- The registry of a document is a run of additions. -/
theorem registry_eq (d : Document) : d.registry = .ofAdditions d.additions := by
  simp only [registry, additions, Registry.ofAdditions, List.foldl_append, List.foldl_map,
    Registry.add]

/-- The declared nodes are the object types that list the marker interface. -/
theorem mem_nodes {d : Document} {type : ObjectType} :
    type ∈ d.nodes ↔ .object type ∈ d.definitions ∧ type.isNode = true := by
  rw [nodes, List.mem_filterMap]
  constructor
  · rintro ⟨definition, hmem, hnode⟩
    cases definition with
    | object t =>
      simp only [Definition.node?, Option.ite_none_right_eq_some, Option.some.injEq] at hnode
      obtain ⟨hn, rfl⟩ := hnode
      exact ⟨hmem, hn⟩
    | _ => simp [Definition.node?] at hnode
  · rintro ⟨hmem, hn⟩
    exact ⟨.object type, hmem, by simp [Definition.node?, hn]⟩

/-- A name is a reference target of a document iff a node has it. -/
theorem isRefTarget_registry {d : Document} {n : String} :
    d.registry.isRefTarget n = true ↔ ∃ type ∈ d.nodes, type.name = n := by
  rw [registry_eq, Registry.isRefTarget_ofAdditions]
  simp [additions]

/-- A name is a polymorphic target of a document iff an interface has it. -/
theorem isPolymorphicTarget_registry {d : Document} {n : String} :
    d.registry.isPolymorphicTarget n = true
      ↔ ∃ fields, .interface n fields ∈ d.definitions := by
  rw [registry_eq, Registry.isPolymorphicTarget_ofAdditions]
  simp only [additions, List.mem_append, List.mem_map, Addition.polymorphicTarget.injEq,
    reduceCtorEq, and_false, exists_false, or_false, interfaces, List.mem_filter]
  constructor
  · rintro ⟨definition, ⟨hmem, hint⟩, rfl⟩
    cases definition with
    | interface name fields => exact ⟨fields, hmem⟩
    | _ => simp [Definition.isInterface] at hint
  · rintro ⟨fields, hmem⟩
    exact ⟨.interface n fields, ⟨hmem, rfl⟩, rfl⟩

/-- A name resolves in the registry of a document as it does anywhere. -/
@[simp] theorem resolve_registry (d : Document) (n : String) :
    d.registry.resolve n = substituteConnection n := by
  rw [registry_eq, Registry.resolve_ofAdditions]

end Document

end RelayCollections
