import RelayCollections.Proofs.Classification
import RelayCollections.Proofs.Following

namespace RelayCollections

/-!
# How far the log tells that a compilation got

Beside its warnings, a compilation tells first what the document holds, and then follows the
lines of its nodes. Where the lines break off is where the compilation has failed.

* `Run.log` — what a run tells beside its warnings;
* `Document.FailsAt`, `Document.linesBefore` — the first field without a base type, and the
  lines before its result;
* `Document.openingLines` — the lines of the classification and of the complete registry;
* `Document.Logs`, `Event.Says` — the log that comes with each way to end, and its wording;
* `logs_compile` — what is told of a compilation, by how it ends.
-/

/-! ### Logs of runs -/

namespace Run

/-- What a run tells beside its warnings, in order. -/
def log (run : Run α) : List Event :=
  run.events.filter fun e => e.level ≠ .warning

/-- After a result, what follows is told. -/
theorem log_bind_of_ok {run : Run α} {a : α} (h : run.outcome = .ok a) (next : α → Run β) :
    (run >>= next).log = run.log ++ (next a).log := by
  obtain ⟨events, outcome⟩ := run
  obtain rfl : outcome = .ok a := h
  exact List.filter_append _ _

/-- After a failure nothing is told. -/
theorem log_bind_of_error {run : Run α} {failure : Failure} (h : run.outcome = .error failure)
    (next : α → Run β) : (run >>= next).log = run.log := by
  obtain ⟨events, outcome⟩ := run
  obtain rfl : outcome = .error failure := h
  rfl

/-- A run that only warns tells nothing beside. -/
theorem log_eq_nil {run : Run α} (h : ∀ e ∈ run.events, e.level = .warning) : run.log = [] :=
  List.filter_eq_nil_iff.2 fun e he => by simp [h e he]

/-- A run without warnings tells all that happens. -/
theorem IsQuiet.log_eq {run : Run α} (h : run.IsQuiet .warning) : run.log = run.events :=
  List.filter_eq_self.2 fun e he => by simpa using List.filter_eq_nil_iff.1 h e he

end Run

/-! ### The place of a failure -/

/-- A search through groups finds the first element of the first group that has one. -/
theorem exists_first_of_find?_flatMap {members : γ → List α} {p : α → Bool} {groups : List γ}
    {a : α} (h : (groups.flatMap members).find? p = some a) :
    p a = true ∧ ∃ before c done, before ++ [c] <+: groups ∧ done ++ [a] <+: members c
      ∧ (∀ b ∈ before, ∀ x ∈ members b, p x = false) ∧ ∀ x ∈ done, p x = false := by
  induction groups with
  | nil => contradiction
  | cons c groups ih =>
    rw [List.flatMap_cons, List.find?_append] at h
    cases hfirst : (members c).find? p with
    | some found =>
      rw [hfirst, Option.some_or, Option.some.injEq] at h
      subst h
      obtain ⟨hp, done, rest, hmembers, hdone⟩ := List.find?_eq_some_iff_append.1 hfirst
      refine ⟨hp, [], c, done, ⟨groups, rfl⟩, ⟨rest, ?_⟩, List.forall_mem_nil _, ?_⟩
      · rw [hmembers, List.append_assoc, List.singleton_append]
      · intro x hx
        simpa using hdone x hx
    | none =>
      rw [hfirst, Option.none_or] at h
      obtain ⟨hp, before, c', done, hgroups, hmembers, hbefore, hdone⟩ := ih h
      refine ⟨hp, c :: before, c', done, ?_, hmembers, ?_, hdone⟩
      · exact (List.prefix_cons_inj c).2 hgroups
      · refine List.forall_mem_cons.2 ⟨fun x hx => ?_, hbefore⟩
        simpa using List.find?_eq_none.1 hfirst x hx

namespace Document

/-- The field is the first without a base type: all fields of the nodes before its own have one,
    and so have the fields before it. -/
structure FailsAt (d : Document) (config : Config) (before : List ObjectType)
    (type : ObjectType) (done : List Field) (f : Field) : Prop where
  nodes : before ++ [type] <+: d.nodes
  fields : done ++ [f] <+: type.fields
  before : ∀ t ∈ before, ∀ g ∈ t.fields, (d.base? config g.type.leaf).isSome = true
  done : ∀ g ∈ done, (d.base? config g.type.leaf).isSome = true
  unresolved : d.base? config f.type.leaf = none

variable {d : Document} {config : Config}

/-- An unresolved leaf is that of the first field without a base type. -/
theorem exists_failsAt_of_firstUnresolved? {leaf : String}
    (h : d.firstUnresolved? config = some leaf) :
    ∃ before type done f, d.FailsAt config before type done f ∧ f.type.leaf = leaf := by
  rw [firstUnresolved?, List.find?_map, Option.map_eq_some_iff] at h
  obtain ⟨f, hfind, hleaf⟩ := h
  obtain ⟨hnone, before, type, done, hnodes, hfields, hbefore, hdone⟩ :=
    exists_first_of_find?_flatMap hfind
  refine ⟨before, type, done, f, ⟨hnodes, hfields, ?_, ?_, ?_⟩, hleaf⟩
  · intro t ht g hg
    simpa using hbefore t ht g hg
  · intro g hg
    simpa using hdone g hg
  · simpa using hnone

/-- The lines before the result of a field: those of the nodes before its own, those of the
    fields before it, and that of its substitution. -/
def linesBefore (d : Document) (config : Config) (before : List ObjectType) (type : ObjectType)
    (done : List Field) (f : Field) : List (Option Event) :=
  before.flatMap (d.nodeLines config) ++ done.flatMap (d.fieldLines config type.name)
    ++ (substitutionLines f.type.leaf).map some

/-- The lines of a field with a base type are there. -/
theorem none_not_mem_fieldLines {node : String} {f : Field}
    (h : (d.base? config f.type.leaf).isSome = true) : none ∉ d.fieldLines config node f := by
  obtain ⟨base, hbase⟩ := Option.isSome_iff_exists.1 h
  rw [fieldLines, resultLine?, hbase]
  simp

/-- The lines of a node whose fields have base types are there. -/
theorem none_not_mem_nodeLines {type : ObjectType}
    (h : ∀ f ∈ type.fields, (d.base? config f.type.leaf).isSome = true) :
    none ∉ d.nodeLines config type := by
  intro hmem
  rw [nodeLines, List.mem_append, List.mem_flatMap] at hmem
  rcases hmem with ⟨f, hf, hnone⟩ | hlast
  · exact none_not_mem_fieldLines (h f hf) hnone
  · simp at hlast

namespace FailsAt

variable {before : List ObjectType} {type : ObjectType} {done : List Field} {f : Field}

/-- All lines before the result of the first field without a base type are there. -/
theorem none_not_mem_linesBefore (h : d.FailsAt config before type done f) :
    none ∉ d.linesBefore config before type done f := by
  intro hmem
  rw [linesBefore, List.mem_append, List.mem_append, List.mem_flatMap, List.mem_flatMap] at hmem
  rcases hmem with (⟨t, ht, hnone⟩ | ⟨g, hg, hnone⟩) | hsubstitution
  · exact none_not_mem_nodeLines (h.before t ht) hnone
  · exact none_not_mem_fieldLines (h.done g hg) hnone
  · simp at hsubstitution

/-- The lines of the document go on with the result that is missing. -/
theorem exists_buildLines_eq (h : d.FailsAt config before type done f) :
    ∃ rest, d.buildLines config = d.linesBefore config before type done f ++ none :: rest := by
  obtain ⟨behind, hnodes⟩ := h.nodes
  obtain ⟨others, hfields⟩ := h.fields
  have hfield : d.fieldLines config type.name f
      = (substitutionLines f.type.leaf).map some ++ [none] := by
    rw [fieldLines, resultLine?, h.unresolved]
    rfl
  rw [buildLines, ← hnodes, linesBefore]
  simp only [List.flatMap_append, List.flatMap_cons, List.flatMap_nil, List.append_nil]
  rw [nodeLines, ← hfields]
  simp only [List.flatMap_append, List.flatMap_cons, hfield, List.append_assoc,
    List.singleton_append]
  exact ⟨_, rfl⟩

end FailsAt

end Document

/-! ### The opening lines -/

namespace Document

variable (d : Document)

/-- The lines of the classification, which counts declarations, and of the complete registry,
    which counts names. -/
def openingLines : List Event := [
  .classified (d.definitions.countP Definition.isScalar)
    (d.definitions.countP Definition.isInterface)
    (d.definitions.countP fun definition => definition.node?.isSome)
    (d.definitions.countP Definition.isConnection)
    (d.definitions.countP Definition.isEdge),
  .completedRegistry (d.nodes.map ObjectType.name).dedup.length
    (d.interfaces.map Definition.name).dedup.length
    (d.connections.map Definition.name).dedup.length]

/-- There are as many reference targets as names of nodes. -/
theorem size_refTargets_registry :
    d.registry.refTargets.size = (d.nodes.map ObjectType.name).dedup.length := by
  rw [← Std.ExtTreeSet.length_toList, d.toList_refTargets_perm.length_eq]

/-- There are as many polymorphic targets as names of interfaces. -/
theorem size_polymorphicTargets_registry :
    d.registry.polymorphicTargets.size = (d.interfaces.map Definition.name).dedup.length := by
  rw [← Std.ExtTreeSet.length_toList]
  refine (toList_perm_dedup fun n => ?_).length_eq
  have hadded := Registry.isPolymorphicTarget_ofAdditions d.additions n
  rw [← registry_eq] at hadded
  exact hadded.trans (by simp [additions])

/-- There are as many aliases as names of connections. -/
theorem size_aliases_registry :
    d.registry.aliases.size = (d.connections.map Definition.name).dedup.length := by
  have hdistinct : d.registry.aliases.keys.Pairwise fun a b => ¬ compare a b = .eq :=
    Std.ExtTreeMap.distinct_keys
  rw [← Std.ExtTreeMap.length_keys]
  refine (perm_dedup (nodup_of_distinct id hdistinct) fun n => ?_).length_eq
  rw [Std.ExtTreeMap.mem_keys, mem_aliases_registry]

/-- The classification counts declarations. -/
theorem summary_classification :
    d.classification.summary = .classified (d.definitions.countP Definition.isScalar)
      (d.definitions.countP Definition.isInterface)
      (d.definitions.countP fun definition => definition.node?.isSome)
      (d.definitions.countP Definition.isConnection)
      (d.definitions.countP Definition.isEdge) := by
  have hnodes : (d.definitions.countP fun definition => definition.node?.isSome)
      = d.nodes.length := List.length_filterMap_eq_countP.symm
  rw [hnodes]
  simp only [List.countP_eq_length_filter]
  rfl

end Document

/-- A classification tells the opening lines. -/
theorem log_classify (d : Document) (scalars : ScalarTable) :
    (classify d scalars).log = d.openingLines := by
  have hshadowed : (List.map Event.shadowedNode
      (d.registry.refTargets.toList.filter scalars.contains)).filter
        (fun e => e.level ≠ .warning) = [] := by
    refine List.filter_eq_nil_iff.2 fun e he => ?_
    obtain ⟨_, _, rfl⟩ := List.mem_map.1 he
    simp [Event.level]
  show List.filter _ ([d.classification.summary] ++ (d.registry.completion scalars ++ [])) = _
  rw [List.append_nil, List.filter_append, Registry.completion, List.filter_append, hshadowed,
    Document.summary_classification, Document.size_refTargets_registry,
    Document.size_polymorphicTargets_registry, Document.size_aliases_registry]
  rfl

/-! ### Compilations -/

/-- The check of a scalar table only warns. -/
theorem log_check (table : ScalarTable) : table.check.log = [] := by
  refine Run.log_eq_nil fun e he => ?_
  obtain ⟨_, _, rfl⟩ := List.mem_map.1 he
  rfl

/-- The check of declared scalars only warns, or fails without a word. -/
theorem log_checkScalars (config : Config) (names : List String) :
    (checkScalars config names).log = [] := by
  have hone : ∀ name, (checkScalar config name).log = [] := by
    intro name
    unfold checkScalar
    split_ifs
    · rfl
    · rfl
    · exact Run.log_eq_nil (by simp [Run.tell, Event.level])
  induction names with
  | nil => rfl
  | cons name names ih =>
    rw [checkScalars]
    cases hout : (checkScalar config name).outcome with
    | error failure => rw [Run.log_bind_of_error hout, hone]
    | ok _ => rw [Run.log_bind_of_ok hout, hone, ih, List.append_nil]

namespace Document

variable {d : Document} {config : Config}

/-- The check of the scalars of a document fails at the first that cannot be stored. -/
theorem outcome_checkScalars_scalars :
    (checkScalars config (d.scalars.map Definition.name)).outcome
      = unlessFound ((d.firstUnmapped? config).map .unmappedScalar) () :=
  outcome_checkScalars config _

/-- Behind the opening lines comes what the later stages tell. -/
theorem log_compile (d : Document) (config : Config) :
    (compile d config).log
      = d.openingLines ++ (checkScalars config (d.scalars.map Definition.name) >>= fun _ =>
          (d.scope config).collections d.nodes).log := by
  have hcheck : config.scalars.check.outcome = .ok () := rfl
  rw [compile, Run.log_bind_of_ok hcheck, log_check, List.nil_append,
    Run.log_bind_of_ok (outcome_classify d _), log_classify]
  rfl

/-- Where a scalar cannot be stored that must be, the log ends with the opening lines. -/
theorem log_compile_of_unmapped {name : String} (h : d.firstUnmapped? config = some name) :
    (compile d config).log = d.openingLines := by
  have hchecked : (checkScalars config (d.scalars.map Definition.name)).outcome
      = .error (.unmappedScalar name) := by
    rw [outcome_checkScalars_scalars, h]
    rfl
  rw [log_compile, Run.log_bind_of_error hchecked, log_checkScalars, List.append_nil]

/-- Otherwise all that happens while the collections are built is told behind them. -/
theorem log_compile_of_mapped (h : d.firstUnmapped? config = none) :
    (compile d config).log
      = d.openingLines ++ ((d.scope config).collections d.nodes).events := by
  have hchecked : (checkScalars config (d.scalars.map Definition.name)).outcome = .ok () := by
    rw [outcome_checkScalars_scalars, h]
    rfl
  rw [log_compile, Run.log_bind_of_ok hchecked, log_checkScalars, List.nil_append,
    (Scope.isQuiet_collections _ _).log_eq]

end Document

/-- What the line of a collection says of it: its name and the number of its fields. -/
def Event.collection? : Event → Option (String × Nat)
  | .builtCollection name fields => some (name, fields)
  | _ => none

/-- How much the lines of a log matter and what they say: each tells its counts, or its names and
    what was found. -/
inductive Event.Says : Event → Level → String → Prop where
  | classified (scalars interfaces nodes connections edges : Nat) :
    Says (.classified scalars interfaces nodes connections edges) .debug
      ("Classified " ++ toString scalars ++ " scalars, " ++ toString interfaces
        ++ " interfaces, " ++ toString nodes ++ " nodes, " ++ toString connections
        ++ " connections, " ++ toString edges ++ " edges")
  | completedRegistry (refTargets polymorphicTargets aliases : Nat) :
    Says (.completedRegistry refTargets polymorphicTargets aliases) .debug
      ("Sealed registry: " ++ toString refTargets ++ " reference targets, "
        ++ toString polymorphicTargets ++ " polymorphic targets, " ++ toString aliases
        ++ " aliases")
  | substituted (name resolved : String) :
    Says (.substituted name resolved) .trace ("Substituted " ++ name ++ " with " ++ resolved)
  | describedField (node field : String) (d : Descriptor) :
    Says (.describedField node field d) .trace
      (node ++ "." ++ field ++ " -> " ++ ("FieldDescriptor \x7b base_type: " ++ d.base.shown
        ++ ", is_list: " ++ toString d.isList ++ ", required: " ++ toString d.required
        ++ ", list_required: " ++ toString d.listRequired ++ " \x7d"))
  | builtCollection (name : String) (fields : Nat) :
    Says (.builtCollection name fields) .debug
      ("Collection " ++ name ++ " with " ++ toString fields ++ " fields")
  | builtCollections (count : Nat) :
    Says (.builtCollections count) .debug ("Built " ++ toString count ++ " collections")

/-- What a compilation logs, for each way in which it can end. -/
inductive Document.Logs (d : Document) (config : Config) :
    Except Failure (List Collection) → List Event → Prop where
  /-- Where a scalar cannot be stored, nothing is told of any node. -/
  | unmapped (name : String) : d.Logs config (.error (.unmappedScalar name)) d.openingLines
  /-- At the first field without a base type the log breaks off, just before the line of its
      result, and has the lines of the collections of the nodes before its own. -/
  | unresolved {before : List ObjectType} {type : ObjectType} {done : List Field} {f : Field}
      {log : List Event} (hplace : d.FailsAt config before type done f)
      (hlog : log.map some
        = d.openingLines.map some ++ d.linesBefore config before type done f)
      (hcut : log.map some ++ [d.resultLine? config type.name f]
        <+: d.openingLines.map some ++ d.buildLines config)
      (hcollections : log.filterMap Event.collection?
        = before.map fun t => (t.name, t.fields.length)) :
      d.Logs config (.error (.unknownType (substituteConnection f.type.leaf))) log
  /-- With all collections, all lines are told. -/
  | built {cs : List Collection} {log : List Event}
      (hlog : log.map some = d.openingLines.map some ++ d.buildLines config) :
      d.Logs config (.ok cs) log

namespace Document

variable {d : Document} {config : Config}

/-! ### What lines tell of collections -/

/-- Whatever is read off lines can be read off the log that tells them. -/
theorem filterMap_of_map_some {log : List Event} {lines : List (Option Event)}
    (h : log.map some = lines) (g : Event → Option γ) :
    log.filterMap g = lines.filterMap fun line => line.bind g := by
  rw [← h, List.filterMap_map]
  rfl

/-- No line of a field is that of a collection. -/
theorem filterMap_collection?_fieldLines (node : String) (f : Field) :
    (d.fieldLines config node f).filterMap (fun line => line.bind Event.collection?) = [] := by
  rw [fieldLines, resultLine?, substitutionLines]
  cases d.base? config f.type.leaf <;> split_ifs <;> rfl

/-- The lines of a node have one line of a collection. -/
theorem filterMap_collection?_nodeLines (type : ObjectType) :
    (d.nodeLines config type).filterMap (fun line => line.bind Event.collection?)
      = [(type.name, type.fields.length)] := by
  have hfields : (type.fields.flatMap fun f => (d.fieldLines config type.name f).filterMap
      fun line => line.bind Event.collection?) = [] :=
    List.flatMap_eq_nil_iff.2 fun f _ => filterMap_collection?_fieldLines type.name f
  rw [nodeLines, List.filterMap_append, List.filterMap_flatMap, hfields]
  rfl

/-- The lines before a field have one line of a collection for each node before its own. -/
theorem filterMap_collection?_linesBefore (before : List ObjectType) (type : ObjectType)
    (done : List Field) (f : Field) :
    (d.linesBefore config before type done f).filterMap (fun line => line.bind Event.collection?)
      = before.map fun t => (t.name, t.fields.length) := by
  have hdone : (done.flatMap fun g => (d.fieldLines config type.name g).filterMap
      fun line => line.bind Event.collection?) = [] :=
    List.flatMap_eq_nil_iff.2 fun g _ => filterMap_collection?_fieldLines type.name g
  have hsubstitution : ((substitutionLines f.type.leaf).map some).filterMap
      (fun line => line.bind Event.collection?) = [] := by
    rw [substitutionLines]
    split_ifs <;> rfl
  rw [linesBefore, List.filterMap_append, List.filterMap_append, List.filterMap_flatMap,
    List.filterMap_flatMap, hdone, hsubstitution, List.append_nil, List.append_nil]
  simp only [filterMap_collection?_nodeLines]
  exact List.map_eq_flatMap.symm

/-- The lines of a field are that of its substitution and that of its result. -/
theorem cases_of_mem_fieldLines {node : String} {f : Field} {e : Event}
    (h : some e ∈ d.fieldLines config node f) :
    (∃ resolved, e = .substituted f.type.leaf resolved)
      ∨ ∃ found, e = .describedField node f.name found := by
  rw [fieldLines, List.mem_append, List.mem_map, List.mem_singleton] at h
  rcases h with ⟨told, htold, heq⟩ | hresult
  · obtain rfl := Option.some.inj heq
    rw [substitutionLines] at htold
    split_ifs at htold
    · contradiction
    · exact Or.inl ⟨_, List.mem_singleton.1 htold⟩
  · obtain ⟨base, _, hfound⟩ := Option.map_eq_some_iff.1 hresult.symm
    exact Or.inr ⟨_, hfound.symm⟩

/-- The lines of a node are those of its fields and that of its collection. -/
theorem cases_of_mem_nodeLines {type : ObjectType} {e : Event}
    (h : some e ∈ d.nodeLines config type) :
    (∃ f, some e ∈ d.fieldLines config type.name f)
      ∨ e = .builtCollection type.name type.fields.length := by
  rw [nodeLines, List.mem_append, List.mem_flatMap, List.mem_singleton] at h
  rcases h with ⟨f, _, hfield⟩ | hlast
  · exact Or.inl ⟨f, hfield⟩
  · exact Or.inr (Option.some.inj hlast)

/-- No line of a field is that of all collections. -/
theorem builtCollections_not_mem_fieldLines {node : String} {f : Field} (count : Nat) :
    some (.builtCollections count) ∉ d.fieldLines config node f := by
  intro h
  rcases cases_of_mem_fieldLines h with ⟨resolved, heq⟩ | ⟨found, heq⟩
  · contradiction
  · contradiction

/-- No line of a node is that of all collections. -/
theorem builtCollections_not_mem_nodeLines {type : ObjectType} (count : Nat) :
    some (.builtCollections count) ∉ d.nodeLines config type := by
  intro h
  rcases cases_of_mem_nodeLines h with ⟨f, hfield⟩ | heq
  · exact builtCollections_not_mem_fieldLines count hfield
  · contradiction

/-- Nor is any line before the result of a field. -/
theorem builtCollections_not_mem_linesBefore {before : List ObjectType} {type : ObjectType}
    {done : List Field} {f : Field} (count : Nat) :
    some (.builtCollections count) ∉ d.linesBefore config before type done f := by
  intro h
  rw [linesBefore, List.append_assoc, List.mem_append, List.mem_flatMap, List.mem_append,
    List.mem_flatMap] at h
  rcases h with ⟨t, _, hnode⟩ | ⟨g, _, hfield⟩ | hsubstitution
  · exact builtCollections_not_mem_nodeLines count hnode
  · exact builtCollections_not_mem_fieldLines count hfield
  · have hfield : some (.builtCollections count) ∈ d.fieldLines config type.name f :=
      List.mem_append_left _ hsubstitution
    exact builtCollections_not_mem_fieldLines count hfield

/-- No opening line is that of all collections. -/
theorem builtCollections_not_mem_openingLines (count : Nat) :
    .builtCollections count ∉ d.openingLines := by
  simp [openingLines]

/-- The line of all collections is in the log that comes with collections, and in no other. -/
theorem Logs.builtCollections_mem_iff {outcome : Except Failure (List Collection)}
    {log : List Event} (h : d.Logs config outcome log) :
    (∃ count, .builtCollections count ∈ log) ↔ ∃ cs, outcome = .ok cs := by
  constructor
  · rintro ⟨count, hcount⟩
    cases h with
    | unmapped name => exact absurd hcount (builtCollections_not_mem_openingLines count)
    | unresolved _ hlog =>
      have hline := List.mem_map_of_mem (f := some) hcount
      rw [hlog, List.mem_append] at hline
      rcases hline with hopening | hbefore
      · obtain ⟨_, hmem, heq⟩ := List.mem_map.1 hopening
        obtain rfl := Option.some.inj heq
        exact absurd hmem (builtCollections_not_mem_openingLines count)
      · exact absurd hbefore (builtCollections_not_mem_linesBefore count)
    | built _ => exact ⟨_, rfl⟩
  · rintro ⟨cs, rfl⟩
    cases h with
    | built hlog =>
      have hlast : some (.builtCollections d.nodes.length) ∈ log.map some := by
        rw [hlog, buildLines]
        simp
      obtain ⟨e, he, heq⟩ := List.mem_map.1 hlast
      exact ⟨_, Option.some.inj heq ▸ he⟩

/-! ### What lines say -/

/-- The lines of a field are worded. -/
theorem says_of_mem_fieldLines {node : String} {f : Field} {e : Event}
    (h : some e ∈ d.fieldLines config node f) : e.Says e.level e.text := by
  rcases cases_of_mem_fieldLines h with ⟨resolved, rfl⟩ | ⟨found, rfl⟩
  · exact .substituted _ _
  · exact .describedField _ _ _

/-- All lines of a document are worded. -/
theorem says_of_mem_lines {e : Event}
    (h : some e ∈ d.openingLines.map some ++ d.buildLines config) : e.Says e.level e.text := by
  rw [buildLines, List.mem_append, List.mem_append, List.mem_map, List.mem_flatMap,
    List.mem_singleton] at h
  rcases h with ⟨told, htold, heq⟩ | ⟨type, _, hnode⟩ | hlast
  · obtain rfl := Option.some.inj heq
    rw [openingLines, List.mem_cons, List.mem_singleton] at htold
    rcases htold with rfl | rfl
    · exact .classified _ _ _ _ _
    · exact .completedRegistry _ _ _
  · rcases cases_of_mem_nodeLines hnode with ⟨f, hfield⟩ | rfl
    · exact says_of_mem_fieldLines hfield
    · exact .builtCollection _ _
  · obtain rfl := Option.some.inj hlast
    exact .builtCollections _

/-- A log has lines of the document alone, so each is worded. -/
theorem Logs.says {outcome : Except Failure (List Collection)} {log : List Event}
    (h : d.Logs config outcome log) {e : Event} (he : e ∈ log) : e.Says e.level e.text := by
  have hline := List.mem_map_of_mem (f := some) he
  cases h with
  | unmapped name => exact says_of_mem_lines (List.mem_append_left (d.buildLines config) hline)
  | unresolved _ _ hcut => exact says_of_mem_lines (hcut.subset (List.mem_append_left _ hline))
  | built hlog => exact says_of_mem_lines (hlog ▸ hline)

/-- Where all scalars can be stored, the log follows the lines of the document, from the
    opening lines to the first result that is missing. -/
theorem logs_compile_of_mapped (h : d.firstUnmapped? config = none) :
    d.Logs config (compile d config).outcome (compile d config).log := by
  have hfollows := Scope.follows_collections d config
  have hout := Scope.outcome_collections_nodes d config
  rw [outcome_compile_eq, log_compile_of_mapped h, h, Option.map_none, unlessFound_none, ok_bind]
  cases hunresolved : d.firstUnresolved? config with
  | none =>
    rw [hunresolved, Option.map_none, unlessFound_none] at hout
    rw [Run.follows_of_ok hout] at hfollows
    rw [hout]
    exact .built (by rw [List.map_append, hfollows])
  | some leaf =>
    rw [hunresolved, Option.map_some, unlessFound_some] at hout
    rw [Run.follows_of_error hout] at hfollows
    obtain ⟨before, type, done, f, hplace, rfl⟩ := exists_failsAt_of_firstUnresolved? hunresolved
    obtain ⟨rest, hlines⟩ := hplace.exists_buildLines_eq
    rw [hlines] at hfollows
    have htold := map_some_eq_of_prefix hplace.none_not_mem_linesBefore hfollows
    have hlog : (d.openingLines ++ ((d.scope config).collections d.nodes).events).map some
        = d.openingLines.map some ++ d.linesBefore config before type done f := by
      rw [List.map_append, htold]
    rw [hout]
    refine .unresolved hplace hlog ?_ ?_
    · rw [hlog, resultLine?, hplace.unresolved, Option.map_none, List.append_assoc, hlines,
        List.prefix_append_right_inj, List.prefix_append_right_inj]
      exact List.prefix_append [none] rest
    · rw [filterMap_of_map_some hlog, List.filterMap_append, filterMap_collection?_linesBefore,
        List.filterMap_map]
      rfl

end Document

/-- **The log tells how far a compilation got.** It has the opening lines, which count the
    declarations of each part and the different names in the registry, and behind them, unless
    a scalar cannot be stored that must be, the lines of the nodes: all of them if there are
    collections, and otherwise those before the result of the first field without a base type.
    The line of all collections is told iff there are collections. Each line says what it tells
    in words of its own. -/
theorem logs_compile (d : Document) (config : Config) :
    d.Logs config (compile d config).outcome (compile d config).log
      ∧ ((∃ count, .builtCollections count ∈ (compile d config).log)
        ↔ ∃ cs, (compile d config).outcome = .ok cs)
      ∧ ∀ e ∈ (compile d config).log, e.Says e.level e.text := by
  have hlogs : d.Logs config (compile d config).outcome (compile d config).log := by
    cases hunmapped : d.firstUnmapped? config with
    | none => exact Document.logs_compile_of_mapped hunmapped
    | some name =>
      rw [outcome_compile_eq, hunmapped, Document.log_compile_of_unmapped hunmapped]
      exact .unmapped name
  exact ⟨hlogs, hlogs.builtCollections_mem_iff, fun _ he => hlogs.says he⟩

/-- Two nodes of one name. The second has a field of a connection of what is not declared. -/
def strayConnection : Document where
  definitions := [
    .object { name := "Shelf", interfaces := ["Node"], fields := [
      { name := "shelf", type := .named "ShelfConnection" }] },
    .object { name := "Shelf", interfaces := ["Node"], fields := [
      { name := "id", type := .nonNull (.named "ID") },
      { name := "books", type := .list (.named "BookConnection") },
      { name := "room", type := .named "Room" }] }]

example : (compile strayConnection {}).log = [
    .classified 0 0 2 0 0, .completedRegistry 1 0 0,
    .substituted "ShelfConnection" "Shelf",
    .describedField "Shelf" "shelf" { base := .reference (some "Shelf") },
    .builtCollection "Shelf" 1,
    .describedField "Shelf" "id" { base := .primitive .objectId, required := true },
    .substituted "BookConnection" "Book"] := rfl

end RelayCollections
