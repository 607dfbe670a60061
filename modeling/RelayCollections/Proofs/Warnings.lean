import Mathlib.Data.List.Count
import Mathlib.Data.List.Dedup
import Mathlib.Data.List.Nodup
import RelayCollections.Proofs.Resolution
import RelayCollections.Source

namespace RelayCollections

/-!
# Warnings

How often each warning is given while a document is compiled, whatever comes of it, and in
which words. Three stages warn, each of something else, and a failure cuts off only stages that
do not warn.

* `Run.IsQuiet` — nothing of a level happens in a run; sources are read and fields described
  without a warning;
* `eventsAt_compile` — the warnings of a compilation, stage by stage;
* `toList_perm_dedup` — a set lists each of its names once;
* `Document.warningCount`, `Document.warningTexts` — how often a document and a configuration
  give cause for a warning, and how the warnings are worded;
* `count_warnings` — a warning is given as often as there is cause for it, in these words.
-/

/-! ### Events of a level -/

namespace Run

variable {level : Level}

/-- Nothing that matters at the level happens. -/
def IsQuiet (run : Run α) (level : Level) : Prop :=
  run.eventsAt level = []

/-- After a result, the events of what follows are added. -/
theorem eventsAt_bind_of_ok {run : Run α} {a : α} (h : run.outcome = .ok a)
    (next : α → Run β) :
    (run >>= next).eventsAt level = run.eventsAt level ++ (next a).eventsAt level := by
  obtain ⟨events, outcome⟩ := run
  obtain rfl : outcome = .ok a := h
  exact List.filter_append _ _

/-- After a failure nothing happens. -/
theorem eventsAt_bind_of_error {run : Run α} {failure : Failure}
    (h : run.outcome = .error failure) (next : α → Run β) :
    (run >>= next).eventsAt level = run.eventsAt level := by
  obtain ⟨events, outcome⟩ := run
  obtain rfl : outcome = .error failure := h
  rfl

/-- Before a quiet run, only the first run matters, whether or not it fails. -/
theorem eventsAt_bind_of_isQuiet (run : Run α) {next : α → Run β}
    (hnext : ∀ a, (next a).IsQuiet level) :
    (run >>= next).eventsAt level = run.eventsAt level := by
  cases h : run.outcome with
  | error failure => exact eventsAt_bind_of_error h next
  | ok a => rw [eventsAt_bind_of_ok h, hnext a, List.append_nil]

theorem isQuiet_pure (a : α) : (pure a : Run α).IsQuiet level := rfl

theorem isQuiet_fail (failure : Failure) : (fail failure : Run α).IsQuiet level := rfl

theorem isQuiet_ofExcept (outcome : Except Failure α) : (ofExcept outcome).IsQuiet level := rfl

/-- An event of another level does not matter. -/
theorem isQuiet_tell {e : Event} (h : e.level ≠ level) : (tell [e]).IsQuiet level :=
  List.filter_eq_nil_iff.2 fun _ he => by simpa [List.mem_singleton.1 he] using h

/-- Two quiet runs in a row are quiet. -/
theorem IsQuiet.bind {run : Run α} {next : α → Run β} (hrun : run.IsQuiet level)
    (hnext : ∀ a, (next a).IsQuiet level) : (run >>= next).IsQuiet level :=
  (eventsAt_bind_of_isQuiet run hnext).trans hrun

/-- Nor does it matter what is made of the result of a quiet run. -/
theorem IsQuiet.bind_pure {run : Run α} (hrun : run.IsQuiet level) (f : α → β) :
    (run >>= fun a => pure (f a)).IsQuiet level :=
  hrun.bind fun a => isQuiet_pure (f a)

/-- A quiet run for each element of a list is quiet. -/
theorem isQuiet_mapM {f : α → Run β} (hf : ∀ a, (f a).IsQuiet level) (as : List α) :
    (as.mapM f).IsQuiet level := by
  induction as with
  | nil => exact isQuiet_pure []
  | cons a as ih =>
    rw [List.mapM_cons]
    exact (hf a).bind fun _ => ih.bind_pure _

end Run

/-! ### Stages that do not warn -/

open Run

namespace Scope

variable (scope : Scope)

theorem isQuiet_describeNamed (name : String) :
    (scope.describeNamed name).IsQuiet .warning := by
  unfold describeNamed
  -- A substitution may be told before the lookup.
  dsimp only
  split
  · refine (isQuiet_tell (by nofun)).bind fun _ => ?_
    split
    · exact isQuiet_pure _
    · exact isQuiet_fail _
  · split
    · exact isQuiet_pure _
    · exact isQuiet_fail _

theorem isQuiet_describe (type : TypeRef) : (scope.describe type).IsQuiet .warning := by
  induction type with
  | named name => exact scope.isQuiet_describeNamed name
  | list inner ih => exact ih.bind_pure _
  | nonNull inner ih => exact ih.bind_pure _

theorem isQuiet_field (node : String) (f : Field) : (scope.field node f).IsQuiet .warning := by
  refine (scope.isQuiet_describe f.type).bind fun d => ?_
  exact (isQuiet_tell (by nofun)).bind_pure _

theorem isQuiet_collection (type : ObjectType) : (scope.collection type).IsQuiet .warning := by
  refine (isQuiet_mapM (scope.isQuiet_field type.name) _).bind fun fields => ?_
  exact (isQuiet_tell (by nofun)).bind_pure _

/-- Collections are built without a warning, whether or not all can be. -/
theorem isQuiet_collections (types : List ObjectType) :
    (scope.collections types).IsQuiet .warning := by
  refine (isQuiet_mapM scope.isQuiet_collection _).bind fun built => ?_
  exact (isQuiet_tell (by nofun)).bind_pure _

end Scope

theorem SyntaxTree.isQuiet_toDefinition (node : DefinitionNode) :
    node.toDefinition.IsQuiet .warning := by
  unfold DefinitionNode.toDefinition
  -- Only definitions that are left out are told.
  split
  · exact (isQuiet_tell (by nofun)).bind_pure _
  · split_ifs
    · exact isQuiet_pure _
    · exact (isQuiet_ofExcept _).bind_pure _
    · exact (isQuiet_ofExcept _).bind_pure _
    · exact isQuiet_pure _
    · exact (isQuiet_tell (by nofun)).bind_pure _

theorem SyntaxTree.isQuiet_toDocument (node : DocumentNode) :
    node.toDocument.IsQuiet .warning := by
  unfold DocumentNode.toDocument
  split
  · exact (isQuiet_mapM isQuiet_toDefinition _).bind_pure _
  · exact isQuiet_ofExcept _

/-- A source of either form is read without a warning, whether or not it can be. -/
theorem SourceForm.isQuiet_parse (form : SourceForm) (source : String) :
    (form.parse source).IsQuiet .warning := by
  cases form with
  | schemaText =>
    refine (isQuiet_ofExcept _).bind fun ds => ?_
    exact (isQuiet_tell (by nofun)).bind_pure _
  | syntaxTree =>
    refine (isQuiet_ofExcept _).bind fun node => ?_
    refine (SyntaxTree.isQuiet_toDocument node).bind fun d => ?_
    exact (isQuiet_tell (by nofun)).bind_pure _

/-! ### Stages that warn -/

/-- The check of a scalar table warns of all clashes. -/
theorem eventsAt_check (table : ScalarTable) :
    table.check.eventsAt .warning
      = table.clashes.map fun (name, storage) => .ignoredEntry name storage := by
  refine List.filter_eq_self.2 fun e he => ?_
  obtain ⟨_, _, rfl⟩ := List.mem_map.1 he
  rfl

/-- Classification warns of all nodes that a scalar hides. -/
theorem eventsAt_classify (d : Document) (scalars : ScalarTable) :
    (classify d scalars).eventsAt .warning
      = (d.registry.refTargets.toList.filter scalars.contains).map .shadowedNode := by
  have hshadowed : (List.map Event.shadowedNode
      (d.registry.refTargets.toList.filter scalars.contains)).filter
        (fun e => e.level = .warning)
      = (d.registry.refTargets.toList.filter scalars.contains).map .shadowedNode := by
    refine List.filter_eq_self.2 fun e he => ?_
    obtain ⟨_, _, rfl⟩ := List.mem_map.1 he
    rfl
  show List.filter _ ([_] ++ (d.registry.completion scalars ++ [])) = _
  rw [List.append_nil, List.filter_append, Registry.completion, List.filter_append, hshadowed]
  -- What else is told are counts, at another level.
  exact List.append_nil _

/-- The check of declared scalars warns of each that cannot be stored, or fails at the first
    one, without a warning, where all must be. -/
theorem eventsAt_checkScalars (config : Config) (names : List String) :
    (checkScalars config names).eventsAt .warning
      = (names.filter fun name => !(config.strict || config.scalars.contains name)).map
          .unmappedScalar := by
  induction names with
  | nil => rfl
  | cons name names ih =>
    rw [checkScalars, checkScalar]
    by_cases hmapped : config.scalars.contains name = true
    · rw [if_pos hmapped, done_bind, ih]
      simp [hmapped]
    · rw [if_neg hmapped]
      cases hstrict : config.strict with
      | true =>
        rw [if_pos rfl, eventsAt_bind_of_error (outcome_fail _), isQuiet_fail]
        simp
      | false =>
        rw [hstrict] at ih
        simp only [Bool.false_eq_true, if_false]
        rw [eventsAt_bind_of_ok (outcome_tell _), ih]
        simp [hmapped, eventsAt, Run.tell, Event.level]

/-- The warnings of a compilation, stage by stage. Where the check of scalars fails, it has
    given no warning and no stage that warns comes after it. -/
theorem eventsAt_compile (d : Document) (config : Config) :
    (compile d config).eventsAt .warning
      = (config.scalars.clashes.map fun (name, storage) => .ignoredEntry name storage)
        ++ (d.registry.refTargets.toList.filter config.scalars.contains).map .shadowedNode
        ++ ((d.scalars.map Definition.name).filter fun name =>
          !(config.strict || config.scalars.contains name)).map .unmappedScalar := by
  have hcheck : config.scalars.check.outcome = .ok () := rfl
  rw [compile, eventsAt_bind_of_ok hcheck, eventsAt_bind_of_ok (outcome_classify d _),
    eventsAt_bind_of_isQuiet _ fun _ => Scope.isQuiet_collections _ _, eventsAt_check,
    eventsAt_classify, eventsAt_checkScalars, List.append_assoc]
  rfl

/-! ### Tables without repeats -/

/-- Entries whose keys are kept apart do not repeat. -/
theorem nodup_of_distinct (key : α → String) {entries : List α}
    (h : entries.Pairwise fun a b => ¬ compare (key a) (key b) = .eq) : entries.Nodup :=
  h.imp fun hne heq => hne (by rw [heq]; exact Std.ReflCmp.compare_self)

/-- Names without repeats are, in some order, the different ones among the same names. -/
theorem perm_dedup {names all : List String} (hnodup : names.Nodup)
    (h : ∀ n, n ∈ names ↔ n ∈ all) : names.Perm all.dedup := by
  refine (List.perm_ext_iff_of_nodup hnodup all.nodup_dedup).2 fun n => ?_
  rw [h, List.mem_dedup]

/-- A set lists, in some order, the different ones among the names in it. -/
theorem toList_perm_dedup {names : Std.ExtTreeSet String} {all : List String}
    (h : ∀ n, names.contains n = true ↔ n ∈ all) : names.toList.Perm all.dedup := by
  have hdistinct : names.toList.Pairwise fun a b => ¬ compare a b = .eq :=
    Std.ExtTreeSet.distinct_toList
  refine perm_dedup (nodup_of_distinct id hdistinct) fun n => ?_
  rw [Std.ExtTreeSet.mem_toList, Std.ExtTreeSet.mem_iff_contains, h]

/-- The reference targets of a document are the different names of its nodes. -/
theorem Document.toList_refTargets_perm (d : Document) :
    d.registry.refTargets.toList.Perm (d.nodes.map ObjectType.name).dedup :=
  toList_perm_dedup fun _ => Document.isRefTarget_registry.trans List.mem_map.symm

/-! ### Causes -/

/-- How often a document under a configuration gives cause for a warning: once for each
    entry of a built-in scalar, once for each name that a node has and a scalar too, and,
    unless all scalars must be stored, once for each declaration of one that cannot be. -/
def Document.warningCount (d : Document) (config : Config) : Event → Nat
  | .ignoredEntry name storage =>
    if (builtInStorage? name).isSome = true ∧ config.scalars.custom[name]? = some storage then 1
    else 0
  | .shadowedNode name =>
    if d.declaresNode name = true ∧ config.scalars.contains name = true then 1 else 0
  | .unmappedScalar name =>
    if config.strict = true ∨ config.scalars.contains name = true then 0
    else d.definitions.count (.scalar name)
  | _ => 0

/-- What the warnings say: which entry of a built-in scalar has no effect, which name of nodes
    is that of a scalar, and, unless all scalars must be stored, which one cannot be, again for
    each declaration. -/
def Document.warningTexts (d : Document) (config : Config) : List String :=
  ((config.scalars.custom.toList.filter fun entry => (builtInStorage? entry.1).isSome).map
      fun (name, storage) => "Ignoring custom mapping " ++ name ++ " -> " ++ storage.name
        ++ ": built-in scalars cannot be remapped")
    ++ (((d.nodes.map ObjectType.name).dedup.filter config.scalars.contains).map fun name =>
      "Node type " ++ name ++ " shares its name with a scalar; the scalar mapping wins")
    ++ if config.strict then []
      else ((d.scalars.map Definition.name).filter fun name =>
        !config.scalars.contains name).map fun name =>
          "Scalar " ++ name ++ " has no storage mapping"

/-- The warnings are those that a document and a configuration give cause for, as often as they
    do, in the words for them. -/
structure Document.Warns (d : Document) (config : Config) (warnings : List Event) : Prop where
  count : ∀ e, warnings.count e = d.warningCount config e
  texts : (warnings.map Event.text).Perm (d.warningTexts config)

/-- Lists of other events do not count. -/
private theorem count_map_of_ne {f : α → Event} {e : Event} (h : ∀ a, f a ≠ e) (as : List α) :
    (as.map f).count e = 0 :=
  List.count_eq_zero.2 fun he => by
    obtain ⟨a, _, ha⟩ := List.mem_map.1 he
    exact h a ha

/-- An entry of a built-in scalar clashes once. -/
theorem count_clashes (table : ScalarTable) (name : String) (storage : Storage) :
    table.clashes.count (name, storage)
      = if (builtInStorage? name).isSome = true ∧ table.custom[name]? = some storage then 1
        else 0 := by
  have hnodup : table.custom.toList.Nodup :=
    nodup_of_distinct Prod.fst Std.ExtTreeMap.distinct_keys_toList
  have hmem : (name, storage) ∈ table.clashes
      ↔ (builtInStorage? name).isSome = true ∧ table.custom[name]? = some storage := by
    rw [ScalarTable.clashes, List.mem_filter, Std.ExtTreeMap.mem_toList_iff_getElem?_eq_some,
      and_comm]
  rw [ScalarTable.clashes] at hmem ⊢
  rw [(hnodup.filter _).count]
  simp only [hmem]

/-- A name that nodes have is a reference target once. -/
theorem count_refTargets (d : Document) (scalars : ScalarTable) (name : String) :
    (d.registry.refTargets.toList.filter scalars.contains).count name
      = if d.declaresNode name = true ∧ scalars.contains name = true then 1 else 0 := by
  have hmem : name ∈ (d.nodes.map ObjectType.name).dedup ↔ d.declaresNode name = true := by
    rw [List.mem_dedup, List.mem_map, Document.declaresNode_iff]
  rw [(d.toList_refTargets_perm.filter _).count_eq, ((List.nodup_dedup _).filter _).count]
  simp only [List.mem_filter, hmem]

/-- A scalar is among the declared ones as often as it is declared. -/
theorem count_names_scalars (d : Document) (name : String) :
    (d.scalars.map Definition.name).count name = d.definitions.count (.scalar name) := by
  rw [Document.scalars]
  induction d.definitions with
  | nil => rfl
  | cons definition definitions ih =>
    cases definition with
    | scalar declared =>
      rw [List.filter_cons_of_pos rfl, List.map_cons, List.count_cons, List.count_cons, ih]
      simp [Definition.name]
    | interface | object | other =>
      rw [List.filter_cons_of_neg (by simp [Definition.isScalar]), ih]
      simp

/-- Where a declared scalar counts, it counts as often as it is declared. -/
theorem count_filter_scalars (d : Document) (isPassedOver : String → Bool) (name : String) :
    ((d.scalars.map Definition.name).filter fun name => !isPassedOver name).count name
      = if isPassedOver name = true then 0 else d.definitions.count (.scalar name) := by
  by_cases hpassed : isPassedOver name = true
  · rw [if_pos hpassed, List.count_eq_zero]
    simp [hpassed]
  · rw [if_neg hpassed, List.count_filter (by simpa using hpassed), count_names_scalars]

/-- A compilation gives each warning as often as there is cause for it. -/
theorem count_eventsAt_compile (d : Document) (config : Config) (e : Event) :
    ((compile d config).eventsAt .warning).count e = d.warningCount config e := by
  have hentries : Function.Injective fun entry : String × Storage =>
      Event.ignoredEntry entry.1 entry.2 := fun _ _ h => by simpa [Prod.ext_iff] using h
  have hnodes : Function.Injective Event.shadowedNode := fun _ _ h => by simpa using h
  have hscalars : Function.Injective Event.unmappedScalar := fun _ _ h => by simpa using h
  -- Each stage gives warnings of its own kind.
  rw [eventsAt_compile, List.count_append, List.count_append]
  cases e with
  | ignoredEntry name storage =>
    rw [List.count_map_of_injective _ _ hentries (name, storage), count_clashes,
      count_map_of_ne (by simp), count_map_of_ne (by simp)]
    rfl
  | shadowedNode name =>
    rw [count_map_of_ne (by simp), List.count_map_of_injective _ _ hnodes, count_refTargets,
      count_map_of_ne (by simp), Nat.zero_add]
    rfl
  | unmappedScalar name =>
    rw [count_map_of_ne (by simp), count_map_of_ne (by simp),
      List.count_map_of_injective _ _ hscalars, count_filter_scalars]
    simp [Document.warningCount]
  | _ =>
    rw [count_map_of_ne (by simp), count_map_of_ne (by simp), count_map_of_ne (by simp)]
    rfl

/-- A compilation words each warning by the entry, the node or the scalar that it is about. -/
theorem texts_eventsAt_compile (d : Document) (config : Config) :
    (((compile d config).eventsAt .warning).map Event.text).Perm (d.warningTexts config) := by
  rw [eventsAt_compile, List.map_append, List.map_append, List.map_map, List.map_map,
    List.map_map, Document.warningTexts]
  refine (List.Perm.append ?_ ?_).append ?_
  · exact List.Perm.refl _
  · -- The registry lists the names of nodes in an order of its own.
    exact (d.toList_refTargets_perm.filter _).map _
  · cases config.strict with
    | true => simp
    | false => exact List.Perm.refl _

/-- The warnings of a compilation are those that there is cause for. -/
theorem warns_compile (d : Document) (config : Config) :
    d.Warns config ((compile d config).eventsAt .warning) where
  count := count_eventsAt_compile d config
  texts := texts_eventsAt_compile d config

/-- **Warnings.** Whether it ends in collections or in a failure, a compilation gives each
    warning as often as the document and the configuration give cause for it, and no other;
    where all scalars must be stored, none of them for a scalar that cannot be. Each says what
    it is about. From a source of either form the warnings are those of the document that the
    source is read as, and there are none if it cannot be read. -/
theorem count_warnings (config : Config) :
    (∀ d : Document, d.Warns config ((compile d config).eventsAt .warning))
      ∧ ∀ (form : SourceForm) (source : String),
        (∀ d, (form.parse source).outcome = .ok d →
          d.Warns config ((compileSource form source config).eventsAt .warning))
        ∧ ∀ failure, (form.parse source).outcome = .error failure →
          (compileSource form source config).eventsAt .warning = [] := by
  refine ⟨fun d => warns_compile d config, fun form source => ⟨?_, ?_⟩⟩
  · intro d hparse
    rw [compileSource, eventsAt_bind_of_ok hparse, form.isQuiet_parse, List.nil_append]
    exact warns_compile d config
  · intro failure hparse
    rw [compileSource, eventsAt_bind_of_error hparse, form.isQuiet_parse]

/-- Two nodes of one name that a scalar has too, a scalar that is declared twice, and last a
    field whose type is unknown. -/
def crowdedNames : Document where
  definitions := [
    .scalar "Email", .scalar "Url",
    .object { name := "ID", interfaces := ["Node"], fields := [] },
    .object { name := "ID", interfaces := ["Node"], fields := [] },
    .object { name := "Page", interfaces := ["Node"], fields := [
      { name := "next", type := .named "Leaf" }] },
    .scalar "Url"]

/-- An entry for a built-in scalar and one that has an effect. -/
def clashingEntries : Config where
  scalars := { custom := .ofList [("ID", Storage.number), ("Email", Storage.string)] }

/-- The compilation fails and has given all its warnings, each in its words; from a text that
    is no schema there are none. -/
theorem count_warnings_crowdedNames :
    (compile crowdedNames clashingEntries).outcome = .error (.unknownType "Leaf")
      ∧ ((compile crowdedNames clashingEntries).eventsAt .warning).count
          (.ignoredEntry "ID" .number) = 1
      ∧ ((compile crowdedNames clashingEntries).eventsAt .warning).count
          (.shadowedNode "ID") = 1
      ∧ ((compile crowdedNames clashingEntries).eventsAt .warning).count
          (.unmappedScalar "Url") = 2
      ∧ ((compile crowdedNames clashingEntries).eventsAt .warning).count
          (.unmappedScalar "Email") = 0
      ∧ (((compile crowdedNames clashingEntries).eventsAt .warning).map Event.text).Perm
          ["Ignoring custom mapping ID -> Number: built-in scalars cannot be remapped",
            "Node type ID shares its name with a scalar; the scalar mapping wins",
            "Scalar Url has no storage mapping", "Scalar Url has no storage mapping"]
      ∧ (SourceForm.schemaText.parse "").outcome = .error (.schemaText {})
      ∧ (compileSource .schemaText "" clashingEntries).eventsAt .warning = [] := by
  obtain ⟨hwarns, hsource⟩ := count_warnings clashingEntries
  obtain ⟨hcount, htexts⟩ := hwarns crowdedNames
  have hrefused : Sdl.declarationsOfText "" = .error {} := by decide +kernel
  have hparse : (SourceForm.schemaText.parse "").outcome = .error (.schemaText {}) := by
    rw [SourceForm.parse, Sdl.parseSchema, hrefused]
    rfl
  exact ⟨rfl, hcount _, hcount _, hcount _, hcount _, htexts, hparse,
    (hsource .schemaText "").2 _ hparse⟩

end RelayCollections
