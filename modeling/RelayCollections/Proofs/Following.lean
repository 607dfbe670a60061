import RelayCollections.Proofs.Warnings

namespace RelayCollections

/-!
# Compilations follow their lines

All that is told while the collections of a document are built can be written down beforehand:
field by field and node by node what is to be described and built, with the result of a field
missing if it has no base type. What is told is this sequence up to the first line that is
missing, since there the run fails.

* `Run.Follows` — a run tells the lines of a sequence and fails where one is missing; one lemma
  for each way to make a run;
* `map_some_eq_of_prefix` — what is told before a missing line;
* `Document.buildLines` — the lines of the nodes of a document;
* `Scope.follows_collections` — the collections of a document follow its lines.
-/

/-! ### Runs that follow a sequence of lines -/

namespace Run

/-- The run tells the lines in their order, up to the first that is missing. There it fails;
    if none is missing it has a result. -/
def Follows (run : Run α) (lines : List (Option Event)) : Prop :=
  match run.outcome with
  | .ok _ => run.events.map some = lines
  | .error _ => run.events.map some ++ [none] <+: lines

theorem follows_of_ok {run : Run α} {a : α} (h : run.outcome = .ok a)
    {lines : List (Option Event)} : run.Follows lines ↔ run.events.map some = lines := by
  rw [Follows, h]

theorem follows_of_error {run : Run α} {failure : Failure} (h : run.outcome = .error failure)
    {lines : List (Option Event)} :
    run.Follows lines ↔ run.events.map some ++ [none] <+: lines := by
  rw [Follows, h]

theorem follows_pure (a : α) : (pure a : Run α).Follows [] := rfl

theorem follows_tell (events : List Event) : (tell events).Follows (events.map some) := rfl

/-- A failure stands for a line that is missing. -/
theorem follows_fail (failure : Failure) : (fail failure : Run α).Follows [none] :=
  List.prefix_rfl

/-- Two runs in a row follow two sequences in a row. After a failure the second sequence does
    not matter. -/
theorem Follows.bind {run : Run α} {next : α → Run β} {front back : List (Option Event)}
    (hrun : run.Follows front) (hnext : ∀ a, run.outcome = .ok a → (next a).Follows back) :
    (run >>= next).Follows (front ++ back) := by
  obtain ⟨events, outcome⟩ := run
  cases outcome with
  | error failure => exact List.IsPrefix.trans hrun (List.prefix_append front back)
  | ok a =>
    have hfront : events.map some = front := hrun
    have hback := hnext a rfl
    rw [bind_ok]
    cases hout : (next a).outcome with
    | ok b =>
      rw [follows_of_ok hout] at hback
      show (events ++ (next a).events).map some = _
      rw [List.map_append, hfront, hback]
    | error failure =>
      rw [follows_of_error hout] at hback
      show (events ++ (next a).events).map some ++ [none] <+: _
      rw [List.map_append, hfront, List.append_assoc]
      exact (List.prefix_append_right_inj front).2 hback

/-- A run that fails has told all that is told, whatever should follow. -/
theorem Follows.bind_of_error {run : Run α} {failure : Failure} {lines : List (Option Event)}
    (h : run.Follows lines) (hout : run.outcome = .error failure) (next : α → Run β) :
    (run >>= next).Follows lines := by
  obtain ⟨events, outcome⟩ := run
  obtain rfl : outcome = .error failure := hout
  exact h

/-- What is made of a result changes nothing about what is told. -/
theorem Follows.bind_pure {run : Run α} {lines : List (Option Event)} (h : run.Follows lines)
    (f : α → β) : (run >>= fun a => pure (f a)).Follows lines := by
  have hbind := h.bind fun a _ => follows_pure (f a)
  rwa [List.append_nil] at hbind

/-- A run for each element of a list follows one sequence after another. -/
theorem follows_mapM {f : α → Run β} {lines : α → List (Option Event)}
    (h : ∀ a, (f a).Follows (lines a)) (as : List α) :
    (as.mapM f).Follows (as.flatMap lines) := by
  induction as with
  | nil => exact follows_pure []
  | cons a as ih =>
    rw [List.mapM_cons, List.flatMap_cons]
    exact (h a).bind fun b _ => ih.bind_pure fun bs => b :: bs

/-- A run for each element of a list has one result for each. -/
theorem length_eq_of_mapM {f : α → Run β} {as : List α} {bs : List β}
    (h : (as.mapM f).outcome = .ok bs) : bs.length = as.length := by
  rw [outcome_mapM] at h
  exact (mapM_eq_ok_iff.1 h).length_eq.symm

end Run

/-- What is told before a missing line is determined by the sequence. -/
theorem map_some_eq_of_prefix {events : List Event} {told rest : List (Option Event)}
    (htold : none ∉ told) (h : events.map some ++ [none] <+: told ++ none :: rest) :
    events.map some = told := by
  induction told generalizing events with
  | nil =>
    cases events with
    | nil => rfl
    | cons e events =>
      -- The first line is missing, so nothing can have been told.
      rw [List.map_cons, List.cons_append, List.nil_append, List.cons_prefix_cons] at h
      exact absurd h.1 (by simp)
  | cons line told ih =>
    rw [List.mem_cons, not_or] at htold
    cases events with
    | nil =>
      rw [List.map_nil, List.nil_append, List.cons_append, List.cons_prefix_cons] at h
      exact absurd h.1 htold.1
    | cons e events =>
      rw [List.map_cons, List.cons_append, List.cons_append, List.cons_prefix_cons] at h
      rw [List.map_cons, h.1, ih htold.2 h.2]

/-! ### The lines of a document -/

/-- The line of a leaf that stands for another name. -/
def substitutionLines (leaf : String) : List Event :=
  if substituteConnection leaf = leaf then [] else [.substituted leaf (substituteConnection leaf)]

namespace Document

variable (d : Document) (config : Config)

/-- The line of a field's result, if its leaf has a base type. -/
def resultLine? (node : String) (f : Field) : Option Event :=
  (d.base? config f.type.leaf).map fun base =>
    .describedField node f.name (.flattened base f.type.modifiers)

/-- The lines of a field. -/
def fieldLines (node : String) (f : Field) : List (Option Event) :=
  (substitutionLines f.type.leaf).map some ++ [d.resultLine? config node f]

/-- The lines of a node: those of its fields and then that of its collection. -/
def nodeLines (type : ObjectType) : List (Option Event) :=
  type.fields.flatMap (d.fieldLines config type.name)
    ++ [some (.builtCollection type.name type.fields.length)]

/-- The lines of all nodes and then that of all collections. -/
def buildLines : List (Option Event) :=
  d.nodes.flatMap (d.nodeLines config) ++ [some (.builtCollections d.nodes.length)]

end Document

/-! ### Fields, nodes and documents follow their lines -/

namespace Scope

open Run

variable (d : Document) (config : Config)

/-- A type is described after its leaf has been substituted, if it has a base type. -/
theorem follows_describe (type : TypeRef) :
    ((d.scope config).describe type).Follows ((substitutionLines type.leaf).map some
      ++ if (d.base? config type.leaf).isSome = true then [] else [none]) := by
  induction type with
  | named name =>
    rw [describe, describeNamed, Document.registry_scope, Document.resolve_registry,
      Document.base?_scope, TypeRef.leaf, substitutionLines]
    dsimp only
    by_cases hsame : substituteConnection name = name
    · rw [if_pos hsame, if_neg (not_not_intro hsame), List.map_nil, List.nil_append]
      cases d.base? config name with
      | some base => exact follows_pure _
      | none => exact follows_fail _
    · rw [if_neg hsame, if_pos hsame]
      refine (follows_tell _).bind fun _ _ => ?_
      cases d.base? config name with
      | some base => exact follows_pure _
      | none => exact follows_fail _
  | list inner ih => exact ih.bind_pure Descriptor.asList
  | nonNull inner ih =>
    exact ih.bind_pure fun d => if inner.isList then d.asListRequired else d.asRequired

/-- The outcome of a type: the flattened chain around the base type of its leaf. -/
theorem outcome_describe_scope (type : TypeRef) :
    ((d.scope config).describe type).outcome
      = foundOr (.unknownType (substituteConnection type.leaf))
          ((d.base? config type.leaf).map fun base => .flattened base type.modifiers) := by
  rw [outcome_describe, Document.registry_scope, Document.resolve_registry,
    Document.base?_scope]

/-- A field follows its lines. -/
theorem follows_field (node : String) (f : Field) :
    ((d.scope config).field node f).Follows (d.fieldLines config node f) := by
  have hdescribe := follows_describe d config f.type
  have hout := outcome_describe_scope d config f.type
  rw [Document.fieldLines, Document.resultLine?]
  cases hbase : d.base? config f.type.leaf with
  | some base =>
    rw [hbase] at hdescribe hout
    rw [Option.isSome_some, if_pos rfl, List.append_nil] at hdescribe
    refine hdescribe.bind fun found hfound => ?_
    -- The result that is told is the one that has been found.
    rw [hout] at hfound
    obtain rfl := Except.ok.inj hfound
    exact (follows_tell _).bind_pure fun _ => _
  | none =>
    rw [hbase] at hdescribe hout
    rw [Option.isSome_none, if_neg Bool.false_ne_true] at hdescribe
    exact hdescribe.bind_of_error hout _

/-- A node follows its lines. -/
theorem follows_collection (type : ObjectType) :
    ((d.scope config).collection type).Follows (d.nodeLines config type) := by
  refine (follows_mapM (follows_field d config type.name) type.fields).bind fun fields h => ?_
  rw [length_eq_of_mapM h]
  exact (follows_tell _).bind_pure fun _ => _

/-- The collections of a document follow its lines. -/
theorem follows_collections :
    ((d.scope config).collections d.nodes).Follows (d.buildLines config) := by
  refine (follows_mapM (follows_collection d config) d.nodes).bind fun built h => ?_
  rw [length_eq_of_mapM h]
  exact (follows_tell _).bind_pure fun _ => _

end Scope

end RelayCollections
