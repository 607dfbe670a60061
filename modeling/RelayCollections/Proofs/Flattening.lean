import Mathlib.Data.List.Infix
import RelayCollections.Proofs.Traversal
import RelayCollections.Scope

namespace RelayCollections

/-!
# Flattening of modifiers

The modifiers of a field's type are flattened into three flags. `Descriptor.flattened`
reads each flag off the whole chain of modifiers, without following the recursion through
the type:

* `outcome_describe` — the descriptor of a type is the flattened chain around the base
  type of its leaf, and a type has no descriptor exactly if its leaf has none;
* `outcome_describe_ofModifiers` — what each modifier around a name does to its descriptor.
-/

namespace Descriptor

/-- The descriptor of a chain of modifiers, the innermost first, around a base type. A
    non-null counts for the list that it stands immediately around; it counts for the
    value if it stands immediately around the leaf or around another non-null. -/
def flattened (base : BaseType) (ms : List Modifier) : Descriptor where
  base := base
  isList := decide (.list ∈ ms)
  required := decide ([.nonNull] <+: ms ∨ [.nonNull, .nonNull] <:+: ms)
  listRequired := decide ([.list, .nonNull] <:+: ms)

/-- A pair stands at the end of a longer chain or further inside. -/
private theorem pair_infix_concat (a b c : Modifier) (ms : List Modifier) :
    [a, b] <:+: ms ++ [c] ↔ (ms.getLast? = some a ∧ b = c) ∨ [a, b] <:+: ms := by
  rw [List.infix_concat_iff]
  refine or_congr_left ?_
  rw [show [a, b] = [a] ++ [b] from rfl, List.suffix_concat_iff]
  constructor
  · rintro (h | ⟨t, ht, hsuf⟩)
    · simp at h
    · obtain ⟨ht', hb⟩ := List.append_inj' ht rfl
      obtain ⟨front, rfl⟩ := hsuf
      rw [← ht']
      exact ⟨by simp, by simpa using hb⟩
  · rintro ⟨hlast, rfl⟩
    obtain ⟨front, rfl⟩ := List.getLast?_eq_some_iff.1 hlast
    exact Or.inr ⟨[a], rfl, ⟨front, rfl⟩⟩

/-- A modifier stands innermost in a longer chain if it is the new one or was before. -/
private theorem singleton_prefix_concat (a c : Modifier) (ms : List Modifier) :
    [a] <+: ms ++ [c] ↔ (ms = [] ∧ a = c) ∨ [a] <+: ms := by
  rw [List.prefix_concat_iff]
  refine or_congr_left ?_
  cases ms <;> simp

/-- A list around a chain sets the one flag. -/
theorem flattened_concat_list (base : BaseType) (ms : List Modifier) :
    flattened base (ms ++ [.list]) = (flattened base ms).asList := by
  simp [flattened, asList, pair_infix_concat, singleton_prefix_concat]

/-- A non-null around a chain requires the list that the chain ends with, and otherwise
    the value. -/
theorem flattened_concat_nonNull (base : BaseType) (ms : List Modifier) :
    flattened base (ms ++ [.nonNull])
      = if ms.getLast? = some .list then (flattened base ms).asListRequired
        else (flattened base ms).asRequired := by
  split
  · rename_i hlast
    have hne : ms ≠ [] := by rintro rfl; simp at hlast
    simp [flattened, asListRequired, pair_infix_concat, singleton_prefix_concat, hlast, hne]
  · rename_i hlast
    -- What the new non-null stands around is the leaf or another non-null.
    have hvalue : ms = [] ∨ ms.getLast? = some .nonNull := by
      cases hl : ms.getLast? with
      | none => exact Or.inl (List.getLast?_eq_none_iff.1 hl)
      | some m =>
        cases m with
        | list => exact absurd hl hlast
        | nonNull => exact Or.inr rfl
    rcases hvalue with rfl | hvalue
    · rfl
    · simp [flattened, asRequired, pair_infix_concat, singleton_prefix_concat, hvalue]

end Descriptor

/-- The outermost modifier of a type is the last of its chain. -/
theorem TypeRef.isList_iff (type : TypeRef) :
    type.isList = true ↔ type.modifiers.getLast? = some .list := by
  cases type <;> simp [isList, modifiers]

namespace Scope

/-- The outcome of a bare name: a lookup of what it stands for. -/
theorem outcome_describeNamed (scope : Scope) (name : String) :
    (scope.describeNamed name).outcome
      = foundOr (.unknownType (scope.registry.resolve name))
          ((scope.base? (scope.registry.resolve name)).map fun base => { base }) := by
  unfold describeNamed
  by_cases h : scope.registry.resolve name = name
  · simp only [h, ne_eq, not_true_eq_false, if_false]
    cases scope.base? name <;> rfl
  · simp only [ne_eq, h, not_false_eq_true, if_true, Run.outcome_bind, Run.outcome_tell]
    cases scope.base? (scope.registry.resolve name) <;> rfl

/-- **Flattening.** A type is described by its flattened chain of modifiers around the base
    type of its leaf; it fails as its leaf does, whatever the modifiers. -/
theorem outcome_describe (scope : Scope) (type : TypeRef) :
    (scope.describe type).outcome
      = foundOr (.unknownType (scope.registry.resolve type.leaf))
          ((scope.base? (scope.registry.resolve type.leaf)).map fun base =>
            .flattened base type.modifiers) := by
  induction type with
  | named name =>
    rw [describe, outcome_describeNamed]
    rfl
  | list inner ih =>
    rw [describe, Run.outcome_bind, ih]
    simp only [Run.outcome_pure, foundOr_bind_ok, Option.map_map, Function.comp_def, TypeRef.leaf,
      TypeRef.modifiers, Descriptor.flattened_concat_list]
  | nonNull inner ih =>
    rw [describe, Run.outcome_bind, ih]
    simp only [Run.outcome_pure, foundOr_bind_ok, Option.map_map, Function.comp_def, TypeRef.leaf,
      TypeRef.modifiers, Descriptor.flattened_concat_nonNull, TypeRef.isList_iff]

/-- What is described of a name, bare or inside modifiers: the flattened chain around the
    one base type that the name has. -/
theorem outcome_describe_eq_ok_iff (scope : Scope) (leaf : String) (ms : List Modifier)
    (d : Descriptor) :
    (scope.describe (.ofModifiers leaf ms)).outcome = .ok d
      ↔ ∃ base, scope.base? (scope.registry.resolve leaf) = some base
        ∧ d = .flattened base ms := by
  rw [outcome_describe, TypeRef.leaf_ofModifiers, TypeRef.modifiers_ofModifiers]
  cases scope.base? (scope.registry.resolve leaf) with
  | none => simp
  | some base => simp [eq_comm]

/-- A name is described inside modifiers unless it fails bare, and then both fail alike. -/
theorem outcome_describe_eq_error_iff (scope : Scope) (leaf : String) (ms : List Modifier)
    (failure : Failure) :
    (scope.describe (.ofModifiers leaf ms)).outcome = .error failure
      ↔ scope.base? (scope.registry.resolve leaf) = none
        ∧ failure = .unknownType (scope.registry.resolve leaf) := by
  rw [outcome_describe, TypeRef.leaf_ofModifiers, TypeRef.modifiers_ofModifiers]
  cases scope.base? (scope.registry.resolve leaf) with
  | none => simp [eq_comm]
  | some base => simp

/-- **What modifiers do.** Inside any chain of modifiers, the innermost first, a name fails
    as the bare name does. Otherwise it keeps the base type of the bare name; it is a list if
    the chain has a list, its list is required if a non-null stands immediately around a
    list, and its value or elements are if one stands immediately around the name or around
    another non-null. So only lists are required as lists, and in a chain without doubled
    non-nulls only the innermost modifier requires the value. -/
theorem outcome_describe_ofModifiers (scope : Scope) (leaf : String) (ms : List Modifier) :
    (∀ failure, (scope.describe (.ofModifiers leaf ms)).outcome = .error failure
        ↔ (scope.describe (.named leaf)).outcome = .error failure)
      ∧ ∀ bare, (scope.describe (.named leaf)).outcome = .ok bare →
        ∃ d, (scope.describe (.ofModifiers leaf ms)).outcome = .ok d
          ∧ d.base = bare.base
          ∧ (d.isList = true ↔ .list ∈ ms)
          ∧ (d.listRequired = true ↔ [.list, .nonNull] <:+: ms)
          ∧ (d.required = true ↔ [.nonNull] <+: ms ∨ [.nonNull, .nonNull] <:+: ms)
          ∧ (d.listRequired = true → d.isList = true)
          ∧ (¬ [.nonNull, .nonNull] <:+: ms →
            (d.required = true ↔ ms.head? = some .nonNull)) := by
  have hbare : TypeRef.named leaf = .ofModifiers leaf [] := rfl
  constructor
  · intro failure
    rw [hbare, outcome_describe_eq_error_iff, outcome_describe_eq_error_iff]
  · intro bare hok
    rw [hbare, outcome_describe_eq_ok_iff] at hok
    obtain ⟨base, hbase, rfl⟩ := hok
    have hlist : (Descriptor.flattened base ms).isList = true ↔ .list ∈ ms :=
      decide_eq_true_iff
    have hlistRequired : (Descriptor.flattened base ms).listRequired = true
        ↔ [.list, .nonNull] <:+: ms := decide_eq_true_iff
    have hrequired : (Descriptor.flattened base ms).required = true
        ↔ [.nonNull] <+: ms ∨ [.nonNull, .nonNull] <:+: ms := decide_eq_true_iff
    refine ⟨_, (outcome_describe_eq_ok_iff scope leaf ms _).2 ⟨base, hbase, rfl⟩, rfl, hlist,
      hlistRequired, hrequired, ?_, ?_⟩
    · -- A list that a non-null stands around is in the chain.
      intro h
      exact hlist.2 ((hlistRequired.1 h).subset List.mem_cons_self)
    · intro hsingle
      rw [hrequired, or_iff_left hsingle]
      cases ms <;> simp [eq_comm]

/-- A chain with a doubled non-null between two lists, whose elements count as required for
    it alone, around a built-in scalar. -/
theorem outcome_describe_ofModifiers_doubled :
    (({ registry := {}, scalars := {} } : Scope).describe (.named "ID")).outcome
        = .ok (.primitive .objectId)
      ∧ ∃ d, (({ registry := {}, scalars := {} } : Scope).describe
          (.ofModifiers "ID" [.list, .nonNull, .nonNull, .list])).outcome = .ok d
        ∧ d.base = .primitive .objectId
        ∧ d.isList = true ∧ d.listRequired = true ∧ d.required = true := by
  have hbare : (({ registry := {}, scalars := {} } : Scope).describe (.named "ID")).outcome
      = .ok (.primitive .objectId) := by
    rw [describe, outcome_describeNamed]
    rfl
  obtain ⟨_, hmodified⟩ := outcome_describe_ofModifiers { registry := {}, scalars := {} } "ID"
    [.list, .nonNull, .nonNull, .list]
  obtain ⟨d, hd, hbase, hlist, hlistRequired, hrequired, _⟩ := hmodified _ hbare
  exact ⟨hbare, d, hd, hbase, hlist.2 (by decide), hlistRequired.2 (by decide),
    hrequired.2 (by decide)⟩

end Scope

end RelayCollections
