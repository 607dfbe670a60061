namespace RelayCollections

/-!
# Naming conventions

Connection and edge types are recognised by the end of their name alone, and node
types by an interface of a fixed name.

* `hasBaseBefore suffix name` — something stands before `suffix` at the end of `name`;
* `baseBefore? suffix name` — what that is, and `connectionBase?` as the one use of it;
* `nodeInterface` — the interface that makes an object type a node.
-/

/-- The interface whose implementers are nodes. -/
def nodeInterface : String := "Node"

/-- `name` ends in `suffix` and is more than `suffix`. -/
def hasBaseBefore (suffix name : String) : Bool :=
  suffix.toList.isSuffixOf name.toList && decide (suffix.toList.length < name.toList.length)

/-- A name passes the test exactly if it is a non-empty base followed by the suffix. -/
theorem hasBaseBefore_iff {suffix name : String} :
    hasBaseBefore suffix name = true ↔ ∃ base, base ≠ "" ∧ name = base ++ suffix := by
  rw [hasBaseBefore, Bool.and_eq_true, List.isSuffixOf_iff_suffix, decide_eq_true_eq]
  constructor
  · rintro ⟨⟨base, happ⟩, hlength⟩
    refine ⟨String.ofList base, ?_, String.toList_injective (by simp [happ])⟩
    intro he
    have hnil : base = [] := by simpa using congrArg String.toList he
    rw [← happ, hnil] at hlength
    exact absurd hlength (Nat.lt_irrefl _)
  · rintro ⟨base, hne, rfl⟩
    have hpos : 0 < base.toList.length := by
      rw [List.length_pos_iff]
      exact fun he => hne (String.toList_injective (by simpa using he))
    rw [String.toList_append, List.length_append]
    exact ⟨List.suffix_append _ _, by omega⟩

/-- The part of `name` before a final `suffix`; none if `name` does not end in
    `suffix` or is nothing but `suffix`. -/
def baseBefore? (suffix name : String) : Option String :=
  let base := name.toList.take (name.toList.length - suffix.toList.length)
  if base ≠ [] ∧ base ++ suffix.toList = name.toList then some (String.ofList base) else none

/-- A base is found exactly when the name is a non-empty base followed by the suffix. -/
theorem baseBefore?_eq_some_iff {suffix name base : String} :
    baseBefore? suffix name = some base ↔ base ≠ "" ∧ name = base ++ suffix := by
  unfold baseBefore?
  constructor
  · intro h
    simp only at h
    split at h
    · rename_i hb
      obtain ⟨hne, happ⟩ := hb
      injection h with h
      subst h
      constructor
      · intro he
        apply hne
        simpa using congrArg String.toList he
      · apply String.toList_injective
        simp [happ]
    · simp at h
  · rintro ⟨hne, rfl⟩
    have hb : base.toList ≠ [] := fun he => hne (String.toList_injective (by simpa using he))
    simp [hb]

/-- `UserConnection` is a connection of `User`; the bare name `Connection` is none. -/
def connectionBase? : String → Option String := baseBefore? "Connection"

/-- The name a field's type is looked up under: a connection stands for what it
    connects. One suffix is removed and no more. -/
def substituteConnection (name : String) : String :=
  (connectionBase? name).getD name

end RelayCollections
