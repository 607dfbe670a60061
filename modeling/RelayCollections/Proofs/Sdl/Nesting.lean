import RelayCollections.Proofs.Sdl.Grammar
import RelayCollections.Proofs.Sdl.Layout

namespace RelayCollections.Sdl

/-!
# How deep types of a schema text are

The reader of schema texts bounds how many brackets may be open at once. A list type has
its opening brackets in a row, so the bound on brackets is a bound on list modifiers; and
between two of them there is at most one mark for non-null.

* `BracketsAtMost` — no more than so many square brackets open in a row;
* `bracketsAtMost_tokens` — the tokens of every text have at most `bracketLimit` in a row;
* `ensures_typeRef` — a type has no more modifiers than its brackets allow;
* `modifiers_of_declarationsOfText` — so types of declared fields have boundedly many.
-/

/-! ### Brackets in a row -/

/-- At most `n` opening square brackets stand in a row anywhere. -/
def BracketsAtMost (n : Nat) (ts : List Token) : Prop :=
  ∀ k, List.replicate k (.mark .openBracket) <:+: ts → k ≤ n

theorem bracketsAtMost_tailClosed (n : Nat) : TailClosed (BracketsAtMost n) := by
  intro t ts h k hk
  exact h k (hk.trans (List.suffix_cons t ts).isInfix)

/-- As many brackets as may still be opened stand in front of what nesting leaves. -/
theorem replicate_prefix_limitNesting {k n : Nat} {ts : List Token}
    (h : List.replicate k (.mark .openBracket) <+: limitNesting n ts) :
    k ≤ bracketLimit - n := by
  induction ts generalizing k n with
  | nil =>
    rw [limitNesting, List.prefix_nil, List.replicate_eq_nil_iff] at h
    omega
  | cons t ts ih =>
    cases k with
    | zero => exact Nat.zero_le _
    | succ k =>
      rw [List.replicate_succ, limitNesting] at h
      split at h
      case isTrue hopens =>
        split at h
        case isTrue hlt =>
          -- One more bracket is open behind it.
          have hk := ih (List.cons_prefix_cons.1 h).2
          omega
        case isFalse =>
          have hunreadable := (List.cons_prefix_cons.1 h).1
          contradiction
      case isFalse hopens =>
        -- What comes first is no opening bracket, whether or not it closes one.
        have hfirst : t = .mark .openBracket := by
          split at h
          · exact (List.cons_prefix_cons.1 h).1.symm
          · exact (List.cons_prefix_cons.1 h).1.symm
        rw [hfirst] at hopens
        exact absurd rfl hopens

/-- No more brackets than may be open stand in a row anywhere in what nesting leaves. -/
theorem bracketsAtMost_limitNesting (n : Nat) (ts : List Token) :
    BracketsAtMost bracketLimit (limitNesting n ts) := by
  induction ts generalizing n with
  | nil =>
    intro k hk
    rw [limitNesting, List.infix_nil, List.replicate_eq_nil_iff] at hk
    omega
  | cons t ts ih =>
    -- A run starts at the first token or lies behind it.
    have hcons : ∀ m, BracketsAtMost bracketLimit (limitNesting m ts) →
        limitNesting n (t :: ts) = t :: limitNesting m ts →
        BracketsAtMost bracketLimit (limitNesting n (t :: ts)) := by
      intro m hm heq k hk
      rw [heq] at hk
      rcases List.infix_cons_iff.1 hk with hk | hk
      · rw [← heq] at hk
        have := replicate_prefix_limitNesting hk
        omega
      · exact hm k hk
    by_cases hfull : t.opens = true ∧ ¬ n < bracketLimit
    · -- A bracket that is one too many ends the tokens.
      rw [limitNesting_of_limit hfull.1 hfull.2]
      intro k hk
      have hlen := hk.length_le
      rw [List.length_replicate, List.length_singleton] at hlen
      exact Nat.le_trans hlen (by decide)
    · have hroom : t.opens = true → n < bracketLimit := fun hopens =>
        Decidable.by_contra fun hlimit => hfull ⟨hopens, hlimit⟩
      exact hcons _ (ih _) (limitNesting_cons hroom ts)

/-- The tokens of a text open at most `bracketLimit` square brackets in a row. -/
theorem bracketsAtMost_tokens (text : String) : BracketsAtMost bracketLimit (tokens text) :=
  bracketsAtMost_limitNesting 0 _

/-! ### Types -/

/-- How many lists a type is made of. -/
def listCount (type : TypeRef) : Nat :=
  type.modifiers.count .list

/-- The mark after a type adds no list and at most one modifier. -/
theorem withBang_ok {base type : TypeRef} {ts rest : List Token}
    (h : withBang base ts = (type, rest)) :
    listCount type = listCount base ∧ type.modifiers.length ≤ base.modifiers.length + 1 := by
  unfold withBang at h
  split at h
  case h_1 =>
    obtain ⟨rfl, -⟩ := Prod.mk.inj h
    refine ⟨?_, ?_⟩
    · rw [listCount, TypeRef.modifiers, List.count_append]
      rfl
    · rw [TypeRef.modifiers, List.length_append]
      exact Nat.le_refl _
  case h_2 =>
    obtain ⟨rfl, -⟩ := Prod.mk.inj h
    exact ⟨rfl, Nat.le_succ _⟩

/-- The brackets of a type's lists stand in a row in front of its tokens, and around each of
    its lists and its name there is at most one modifier more. -/
theorem typeRef_ok {ts rest : List Token} {type : TypeRef} (h : typeRef ts = .ok (type, rest)) :
    List.replicate (listCount type) (.mark .openBracket) <+: ts
      ∧ type.modifiers.length ≤ 2 * listCount type + 1 := by
  fun_induction typeRef ts generalizing type rest
  case case1 text ts =>
    obtain ⟨hlists, hlen⟩ := withBang_ok (Except.ok.inj h)
    have hnone : listCount (.named text) = 0 := rfl
    rw [hlists, hnone]
    exact ⟨List.nil_prefix, hlen⟩
  case case3 ts inner left hinner ih =>
    obtain ⟨hlists, hlen⟩ := withBang_ok (Except.ok.inj h)
    obtain ⟨hopen, hmodifiers⟩ := ih hinner
    have hone : listCount inner.list = listCount inner + 1 := by
      rw [listCount, TypeRef.modifiers, List.count_append]
      rfl
    have hlist : inner.list.modifiers.length = inner.modifiers.length + 1 := by
      rw [TypeRef.modifiers, List.length_append, List.length_singleton]
    refine ⟨?_, ?_⟩
    · rw [hlists, hone, List.replicate_succ]
      exact List.cons_prefix_cons.2 ⟨rfl, hopen⟩
    · omega
  all_goals contradiction

/-- A type is read with boundedly many modifiers where brackets are bounded. -/
theorem ensures_typeRef (n : Nat) :
    typeRef.Ensures (BracketsAtMost n) fun type => type.modifiers.length ≤ 2 * n + 1 := by
  intro ts type rest hts h
  obtain ⟨hrest, _⟩ := settles_typeRef.keeps (bracketsAtMost_tailClosed n) hts h
  obtain ⟨hopen, hlen⟩ := typeRef_ok h
  have hlists : listCount type ≤ n := hts _ hopen.isInfix
  exact ⟨hrest, by omega⟩

/-! ### Declarations -/

/-- **Types of declared fields are not nested deep.** Whatever a text declares, the type of
    each field has at most two modifiers for each bracket that may be open, and one. -/
theorem modifiers_of_declarationsOfText {text : String} {ds : List Declaration}
    (h : declarationsOfText text = .ok ds) :
    ∀ d ∈ ds, d.FieldTypes fun type => type.modifiers.length ≤ 2 * bracketLimit + 1 := by
  unfold declarationsOfText at h
  split at h
  case h_1 ds' rest hread =>
    rw [Except.ok.injEq] at h
    subst h
    have htypes := ensures_declarations (bracketsAtMost_tailClosed bracketLimit)
      (ensures_typeRef bracketLimit)
    exact (htypes (bracketsAtMost_tokens text) hread).2
  case h_2 => contradiction

end RelayCollections.Sdl
