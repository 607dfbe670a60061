import RelayCollections.Sdl.Rule

namespace RelayCollections.Sdl

/-!
# Invariants of the tokens that rules leave

A rule leaves a tail of the tokens it is given. So what passes from tokens to their tails
holds wherever a rule of the grammar starts, and what a rule returns can be described by
what holds there.

* `NextIsNot` — the next token does not start a part, so the part is absent;
* `TailClosed` — a property of tokens that passes to their tails;
* `Rule.Ensures` — a rule keeps an invariant and returns something with a property;
* `Rule.Ensures.bind`, `Rule.Ensures.many`, … — how this passes through the ways of making
  rules.
-/

/-! ### Absent parts -/

/-- The next token does not start a part. -/
def NextIsNot (starts : Token → Bool) (ts : List Token) : Prop :=
  ∀ t ∈ ts.head?, starts t = false

/-- Otherwise there is a next token, which starts one. -/
theorem exists_of_not_nextIsNot {starts : Token → Bool} {ts : List Token}
    (h : ¬ NextIsNot starts ts) : ∃ t tail, ts = t :: tail ∧ starts t = true := by
  cases ts with
  | nil => exact absurd (fun t ht => absurd ht (Option.not_mem_none t)) h
  | cons t tail =>
    refine ⟨t, tail, rfl, Bool.of_not_eq_false fun ht => h ?_⟩
    rintro _ ⟨⟩
    exact ht

/-- Where a given name does come next, the tokens start with it. -/
theorem exists_of_not_nextIsNot_isWord {w : String} {ts : List Token}
    (h : ¬ NextIsNot (Token.isWord w) ts) : ∃ tail, ts = .name w :: tail := by
  obtain ⟨t, tail, rfl, ht⟩ := exists_of_not_nextIsNot h
  obtain rfl : t = .name w := beq_iff_eq.1 ht
  exact ⟨tail, rfl⟩

namespace Rule

/-- A part that the next token does not start is absent. -/
theorem whenNext_of_nextIsNot {starts : Token → Bool} {ts : List Token}
    (h : NextIsNot starts ts) (r : Rule α) (absent : α) :
    whenNext starts r absent ts = .ok (absent, ts) := by
  cases ts with
  | nil => rfl
  | cons t ts => exact whenNext_of_not_starts (h t rfl) r absent ts

/-- A part that the next token does not start is not repeated. -/
theorem many_of_nextIsNot {starts : Token → Bool} {ts : List Token} (h : NextIsNot starts ts)
    (r : Rule α) : many starts r ts = .ok ([], ts) := by
  cases ts with
  | nil => exact many_nil starts r
  | cons t ts => exact many_of_not_starts (h t rfl) r ts

end Rule

/-! ### Invariants -/

/-- The property passes from tokens to their tails. -/
def TailClosed (inv : List Token → Prop) : Prop :=
  ∀ ⦃t : Token⦄ ⦃ts : List Token⦄, inv (t :: ts) → inv ts

/-- What passes to tails passes to everything that tokens end with. -/
theorem TailClosed.suffix {inv : List Token → Prop} (hinv : TailClosed inv)
    {ts rest : List Token} (hrest : rest <:+ ts) (h : inv ts) : inv rest := by
  induction ts with
  | nil => rwa [List.suffix_nil.1 hrest]
  | cons t ts ih =>
    rcases List.suffix_cons_iff.1 hrest with rfl | hrest
    · exact h
    · exact ih hrest (hinv h)

namespace Rule

/-- Where the invariant holds, a rule that succeeds leaves tokens with the invariant and
    returns something with the property. -/
def Ensures (inv : List Token → Prop) (r : Rule α) (post : α → Prop) : Prop :=
  ∀ ⦃ts : List Token⦄ ⦃a : α⦄ ⦃rest : List Token⦄,
    inv ts → r ts = .ok (a, rest) → inv rest ∧ post a

/-- Where the invariant holds, it still holds when the rule has succeeded. -/
def Keeps (inv : List Token → Prop) (r : Rule α) : Prop :=
  r.Ensures inv fun _ => True

/-- Two rules in a row succeed if the first does and the second does on what is left. -/
theorem bind_eq_ok {r : Rule α} {next : α → Rule β} {ts rest : List Token} {b : β}
    (h : (r >>= next) ts = .ok (b, rest)) :
    ∃ a mid, r ts = .ok (a, mid) ∧ next a mid = .ok (b, rest) := by
  cases hr : r ts with
  | error left =>
    rw [bind_of_error hr] at h
    contradiction
  | ok read =>
    obtain ⟨a, mid⟩ := read
    rw [bind_of_ok hr] at h
    exact ⟨a, mid, rfl, h⟩

theorem bind_assoc (r : Rule α) (next : α → Rule β) (last : β → Rule γ) :
    ((r >>= next) >>= last) = (r >>= fun a => next a >>= last) := by
  funext ts
  show andThen (andThen r next) last ts = andThen r (fun a => andThen (next a) last) ts
  unfold andThen
  cases r ts <;> rfl

theorem mark_eq_ok {m : Mark} {ts rest : List Token} {a : Unit}
    (h : mark m ts = .ok (a, rest)) : ts = .mark m :: rest := by
  unfold mark at h
  split at h
  · split at h
    case isTrue heq =>
      obtain ⟨_, rfl⟩ := Prod.mk.inj (Except.ok.inj h)
      rw [heq]
    case isFalse => contradiction
  · contradiction

theorem name_eq_ok {ts rest : List Token} {text : String} (h : name ts = .ok (text, rest)) :
    ts = .name text :: rest := by
  unfold name at h
  split at h
  · obtain ⟨rfl, rfl⟩ := Prod.mk.inj (Except.ok.inj h)
    rfl
  · contradiction

theorem word_eq_ok {w : String} {ts rest : List Token} {a : Unit}
    (h : word w ts = .ok (a, rest)) : ts = .name w :: rest := by
  unfold word at h
  split at h
  · split at h
    case isTrue heq =>
      obtain ⟨_, rfl⟩ := Prod.mk.inj (Except.ok.inj h)
      rw [heq]
    case isFalse => contradiction
  · contradiction

/-! ### How rules are made -/

section

variable {inv : List Token → Prop} {post : α → Prop}

/-- A rule that reads nothing ensures what is so of its result. -/
theorem Ensures.pure {a : α} (ha : post a) : Ensures inv (pure a) post := by
  intro ts a' rest hts h
  rw [pure_apply, Except.ok.injEq, Prod.mk.injEq] at h
  obtain ⟨rfl, rfl⟩ := h
  exact ⟨hts, ha⟩

/-- Of two rules in a row, the second may rely on what the first ensures. -/
theorem Ensures.bind {r : Rule α} {next : α → Rule β} {post' : β → Prop}
    (hr : r.Ensures inv post) (hnext : ∀ a, post a → (next a).Ensures inv post') :
    (r >>= next).Ensures inv post' := by
  intro ts b rest hts h
  obtain ⟨a, mid, ha, hb⟩ := bind_eq_ok h
  obtain ⟨hmid, hpost⟩ := hr hts ha
  exact hnext a hpost hmid hb

/-- Of two rules in a row, the second may rely on the invariant. -/
theorem Keeps.bind {r : Rule α} {next : α → Rule β} {post' : β → Prop} (hr : r.Keeps inv)
    (hnext : ∀ a, (next a).Ensures inv post') : (r >>= next).Ensures inv post' :=
  Ensures.bind hr fun a _ => hnext a

/-- A rule ensures what follows from what it ensures. -/
theorem Ensures.mono {r : Rule α} {post' : α → Prop} (hr : r.Ensures inv post)
    (hpost : ∀ a, post a → post' a) : r.Ensures inv post' := by
  intro ts a rest hts h
  obtain ⟨hrest, ha⟩ := hr hts h
  exact ⟨hrest, hpost a ha⟩

/-- A rule that ensures something keeps the invariant. -/
theorem Ensures.keeps {r : Rule α} (hr : r.Ensures inv post) : r.Keeps inv :=
  hr.mono fun _ _ => trivial

/-- A rule that leaves a tail keeps what passes to tails. -/
theorem keeps_of_suffix (hinv : TailClosed inv) {r : Rule α}
    (hr : ∀ ts a rest, r ts = .ok (a, rest) → rest <:+ ts) : r.Keeps inv := by
  intro ts a rest hts h
  exact ⟨hinv.suffix (hr ts a rest h) hts, trivial⟩

/-- A part that may be absent ensures what is so of it and of its absence. -/
theorem Ensures.whenNext {starts : Token → Bool} {r : Rule α} {absent : α}
    (hr : r.Ensures inv post) (habsent : post absent) :
    (whenNext starts r absent).Ensures inv post := by
  intro ts a rest hts h
  cases ts with
  | nil =>
    rw [Rule.whenNext, Except.ok.injEq, Prod.mk.injEq] at h
    obtain ⟨rfl, rfl⟩ := h
    exact ⟨hts, habsent⟩
  | cons t ts =>
    rw [Rule.whenNext] at h
    split at h
    · exact hr hts h
    · rw [Except.ok.injEq, Prod.mk.injEq] at h
      obtain ⟨rfl, rfl⟩ := h
      exact ⟨hts, habsent⟩

/-- What a repeated part has read: nothing where the next token does not start it, and
    otherwise once, or once and then again from a place further on. -/
theorem many_eq_ok {starts : Token → Bool} {r : Rule α} {ts rest : List Token} {as : List α}
    (h : many starts r ts = .ok (as, rest)) :
    (NextIsNot starts ts ∧ as = [] ∧ rest = ts) ∨
      ∃ a mid, ¬ NextIsNot starts ts ∧ r ts = .ok (a, mid) ∧
        ((ts.length ≤ mid.length ∧ as = [a] ∧ rest = mid) ∨
          ∃ as', mid.length < ts.length ∧ many starts r mid = .ok (as', rest) ∧ as = a :: as') := by
  by_cases hstarts : NextIsNot starts ts
  · rw [many_of_nextIsNot hstarts, Except.ok.injEq, Prod.mk.injEq] at h
    exact Or.inl ⟨hstarts, h.1.symm, h.2.symm⟩
  · obtain ⟨t, tail, rfl, ht⟩ := exists_of_not_nextIsNot hstarts
    rw [Rule.many, if_pos ht] at h
    split at h
    case h_1 => contradiction
    case h_2 a mid ha =>
      refine Or.inr ⟨a, mid, hstarts, ha, ?_⟩
      split at h
      case isFalse hlen =>
        rw [Except.ok.injEq, Prod.mk.injEq] at h
        exact Or.inl ⟨Nat.lt_of_not_le hlen, h.1.symm, h.2.symm⟩
      case isTrue hlen =>
        split at h
        case h_1 => contradiction
        case h_2 as' left hmany =>
          rw [Except.ok.injEq, Prod.mk.injEq] at h
          obtain ⟨rfl, rfl⟩ := h
          exact Or.inr ⟨as', Nat.lt_succ_of_le hlen, hmany, rfl⟩

/-- A repeated part ensures of each of its results what it ensures of one. -/
theorem Ensures.many {starts : Token → Bool} {r : Rule α} (hr : r.Ensures inv post) :
    Ensures inv (many starts r) fun as => ∀ a ∈ as, post a := by
  intro ts as rest hts h
  -- On the number of tokens: the part is read again further on.
  induction hn : ts.length using Nat.strongRecOn generalizing ts as with
  | ind n ih =>
    rcases many_eq_ok h with ⟨_, rfl, rfl⟩ | ⟨a, mid, _, ha, hagain⟩
    · exact ⟨hts, List.forall_mem_nil _⟩
    · obtain ⟨hmid, hpost⟩ := hr hts ha
      rcases hagain with ⟨_, rfl, rfl⟩ | ⟨as', hlen, hmany, rfl⟩
      · exact ⟨hmid, List.forall_mem_singleton.2 hpost⟩
      · obtain ⟨hrest, has⟩ := ih mid.length (hn ▸ hlen) hmid hmany rfl
        exact ⟨hrest, List.forall_mem_cons.2 ⟨hpost, has⟩⟩

/-- A part that comes at least once ensures of each result what it ensures of one. -/
theorem Ensures.oneOrMore {starts : Token → Bool} {r : Rule α} (hr : r.Ensures inv post) :
    (oneOrMore starts r).Ensures inv fun as => ∀ a ∈ as, post a := by
  refine hr.bind fun a ha => ?_
  refine hr.many.bind fun as has => ?_
  exact Ensures.pure (List.forall_mem_cons.2 ⟨ha, has⟩)

/-! ### Single tokens -/

variable (hinv : TailClosed inv)

include hinv

/-- Reading one token leaves a tail. -/
private theorem Keeps.of_tail {r : Rule α}
    (hr : ∀ ts a rest, r ts = .ok (a, rest) → ∃ t, ts = t :: rest) : r.Keeps inv := by
  intro ts a rest hts h
  obtain ⟨t, rfl⟩ := hr ts a rest h
  exact ⟨hinv hts, trivial⟩

theorem Keeps.mark (m : Mark) : (mark m).Keeps inv :=
  Keeps.of_tail hinv fun _ _ _ h => ⟨_, mark_eq_ok h⟩

theorem Keeps.name : name.Keeps inv :=
  Keeps.of_tail hinv fun _ _ _ h => ⟨_, name_eq_ok h⟩

theorem Keeps.word (w : String) : (word w).Keeps inv :=
  Keeps.of_tail hinv fun _ _ _ h => ⟨_, word_eq_ok h⟩

end

end Rule

end RelayCollections.Sdl
