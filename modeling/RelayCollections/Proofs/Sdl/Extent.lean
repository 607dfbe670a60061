import RelayCollections.Proofs.Sdl.Layout
import RelayCollections.Proofs.Sdl.Rule

namespace RelayCollections.Sdl

/-!
# How far rules read

A rule that succeeds has read some tokens and left the others. It reads the same tokens as
the same thing whatever stands behind them, as long as the next token does not go on with
the last part that was read. So rules are described by the tokens at which they stop, and
by the brackets that they close and open.

* `Leads` — readable tokens, with the brackets that they close and open;
* `MayFollow` — what may stand behind tokens that have been read, in place of the rest;
* `Rule.Settles` — a rule reads the same tokens in front of everything that may follow;
* `Rule.Settles.bind`, `Rule.Settles.many`, … — how this passes through the ways of making
  rules.
-/

variable {α β : Type}

/-! ### Brackets -/

/-- The tokens are readable and lead from `i` open brackets to `o`, whatever brackets are
    open around them. -/
structure Leads (i o : Nat) (ts : List Token) : Prop where
  readable : .unreadable ∉ ts
  openAfter : ∀ n, openAfter (n + i) ts = n + o

theorem openAfter_append (n : Nat) (ts us : List Token) :
    openAfter n (ts ++ us) = openAfter (openAfter n ts) us :=
  List.foldl_append

namespace Leads

variable {i m o : Nat} {ts us : List Token}

theorem nil (i : Nat) : Leads i i [] := ⟨List.not_mem_nil, fun _ => rfl⟩

/-- What is no mark is no bracket. -/
theorem single {t : Token} (hmark : ∀ m, t ≠ .mark m) (hreadable : t ≠ .unreadable) (i : Nat) :
    Leads i i [t] := by
  refine ⟨fun h => hreadable (List.mem_singleton.1 h).symm, fun n => ?_⟩
  cases t with
  | mark m => exact absurd rfl (hmark m)
  | name | number | quoted | block | unreadable => rfl

theorem name (text : String) (i : Nat) : Leads i i [.name text] :=
  single (t := .name text) nofun nofun i

theorem mark {m : Mark} (hm : ∀ n, (Token.mark m).openAfter (n + i) = n + o) :
    Leads i o [.mark m] :=
  ⟨by simp, hm⟩

theorem append (hts : Leads i m ts) (hus : Leads m o us) : Leads i o (ts ++ us) := by
  refine ⟨fun h => ?_, fun n => ?_⟩
  · rcases List.mem_append.1 h with h | h
    · exact hts.readable h
    · exact hus.readable h
  · rw [openAfter_append, hts.openAfter, hus.openAfter]

/-- What leads from one number of brackets to another does so inside one more. -/
theorem inside (h : Leads i o ts) : Leads (i + 1) (o + 1) ts := by
  refine ⟨h.readable, fun n => ?_⟩
  have hopen := h.openAfter (n + 1)
  rwa [Nat.add_right_comm, Nat.add_right_comm n 1 o] at hopen

end Leads

/-! ### What may follow -/

/-- Behind tokens that have been read there may be nothing, a token at which reading stops,
    or the same token as in what is left of them. -/
def MayFollow (stops : Token → Bool) (rest more : List Token) : Prop :=
  ∀ t ∈ more.head?, t ∈ rest.head? ∨ stops t = true

namespace MayFollow

variable {stops stops' : Token → Bool} {rest more used : List Token}

theorem nil (stops : Token → Bool) (rest : List Token) : MayFollow stops rest [] :=
  fun t ht => absurd ht (Option.not_mem_none t)

theorem mono (hstops : ∀ t, stops t = true → stops' t = true) (h : MayFollow stops rest more) :
    MayFollow stops' rest more :=
  fun t ht => (h t ht).imp_right (hstops t)

/-- A token at which reading stops may come next. -/
theorem of_stops {t : Token} (ht : t ∈ more.head?) (hstops : stops t = true) :
    MayFollow stops rest more := by
  intro u hu
  obtain rfl := Option.mem_unique ht hu
  exact Or.inr hstops

/-- Where something has been read, what stands behind it does not matter before it. -/
theorem append_of_ne_nil (hused : used ≠ []) (stops : Token → Bool) (rest more : List Token) :
    MayFollow stops (used ++ rest) (used ++ more) := by
  obtain ⟨t, used, rfl⟩ := List.exists_cons_of_ne_nil hused
  exact fun t ht => Or.inl ht

/-- What has a first token may have anything behind it. -/
theorem append_right (hrest : rest ≠ []) (stops : Token → Bool) (more : List Token) :
    MayFollow stops rest (rest ++ more) := by
  have h := append_of_ne_nil hrest stops [] more
  rwa [List.append_nil] at h

/-- What may follow something may follow what stands before it. -/
theorem append (h : MayFollow stops rest more) : MayFollow stops (used ++ rest) (used ++ more) := by
  cases used with
  | nil => exact h
  | cons t used => exact append_of_ne_nil (List.cons_ne_nil t used) stops rest more

/-- A part that is absent stays absent if nothing starts it at which reading stops. -/
theorem nextIsNot {starts : Token → Bool} (h : MayFollow stops rest more)
    (hstops : ∀ t, stops t = true → starts t = false) (hrest : NextIsNot starts rest) :
    NextIsNot starts more :=
  fun t ht => (h t ht).elim (hrest t) (hstops t)

end MayFollow

/-! ### Rules that settle -/

namespace Rule

/-- Every token may follow. -/
def anywhere : Token → Bool := fun _ => true

/-- Only the token may follow that did follow. -/
def nowhere : Token → Bool := fun _ => false

/-- What the rule reads is settled once it stops: it leads from `i` brackets to `o`, and is
    read in the same way in front of everything that may follow. -/
def Settles (stops : Token → Bool) (i o : Nat) (r : Rule α) : Prop :=
  ∀ ⦃ts : List Token⦄ ⦃a : α⦄ ⦃rest : List Token⦄, r ts = .ok (a, rest) →
    ∃ used, ts = used ++ rest ∧ Leads i o used ∧
      ∀ more, MayFollow stops rest more → r (used ++ more) = .ok (a, more)

/-- The rule does not succeed without a token. -/
def NeedsToken (r : Rule α) : Prop :=
  ∃ left, r [] = .error left

variable {stops : Token → Bool} {i m o : Nat} {r : Rule α}

/-- A rule that needs a token reads one. -/
theorem NeedsToken.ne_nil (hr : r.NeedsToken) {a : α} {rest used : List Token}
    (h : ∀ more, MayFollow stops rest more → r (used ++ more) = .ok (a, more)) :
    used ≠ [] := by
  rintro rfl
  obtain ⟨left, hleft⟩ := hr
  have hnil : r [] = .ok (a, []) := h [] (MayFollow.nil stops rest)
  rw [hleft] at hnil
  contradiction

namespace Settles

theorem mono {stops' : Token → Bool} (hr : r.Settles stops' i o)
    (hstops : ∀ t, stops t = true → stops' t = true) : r.Settles stops i o := by
  intro ts a rest h
  obtain ⟨used, hts, hleads, hread⟩ := hr h
  exact ⟨used, hts, hleads, fun more hmore => hread more (hmore.mono hstops)⟩

/-- A rule that settles anywhere settles where it has to stop. -/
theorem stopping (hr : r.Settles anywhere i o) : r.Settles stops i o :=
  hr.mono fun _ _ => rfl

/-- A rule that has to stop settles if nothing but the same may follow. -/
theorem staying (hr : r.Settles stops i o) : r.Settles nowhere i o :=
  hr.mono fun _ h => absurd h Bool.false_ne_true

theorem inside (hr : r.Settles stops i o) : r.Settles stops (i + 1) (o + 1) := by
  intro ts a rest h
  obtain ⟨used, hts, hleads, hread⟩ := hr h
  exact ⟨used, hts, hleads.inside, hread⟩

/-- A rule that settles leaves a tail. -/
theorem keeps {inv : List Token → Prop} (hinv : TailClosed inv) (hr : r.Settles stops i o) :
    r.Keeps inv := by
  refine keeps_of_suffix hinv fun ts a rest h => ?_
  obtain ⟨used, rfl, _⟩ := hr h
  exact List.suffix_append used rest

theorem pure (a : α) : (Pure.pure a : Rule α).Settles stops i i := by
  intro ts a' rest h
  rw [pure_apply, Except.ok.injEq, Prod.mk.injEq] at h
  obtain ⟨rfl, rfl⟩ := h
  exact ⟨[], rfl, Leads.nil i, fun more _ => rfl⟩

/-- Two rules in a row settle if the first does wherever the second may start. -/
private theorem bind_of_follows {stops' : Token → Bool} {next : α → Rule β}
    (hr : r.Settles stops' i m) (hnext : ∀ a, (next a).Settles stops m o)
    (hfollows : ∀ a b used rest,
      (∀ more, MayFollow stops rest more → next a (used ++ more) = .ok (b, more)) →
        ∀ more, MayFollow stops rest more → MayFollow stops' (used ++ rest) (used ++ more)) :
    (r >>= next).Settles stops i o := by
  intro ts b rest h
  obtain ⟨a, mid, ha, hb⟩ := bind_eq_ok h
  obtain ⟨front, rfl, hfront, hreadFront⟩ := hr ha
  obtain ⟨used, rfl, hused, hreadUsed⟩ := hnext a hb
  refine ⟨front ++ used, (List.append_assoc ..).symm, hfront.append hused, fun more hmore => ?_⟩
  have hmid := hfollows a b used rest hreadUsed more hmore
  rw [List.append_assoc, bind_of_ok (hreadFront _ hmid)]
  exact hreadUsed more hmore

/-- Two rules in a row settle where both do. -/
theorem bind {next : α → Rule β} (hr : r.Settles stops i m)
    (hnext : ∀ a, (next a).Settles stops m o) : (r >>= next).Settles stops i o :=
  bind_of_follows hr hnext fun _ _ _ _ _ _ hmore => hmore.append

/-- Where the second of two rules needs a token, the first may stop before no other. -/
theorem bind_of_needsToken {next : α → Rule β} (hr : r.Settles nowhere i m)
    (hneeds : ∀ a, (next a).NeedsToken) (hnext : ∀ a, (next a).Settles stops m o) :
    (r >>= next).Settles stops i o :=
  bind_of_follows hr hnext fun a _ _ rest hread more _ =>
    MayFollow.append_of_ne_nil ((hneeds a).ne_nil hread) nowhere rest more

/-- A part that may be absent settles where it does and what follows does not start it. -/
theorem whenNext {starts : Token → Bool} {absent : α} (hr : r.Settles stops i i)
    (hneeds : r.NeedsToken) (hstops : ∀ t, stops t = true → starts t = false) :
    (whenNext starts r absent).Settles stops i i := by
  intro ts a rest h
  by_cases hstarts : NextIsNot starts ts
  · rw [whenNext_of_nextIsNot hstarts, Except.ok.injEq, Prod.mk.injEq] at h
    obtain ⟨rfl, rfl⟩ := h
    exact ⟨[], rfl, Leads.nil i, fun more hmore =>
      whenNext_of_nextIsNot (hmore.nextIsNot hstops hstarts) r absent⟩
  · obtain ⟨t, tail, rfl, ht⟩ := exists_of_not_nextIsNot hstarts
    rw [whenNext_of_starts ht] at h
    obtain ⟨used, hts, hleads, hread⟩ := hr h
    obtain ⟨u, used, rfl⟩ := List.exists_cons_of_ne_nil (hneeds.ne_nil hread)
    obtain rfl := (List.cons.inj hts).1
    refine ⟨t :: used, hts, hleads, fun more hmore => ?_⟩
    rw [List.cons_append, whenNext_of_starts ht]
    exact hread more hmore

/-- A repeated part settles where one does and what follows does not start another. -/
theorem many {starts : Token → Bool} (hr : r.Settles stops i i) (hneeds : r.NeedsToken)
    (hstops : ∀ t, stops t = true → starts t = false) :
    Settles stops i i (many starts r) := by
  intro ts as rest h
  -- On the number of tokens: the part is read again further on.
  induction hn : ts.length using Nat.strongRecOn generalizing ts as with
  | ind n ih =>
    rcases many_eq_ok h with ⟨hstarts, rfl, rfl⟩ | ⟨a, mid, hstarts, ha, hagain⟩
    · exact ⟨[], rfl, Leads.nil i, fun more hmore =>
        many_of_nextIsNot (hmore.nextIsNot hstops hstarts) r⟩
    · obtain ⟨t, tail, rfl, ht⟩ := exists_of_not_nextIsNot hstarts
      obtain ⟨front, hts, hfront, hreadFront⟩ := hr ha
      obtain ⟨u, front, rfl⟩ := List.exists_cons_of_ne_nil (hneeds.ne_nil hreadFront)
      obtain ⟨rfl, rfl⟩ := List.cons.inj hts
      have hlen : mid.length ≤ (front ++ mid).length := (List.suffix_append front mid).length_le
      rcases hagain with ⟨hstuck, _⟩ | ⟨as', hless, hmany, rfl⟩
      · exact absurd hlen (Nat.not_le_of_lt hstuck)
      · obtain ⟨used, rfl, hused, hreadUsed⟩ := ih mid.length (hn ▸ hless) hmany rfl
        refine ⟨t :: front ++ used, (List.append_assoc (t :: front) used rest).symm,
          hfront.append hused, fun more hmore => ?_⟩
        rw [List.append_assoc]
        refine many_of_ok ht (hreadFront _ hmore.append) ?_ (hreadUsed more hmore)
        exact (List.suffix_append front (used ++ more)).length_le

theorem oneOrMore {starts : Token → Bool} (hr : r.Settles stops i i) (hneeds : r.NeedsToken)
    (hstops : ∀ t, stops t = true → starts t = false) :
    (oneOrMore starts r).Settles stops i i := by
  refine hr.bind fun a => ?_
  refine (hr.many hneeds hstops).bind fun as => ?_
  exact pure (a :: as)

/-! ### Single tokens -/

/-- A rule that reads one token, whatever stands behind it. -/
theorem of_token (hr : ∀ ts a rest, r ts = .ok (a, rest) →
      ∃ t, ts = t :: rest ∧ Leads i o [t] ∧ ∀ more, r (t :: more) = .ok (a, more)) :
    r.Settles stops i o := by
  intro ts a rest h
  obtain ⟨t, rfl, hleads, hread⟩ := hr ts a rest h
  exact ⟨[t], rfl, hleads, fun more _ => hread more⟩

theorem mark {m : Mark} (hm : ∀ n, (Token.mark m).openAfter (n + i) = n + o) :
    (mark m).Settles stops i o :=
  of_token fun _ _ _ h => ⟨_, mark_eq_ok h, Leads.mark hm, mark_self m⟩

theorem name : name.Settles stops i i :=
  of_token fun _ text _ h => ⟨_, name_eq_ok h, Leads.name text i, name_cons text⟩

theorem word (w : String) : (word w).Settles stops i i :=
  of_token fun _ _ _ h => ⟨_, word_eq_ok h, Leads.name w i, word_self w⟩

end Settles

end Rule

end RelayCollections.Sdl
