import RelayCollections.Proofs.Sdl.Lines
import RelayCollections.Proofs.Sdl.Seam

namespace RelayCollections.Sdl

/-!
# Schema texts one after another

Texts that are read can be written one after another, each from a line of its own: the
lexemes and the brackets of the first come to an end there, and so does its last definition,
if it is no directive definition without locations.

* `Declares` — tokens of definitions, one after another;
* `Declares.append`, `Declares.refuses` — other definitions behind them;
* `tokens_append_newLine` — the tokens of texts on lines of their own;
* `outcome_parseSchema_append` — texts one after another are read as the definitions of each.
-/

open Rule

/-! ### Runs of definitions -/

/-- The tokens are those of the definitions, one after another. -/
inductive Declares : List Token → List Declaration → Prop where
  | last {ts : List Token} {d : Declaration} (h : declaration ts = .ok (d, [])) :
      Declares ts [d]
  | more {ts mid : List Token} {d : Declaration} {ds : List Declaration}
      (h : declaration ts = .ok (d, mid)) (hmid : Declares mid ds) : Declares ts (d :: ds)

/-- A definition leaves fewer tokens. -/
theorem length_lt_of_declaration {ts rest : List Token} {d : Declaration}
    (h : declaration ts = .ok (d, rest)) : rest.length < ts.length := by
  obtain ⟨used, rfl, hne, _⟩ := delimits_declaration h
  have hpos := List.length_pos_iff.2 hne
  rw [List.length_append]
  omega

/-- Definitions are looked for to the end of the tokens. -/
theorem many_declaration {ts : List Token} (hne : ts ≠ []) :
    many (fun _ => true) declaration ts = declarations ts := by
  obtain ⟨t, tail, rfl⟩ := List.exists_cons_of_ne_nil hne
  cases h : declaration (t :: tail) with
  | error left =>
    rw [declarations, oneOrMore, bind_of_error h, many, if_pos rfl, h]
  | ok read =>
    obtain ⟨d, mid⟩ := read
    have hlen : mid.length ≤ tail.length := Nat.le_of_lt_succ (length_lt_of_declaration h)
    rw [declarations, oneOrMore, bind_of_ok h, many, if_pos rfl, h]
    simp only [if_pos hlen]
    cases hmany : many (fun _ => true) declaration mid with
    | error left => rw [bind_of_error hmany]
    | ok others => rw [bind_of_ok hmany]; rfl

/-- There is at least one definition, so there is a token. -/
theorem declares_ne_nil {ts : List Token} {ds : List Declaration} (h : Declares ts ds) :
    ts ≠ [] := by
  cases h with
  | last h | more h =>
    exact List.length_pos_iff.1 (Nat.zero_lt_of_lt (length_lt_of_declaration h))

/-- Tokens of definitions are read as these. -/
theorem Declares.declarations {ts : List Token} {ds : List Declaration} (h : Declares ts ds) :
    declarations ts = .ok (ds, []) := by
  induction h with
  | last h =>
    rw [Sdl.declarations, oneOrMore, bind_of_ok h, bind_of_ok (many_nil _ _)]
    rfl
  | more h hmid ih =>
    have hmany := (many_declaration (declares_ne_nil hmid)).trans ih
    rw [Sdl.declarations, oneOrMore, bind_of_ok h, bind_of_ok hmany]
    rfl

/-- What is read as definitions are tokens of these, all of them. -/
theorem declares_of_declarations {ts rest : List Token} {ds : List Declaration}
    (h : declarations ts = .ok (ds, rest)) : Declares ts ds := by
  -- On the number of tokens: other definitions come further on.
  induction hn : ts.length using Nat.strongRecOn generalizing ts ds with
  | ind n ih =>
    obtain ⟨d, mid, hd, hothers⟩ := bind_eq_ok h
    obtain ⟨others, left, hmany, hds⟩ := bind_eq_ok hothers
    obtain ⟨rfl, rfl⟩ := Prod.mk.inj (Except.ok.inj hds)
    by_cases hmid : mid = []
    · subst hmid
      rw [many_nil, Except.ok.injEq, Prod.mk.injEq] at hmany
      obtain ⟨rfl, -⟩ := hmany
      exact .last hd
    · rw [many_declaration hmid] at hmany
      exact .more hd (ih mid.length (hn ▸ length_lt_of_declaration hd) hmany rfl)

namespace Declares

variable {ts us : List Token} {ds es : List Declaration}

/-- All brackets are closed behind definitions. -/
theorem leads (h : Declares ts ds) : Leads 0 0 ts := by
  induction h with
  | last h =>
    obtain ⟨used, rfl, _, hused⟩ := delimits_declaration h
    exact hused.leads.append (Leads.nil 0)
  | more h _ ih =>
    obtain ⟨used, rfl, _, hused⟩ := delimits_declaration h
    exact hused.leads.append ih

/-- Definitions start with a description or a keyword. -/
theorem startsDefinition (h : Declares ts ds) : ∃ t ∈ ts.head?, t.startsDefinition = true := by
  cases h with
  | last h | more h => exact startsDefinition_of_declaration h

/-- How tokens end shows behind their first definition. -/
theorem endsUnplaced_more {used mid : List Token} {d : Declaration} (h : Declares mid ds) :
    EndsUnplaced (d :: ds) (used ++ mid) ↔ EndsUnplaced ds mid := by
  have hds : ds ≠ [] := by cases h <;> exact List.cons_ne_nil _ _
  rw [EndsUnplaced, EndsUnplaced, List.getLast?_append_of_ne_nil used (declares_ne_nil h),
    List.getLast?_cons_of_ne_nil hds]

/-- Definitions may follow definitions, if a description comes first where a location may
    stand. -/
theorem append (h : Declares ts ds) (hus : Declares us es)
    (hseam : EndsUnplaced ds ts → ∃ t ∈ us.head?, t.isString = true) :
    Declares (ts ++ us) (ds ++ es) := by
  induction h with
  | @last ts d h =>
    obtain ⟨used, rfl, _, hused⟩ := delimits_declaration h
    obtain ⟨t, ht, hstarts⟩ := hus.startsDefinition
    rw [List.append_nil] at hseam ⊢
    have hdescribed : EndsUnplaced [d] used → MayFollow Token.isString [] us := by
      intro hends
      obtain ⟨t, ht, hstring⟩ := hseam hends
      exact MayFollow.of_stops ht hstring
    exact .more (hused.reads us (MayFollow.of_stops ht hstarts) hdescribed) hus
  | @more ts mid d ds h hmid ih =>
    obtain ⟨used, rfl, _, hused⟩ := delimits_declaration h
    rw [endsUnplaced_more hmid] at hseam
    -- Behind the first definition, the next one stands as before.
    have hsame : ∀ stops, MayFollow stops mid (mid ++ us) := fun stops =>
      MayFollow.append_right (declares_ne_nil hmid) stops us
    rw [List.append_assoc]
    exact .more (hused.reads _ (hsame _) fun _ => hsame _) (ih hseam)

/-- Where a location may stand, a keyword is taken for one. -/
theorem refuses (h : Declares ts ds) (hus : Declares us es) (hends : EndsUnplaced ds ts)
    (hseam : ¬ ∃ t ∈ us.head?, t.isString = true) :
    ∃ left, Sdl.declarations (ts ++ us) = .error left := by
  induction h with
  | last h =>
    obtain ⟨used, rfl, _, hused⟩ := delimits_declaration h
    obtain ⟨t, tail, rfl⟩ := List.exists_cons_of_ne_nil (declares_ne_nil hus)
    obtain ⟨_, ⟨⟩, hstarts⟩ := hus.startsDefinition
    rw [List.append_nil] at hends ⊢
    have hkeyword : t.isString = false :=
      Bool.eq_false_iff.2 fun hstring => hseam ⟨t, rfl, hstring⟩
    obtain ⟨left, hleft⟩ := hused.refuses hends t tail hstarts hkeyword
    exact ⟨left, bind_of_error hleft _⟩
  | @more ts mid d ds h hmid ih =>
    obtain ⟨used, rfl, _, hused⟩ := delimits_declaration h
    obtain ⟨left, hleft⟩ := ih ((endsUnplaced_more hmid).1 hends)
    have hne := declares_ne_nil hmid
    have hsame : ∀ stops, MayFollow stops mid (mid ++ us) := fun stops =>
      MayFollow.append_right hne stops us
    have hfirst := hused.reads _ (hsame _) fun _ => hsame _
    have hothers := many_declaration (List.append_ne_nil_of_left_ne_nil hne us)
    rw [hleft] at hothers
    refine ⟨left, ?_⟩
    rw [List.append_assoc, Sdl.declarations, oneOrMore, bind_of_ok hfirst, bind_of_error hothers]

end Declares

/-! ### Texts -/

/-- Behind a text that leaves no bracket open, an end of line starts the tokens anew. -/
theorem tokens_append_newLine {a : String} (h : Leads 0 0 (tokens a)) (b : String) :
    tokens (a ++ "\n" ++ b) = tokens a ++ tokens b := by
  have hreadable : .unreadable ∉ limitNesting 0 (lexedTokens a.toList) := h.readable
  obtain ⟨hself, hbehind⟩ := limitNesting_append hreadable (lexedTokens b.toList)
  have hlexed : tokens a = lexedTokens a.toList := hself
  have hopen : openAfter 0 (lexedTokens a.toList) = 0 := hlexed ▸ h.openAfter 0
  have htext : (a ++ "\n" ++ b).toList = a.toList ++ '\n' :: b.toList := by simp
  rw [hself] at hreadable
  calc tokens (a ++ "\n" ++ b)
      = limitNesting 0 (lexedTokens (a ++ "\n" ++ b).toList) := rfl
    _ = limitNesting 0 (lexedTokens a.toList ++ lexedTokens b.toList) := by
      rw [htext, lexedTokens_append_newLine hreadable]
    _ = lexedTokens a.toList ++ limitNesting 0 (lexedTokens b.toList) := by
      rw [hbehind, hopen]
    _ = tokens a ++ tokens b := by rw [hlexed]; rfl

/-- The declarations of a text are those of its tokens. -/
theorem declarationsOfText_eq_ok_iff {text : String} {ds : List Declaration} :
    declarationsOfText text = .ok ds ↔ Declares (tokens text) ds := by
  unfold declarationsOfText
  constructor
  · intro h
    split at h
    case h_1 ds' rest hread =>
      cases h
      exact declares_of_declarations hread
    case h_2 => contradiction
  · intro h
    rw [h.declarations]

/-- The text ends with a directive definition that names no location. -/
def EndsWithUnplaced (text : String) : Prop :=
  ∃ ds, declarationsOfText text = .ok ds ∧ EndsUnplaced ds (tokens text)

/-- The text starts with a description, not with a keyword. -/
def StartsWithDescription (text : String) : Prop :=
  ∃ t ∈ (tokens text).head?, t.isString = true

/-- A text with tokens that are refused is refused. -/
theorem outcome_parseSchema_of_error {text : String} {left : Nat}
    (h : declarations (tokens text) = .error left) :
    (parseSchema text).outcome = .error (.schemaText (positionOf text left)) := by
  rw [parseSchema, declarationsOfText, h]
  rfl

theorem toDocument_append (ds es : List Declaration) :
    toDocument (ds ++ es)
      = { definitions := (toDocument ds).definitions ++ (toDocument es).definitions } := by
  rw [toDocument, List.filterMap_append]
  rfl

/-- **Schema texts one after another.** Two texts that are read are read together, with an
    end of line between them, as the definitions of both. There is one exception: where the
    first ends with a directive definition without locations, the second must start with a
    description, since its keyword would be taken for a location and refused. -/
theorem outcome_parseSchema_append {a b : String} {d d' : Document}
    (ha : (parseSchema a).outcome = .ok d) (hb : (parseSchema b).outcome = .ok d') :
    ((EndsWithUnplaced a → StartsWithDescription b) →
        (parseSchema (a ++ "\n" ++ b)).outcome
          = .ok { definitions := d.definitions ++ d'.definitions })
      ∧ (EndsWithUnplaced a → ¬ StartsWithDescription b →
        ∃ position, (parseSchema (a ++ "\n" ++ b)).outcome = .error (.schemaText position)) := by
  obtain ⟨ds, hds, rfl⟩ := outcome_parseSchema.1 ha
  obtain ⟨es, hes, rfl⟩ := outcome_parseSchema.1 hb
  have hfirst := declarationsOfText_eq_ok_iff.1 hds
  have hsecond := declarationsOfText_eq_ok_iff.1 hes
  have htokens := tokens_append_newLine hfirst.leads b
  constructor
  · intro hseam
    have hboth : Declares (tokens (a ++ "\n" ++ b)) (ds ++ es) := by
      rw [htokens]
      exact hfirst.append hsecond fun hends => hseam ⟨ds, hds, hends⟩
    exact outcome_parseSchema.2
      ⟨ds ++ es, declarationsOfText_eq_ok_iff.2 hboth, toDocument_append ds es⟩
  · rintro ⟨ds', hds', hends⟩ hkeyword
    obtain rfl : ds = ds' := Except.ok.inj (hds.symm.trans hds')
    obtain ⟨left, hleft⟩ := hfirst.refuses hsecond hends hkeyword
    rw [← htokens] at hleft
    exact ⟨_, outcome_parseSchema_of_error hleft⟩

/-- A union, an extension and a directive definition without locations, with a comment behind
    them that no end of line ends. -/
def unplacedText : String :=
  "union U = A | B extend type T @d directive @a on # on"

theorem declarationsOfText_unplacedText :
    declarationsOfText unplacedText = .ok [
      .type { kind := .union, name := "U", hasBody := true },
      .extension { kind := .object, name := "T", directives := 1 },
      .directive "a"] := by
  decide +kernel

/-- Behind such a text, a definition is read if it is described, and refused otherwise. -/
theorem outcome_parseSchema_append_unplaced :
    (parseSchema unplacedText).outcome = .ok { definitions := [.other "U"] }
      ∧ (parseSchema "\"text\" scalar S").outcome = .ok { definitions := [.scalar "S"] }
      ∧ (parseSchema "scalar S").outcome = .ok { definitions := [.scalar "S"] }
      ∧ EndsWithUnplaced unplacedText
      ∧ StartsWithDescription "\"text\" scalar S"
      ∧ ¬ StartsWithDescription "scalar S"
      ∧ (parseSchema (unplacedText ++ "\n" ++ "\"text\" scalar S")).outcome
          = .ok { definitions := [.other "U", .scalar "S"] }
      ∧ ∃ position, (parseSchema (unplacedText ++ "\n" ++ "scalar S")).outcome
          = .error (.schemaText position) := by
  have hunplaced : (parseSchema unplacedText).outcome = .ok { definitions := [.other "U"] } :=
    outcome_parseSchema.2 ⟨_, declarationsOfText_unplacedText, rfl⟩
  have hscalar : declarationsOfText "scalar S" = .ok [.type { kind := .scalar, name := "S" }] := by
    decide +kernel
  have hdescribed : declarationsOfText "\"text\" scalar S"
      = .ok [.type { kind := .scalar, name := "S" }] := by
    decide +kernel
  have hread := outcome_parseSchema.2 ⟨_, hscalar, rfl⟩
  have hreadDescribed := outcome_parseSchema.2 ⟨_, hdescribed, rfl⟩
  have hends : EndsWithUnplaced unplacedText :=
    ⟨_, declarationsOfText_unplacedText, ⟨"a", rfl⟩, by decide +kernel⟩
  have hstring : StartsWithDescription "\"text\" scalar S" :=
    ⟨.quoted ['t', 'e', 'x', 't'], by decide +kernel, rfl⟩
  have hkeyword : ¬ StartsWithDescription "scalar S" := by
    have hfirst : (tokens "scalar S").head? = some (.name "scalar") := by decide +kernel
    rintro ⟨t, ht, hstring⟩
    rw [hfirst] at ht
    cases ht
    contradiction
  exact ⟨hunplaced, hreadDescribed, hread, hends, hstring, hkeyword,
    (outcome_parseSchema_append hunplaced hreadDescribed).1 fun _ => hstring,
    (outcome_parseSchema_append hunplaced hread).2 hends hkeyword⟩

/-- Without a description the keyword is refused where it stands. -/
theorem outcome_parseSchema_keywordBehindOn :
    (parseSchema "directive @a on").outcome = .ok { definitions := [] }
      ∧ (parseSchema "scalar S").outcome = .ok { definitions := [.scalar "S"] }
      ∧ (parseSchema ("directive @a on" ++ "\n" ++ "scalar S")).outcome
          = .error (.schemaText { line := 2, column := 1 }) := by
  have hdirective : declarationsOfText "directive @a on" = .ok [.directive "a"] := by
    decide +kernel
  have hscalar : declarationsOfText "scalar S" = .ok [.type { kind := .scalar, name := "S" }] := by
    decide +kernel
  have hrefused : declarationsOfText ("directive @a on" ++ "\n" ++ "scalar S")
      = .error { line := 2, column := 1 } := by
    decide +kernel
  refine ⟨outcome_parseSchema.2 ⟨_, hdirective, rfl⟩, outcome_parseSchema.2 ⟨_, hscalar, rfl⟩, ?_⟩
  rw [parseSchema, hrefused]
  rfl

end RelayCollections.Sdl
