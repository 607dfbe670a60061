import RelayCollections.Sdl.Reading

namespace RelayCollections.Sdl

/-!
# Layouts of schema texts

Tokens are laid out in a text if they stand in it in their order, with anything between
them that is passed over: blanks of every kind, and comments up to the ends of their lines.
Only between two names something has to stand. Whatever the layout, the tokens of the text
are the tokens that were laid out.

* `isLegalName`, `Token.isLegible` — names and tokens that can be written;
* `Ignorable`, `LaidOut`, `IsLayout` — what is passed over, and layouts;
* `lexedTokens_of_isLayout` — the lexemes of a layout hold its tokens and no others;
* `tokens_of_isLayout` — so do its tokens, if not too many brackets are open at once.
-/

/-! ### Layouts -/

/-- The names that can be written. No name is reserved. -/
def isLegalName (text : String) : Bool :=
  match text.toList with
  | [] => false
  | c :: cs => isNameStart c && cs.all isNameChar

/-- A mark, or a name that can be written. -/
def Token.isLegible : Token → Bool
  | .mark _ => true
  | .name text => isLegalName text
  | _ => false

/-- Text that is passed over: blanks, and comments with the ends of their lines. -/
inductive Ignorable : List Char → Prop where
  | nil : Ignorable []
  | blank {c : Char} {cs : List Char} (hc : isBlank c = true) (hcs : Ignorable cs) :
      Ignorable (c :: cs)
  | comment {body cs : List Char} {ending : Char} (hbody : ∀ c ∈ body, endsLine c = false)
      (hending : endsLine ending = true) (hcs : Ignorable cs) :
      Ignorable ('#' :: (body ++ ending :: cs))

/-- A token and the one behind it would be read as a single name if nothing stood between
    them. -/
def wouldTouch (t : Token) (ts : List Token) : Bool :=
  t.isName && ts.head?.any Token.isName

/-- The text starts with the first token, and has ignorable text behind each. -/
inductive LaidOut : List Token → List Char → Prop where
  | nil : LaidOut [] []
  | cons {t : Token} {ts : List Token} {gap cs : List Char} (hgap : Ignorable gap)
      (hapart : wouldTouch t ts = true → gap ≠ []) (hcs : LaidOut ts cs) :
      LaidOut (t :: ts) (t.text ++ (gap ++ cs))

/-- The text has ignorable text before the first token and behind each. -/
def IsLayout (ts : List Token) (text : List Char) : Prop :=
  ∃ gap cs, Ignorable gap ∧ LaidOut ts cs ∧ text = gap ++ cs

/-! ### Where names end -/

/-- A name does not go on here. -/
def StopsName (cs : List Char) : Prop :=
  ∀ c ∈ cs.head?, isNameChar c = false

/-- A name does not go on in ignorable text. -/
theorem Ignorable.stopsName {gap : List Char} (h : Ignorable gap) (hne : gap ≠ [])
    (cs : List Char) : StopsName (gap ++ cs) := by
  cases h with
  | nil => exact absurd rfl hne
  | blank hc _ =>
    simp only [isBlank, Bool.or_eq_true, beq_iff_eq] at hc
    rintro _ ⟨⟩
    rcases hc with ((((rfl | rfl) | rfl) | rfl) | rfl) | rfl <;> decide
  | comment _ _ _ =>
    rintro _ ⟨⟩
    decide

/-- A name does not go on with a mark. -/
theorem stopsName_mark (m : Mark) (cs : List Char) : StopsName (m.text ++ cs) := by
  intro c hc
  cases m <;> (cases hc; decide)

/-- A name does not go on behind a token of a layout. -/
theorem LaidOut.stopsName {t : Token} {ts : List Token} {gap cs : List Char}
    (hgap : Ignorable gap) (hapart : wouldTouch t ts = true → gap ≠ []) (hcs : LaidOut ts cs)
    (hts : ∀ u ∈ ts, u.isLegible = true) (ht : t.isName = true) : StopsName (gap ++ cs) := by
  by_cases hne : gap = []
  · subst hne
    cases hcs with
    | nil => exact fun c hc => absurd hc (Option.not_mem_none c)
    | @cons u us gap' cs' _ _ _ =>
      -- Nothing stands before the next token, so it is a mark.
      cases u with
      | mark m => exact stopsName_mark m _
      | name text => exact absurd rfl (hapart (Bool.and_eq_true_iff.2 ⟨ht, rfl⟩))
      | number | quoted | block | unreadable =>
        exact absurd (hts _ List.mem_cons_self) Bool.false_ne_true
  · exact hgap.stopsName hne cs

/-! ### Reading a layout -/

/-- Characters with a property are split off a text where the first one lacks it. -/
theorem span_append {p : Char → Bool} {front rest : List Char}
    (hfront : ∀ c ∈ front, p c = true) (hrest : ∀ c ∈ rest.head?, p c = false) :
    (front ++ rest).takeWhile p = front ∧ (front ++ rest).dropWhile p = rest := by
  rw [List.takeWhile_append_of_pos hfront, List.dropWhile_append_of_pos hfront]
  cases rest with
  | nil => exact ⟨List.append_nil front, rfl⟩
  | cons c cs =>
    have hc : ¬ p c = true := by simp [hrest c rfl]
    rw [List.takeWhile_cons_of_neg hc, List.append_nil]
    exact ⟨rfl, List.dropWhile_cons_of_neg hc⟩

/-- A lexeme in front of a text is the first of its lexemes. -/
theorem lexemes_of_readLexeme? {cs rest : List Char} {l : Lexeme}
    (h : readLexeme? cs = some (l, rest)) : lexemes cs = l :: lexemes rest := by
  have hne : cs ≠ [] := by
    rintro rfl
    contradiction
  rw [lexemes, if_neg hne]
  split
  case h_1 l' rest' h' =>
    rw [h, Option.some.injEq, Prod.mk.injEq] at h'
    rw [h'.1, h'.2]
  case h_2 h' =>
    rw [h] at h'
    contradiction

/-- A blank in front of a text is read. -/
theorem readLexeme?_blank {c : Char} (hc : isBlank c = true) (cs : List Char) :
    readLexeme? (c :: cs) = some (.blank c, cs) := by
  simp only [isBlank, Bool.or_eq_true, beq_iff_eq] at hc
  rcases hc with ((((rfl | rfl) | rfl) | rfl) | rfl) | rfl <;> rfl

/-- A comment in front of a text is read to the end of its line. -/
theorem readLexeme?_comment {body : List Char} {ending : Char}
    (hbody : ∀ c ∈ body, endsLine c = false) (hending : endsLine ending = true)
    (cs : List Char) :
    readLexeme? ('#' :: (body ++ ending :: cs)) = some (.comment body (some ending), cs) := by
  have hstops : ∀ c ∈ (ending :: cs).head?, (!endsLine c) = false := by simp [hending]
  obtain ⟨htake, hdrop⟩ := span_append (p := fun c => !endsLine c) (by simpa using hbody) hstops
  show some (readComment _) = _
  rw [readComment, htake, hdrop]

/-- A mark in front of a text is read. -/
theorem readLexeme?_mark (m : Mark) (cs : List Char) :
    readLexeme? (m.text ++ cs) = some (.token (.mark m), cs) := by
  cases m <;> rfl

/-- Where no comment, string or spread starts, a plain lexeme is read. -/
theorem readLexeme?_plain {c : Char} (hhash : c ≠ '#') (hdot : c ≠ '.') (hquote : c ≠ '"')
    (cs : List Char) : readLexeme? (c :: cs) = readPlain? c cs := by
  rw [readLexeme?]
  · exact hhash
  · exact fun _ hc => absurd hc hdot
  · exact fun _ hc => absurd hc hquote
  · exact hquote

/-- A character that starts a name starts nothing else. -/
theorem readLexeme?_nameStart {c : Char} (hc : isNameStart c = true) (cs : List Char) :
    readLexeme? (c :: cs)
      = some (.token (.name (String.ofList (c :: cs.takeWhile isNameChar))),
          cs.dropWhile isNameChar) := by
  have hne : ∀ c', isNameStart c' = false → c ≠ c' := by
    rintro c' hc' rfl
    exact absurd hc (by simp [hc'])
  have hblank : isBlank c = false := by
    simp only [isBlank, Bool.or_eq_false_iff, beq_eq_false_iff_ne]
    refine ⟨⟨⟨⟨⟨?_, ?_⟩, ?_⟩, ?_⟩, ?_⟩, ?_⟩ <;> exact hne _ (by decide)
  have hmark : Mark.ofChar? c = none := by
    unfold Mark.ofChar?
    split
    all_goals first
      | rfl
      | exact absurd rfl (hne _ (by decide))
  rw [readLexeme?_plain (hne _ (by decide)) (hne _ (by decide)) (hne _ (by decide)), readPlain?,
    hblank, hmark]
  simp only [Bool.false_eq_true, if_false, hc, if_true]

/-- A name in front of a text is read as far as it goes. -/
theorem readLexeme?_name {text : String} (htext : isLegalName text = true) {cs : List Char}
    (hcs : StopsName cs) :
    readLexeme? (text.toList ++ cs) = some (.token (.name text), cs) := by
  unfold isLegalName at htext
  split at htext
  case h_1 => contradiction
  case h_2 c body hbody =>
    obtain ⟨hc, hgoes⟩ := Bool.and_eq_true_iff.1 htext
    obtain ⟨htake, hdrop⟩ := span_append (List.all_eq_true.1 hgoes) hcs
    rw [hbody, List.cons_append, readLexeme?_nameStart hc, htake, hdrop, ← hbody,
      String.ofList_toList]

/-- The tokens among the lexemes of a text. -/
def lexedTokens (cs : List Char) : List Token :=
  (lexemes cs).filterMap Lexeme.token?

theorem lexedTokens_nil : lexedTokens [] = [] := by
  rw [lexedTokens, lexemes]
  rfl

/-- Behind a lexeme, which may be a token, come the tokens of the rest. -/
theorem lexedTokens_of_readLexeme? {cs rest : List Char} {l : Lexeme}
    (h : readLexeme? cs = some (l, rest)) :
    lexedTokens cs = l.token?.toList ++ lexedTokens rest := by
  rw [lexedTokens, lexemes_of_readLexeme? h, List.filterMap_cons]
  cases l.token? <;> rfl

/-- A lexeme that is passed over adds no token. -/
theorem lexedTokens_of_ignored {cs rest : List Char} {l : Lexeme} (hl : l.token? = none)
    (h : readLexeme? cs = some (l, rest)) : lexedTokens cs = lexedTokens rest := by
  rw [lexedTokens_of_readLexeme? h, hl]
  rfl

/-- A token that is read is the first token. -/
theorem lexedTokens_of_token {cs rest : List Char} {t : Token}
    (h : readLexeme? cs = some (.token t, rest)) : lexedTokens cs = t :: lexedTokens rest :=
  lexedTokens_of_readLexeme? h

/-- Nothing is read from a text in which no lexeme is. -/
theorem lexedTokens_of_none {cs : List Char} (hne : cs ≠ []) (h : readLexeme? cs = none) :
    lexedTokens cs = [.unreadable] := by
  rw [lexedTokens, lexemes, if_neg hne]
  split
  case h_1 hread =>
    rw [h] at hread
    contradiction
  case h_2 => rfl

/-- Ignorable text is passed over. -/
theorem lexedTokens_ignorable {gap : List Char} (h : Ignorable gap) (cs : List Char) :
    lexedTokens (gap ++ cs) = lexedTokens cs := by
  induction h with
  | nil => rfl
  | blank hc _ ih =>
    rw [List.cons_append, lexedTokens_of_ignored rfl (readLexeme?_blank hc _), ih]
  | comment hbody hending _ ih =>
    rw [List.cons_append, List.append_assoc, List.cons_append,
      lexedTokens_of_ignored rfl (readLexeme?_comment hbody hending _), ih]

/-- A token in front of a text in which it does not go on is read. -/
theorem readLexeme?_token {t : Token} (ht : t.isLegible = true) {cs : List Char}
    (hcs : t.isName = true → StopsName cs) :
    readLexeme? (t.text ++ cs) = some (.token t, cs) := by
  cases t with
  | mark m => exact readLexeme?_mark m cs
  | name text => exact readLexeme?_name ht (hcs rfl)
  | number | quoted | block | unreadable => exact absurd ht Bool.false_ne_true

/-- The tokens that are laid out are read, and no others. -/
theorem lexedTokens_laidOut {ts : List Token} {cs : List Char} (h : LaidOut ts cs)
    (hts : ∀ t ∈ ts, t.isLegible = true) : lexedTokens cs = ts := by
  induction h with
  | nil => exact lexedTokens_nil
  | @cons t ts gap cs hgap hapart hcs ih =>
    obtain ⟨ht, hts⟩ := List.forall_mem_cons.1 hts
    have hstops : t.isName = true → StopsName (gap ++ cs) :=
      LaidOut.stopsName hgap hapart hcs hts
    -- The token is read up to its gap, and the gap is passed over.
    rw [lexedTokens_of_token (readLexeme?_token ht hstops), lexedTokens_ignorable hgap, ih hts]

/-- **The layout does not matter.** The tokens among the lexemes of a text are the tokens
    that are laid out in it. -/
theorem lexedTokens_of_isLayout {ts : List Token} {text : List Char} (h : IsLayout ts text)
    (hts : ∀ t ∈ ts, t.isLegible = true) : lexedTokens text = ts := by
  obtain ⟨gap, cs, hgap, hcs, rfl⟩ := h
  rw [lexedTokens_ignorable hgap, lexedTokens_laidOut hcs hts]

/-! ### Open brackets -/

/-- How many brackets are open behind a token, given how many are open before it. -/
def Token.openAfter (n : Nat) (t : Token) : Nat :=
  if t.opens then n + 1 else if t.closes then n - 1 else n

/-- How many brackets are open behind tokens, given how many are open before them. -/
def openAfter (n : Nat) (ts : List Token) : Nat :=
  ts.foldl Token.openAfter n

/-- At no point more brackets are open than may be. -/
def WithinBrackets (ts : List Token) : Prop :=
  ∀ front, front <+: ts → openAfter 0 front ≤ bracketLimit

/-- A token is kept unless it opens a bracket that is one too many. -/
theorem limitNesting_cons {n : Nat} {t : Token} (h : t.opens = true → n < bracketLimit)
    (ts : List Token) : limitNesting n (t :: ts) = t :: limitNesting (t.openAfter n) ts := by
  rw [limitNesting]
  unfold Token.openAfter
  by_cases hopens : t.opens = true
  · rw [if_pos hopens, if_pos hopens, if_pos (h hopens)]
  · rw [if_neg hopens, if_neg hopens]
    by_cases hcloses : t.closes = true
    · rw [if_pos hcloses, if_pos hcloses]
    · rw [if_neg hcloses, if_neg hcloses]

/-- A bracket that is one too many is unreadable, and everything behind it is gone. -/
theorem limitNesting_of_limit {n : Nat} {t : Token} (hopens : t.opens = true)
    (h : ¬ n < bracketLimit) (ts : List Token) : limitNesting n (t :: ts) = [.unreadable] := by
  rw [limitNesting, if_pos hopens, if_neg h]

/-- Tokens are all readable if no point among them has too many open brackets. -/
theorem limitNesting_eq_self {n : Nat} {ts : List Token}
    (h : ∀ front, front <+: ts → openAfter n front ≤ bracketLimit) :
    limitNesting n ts = ts := by
  induction ts generalizing n with
  | nil => rfl
  | cons t ts ih =>
    have hone : t.openAfter n ≤ bracketLimit :=
      h [t] (List.cons_prefix_cons.2 ⟨rfl, List.nil_prefix⟩)
    have hrest : limitNesting (t.openAfter n) ts = ts :=
      ih fun front hfront => h (t :: front) (List.cons_prefix_cons.2 ⟨rfl, hfront⟩)
    have hroom : t.opens = true → n < bracketLimit := by
      intro hopens
      rw [Token.openAfter, if_pos hopens] at hone
      exact hone
    rw [limitNesting_cons hroom, hrest]

/-- Tokens that are all readable have been kept, and the brackets that they leave open count
    for what stands behind them. -/
theorem limitNesting_append {n : Nat} {ts : List Token} (h : .unreadable ∉ limitNesting n ts)
    (us : List Token) :
    limitNesting n ts = ts
      ∧ limitNesting n (ts ++ us) = ts ++ limitNesting (openAfter n ts) us := by
  induction ts generalizing n with
  | nil => exact ⟨rfl, rfl⟩
  | cons t ts ih =>
    have hroom : t.opens = true → n < bracketLimit := by
      intro hopens
      refine Decidable.by_contra fun hfull => h ?_
      rw [limitNesting_of_limit hopens hfull]
      exact List.mem_singleton_self _
    rw [limitNesting_cons hroom] at h ⊢
    obtain ⟨hself, hbehind⟩ := ih fun hmem => h (List.mem_cons_of_mem t hmem)
    rw [List.cons_append, limitNesting_cons hroom, hself, hbehind]
    exact ⟨rfl, rfl⟩

/-- **The tokens of a layout.** A text in which tokens are laid out, with no more open
    brackets than may be, has just these tokens. -/
theorem tokens_of_isLayout {ts : List Token} {text : String} (h : IsLayout ts text.toList)
    (hts : ∀ t ∈ ts, t.isLegible = true) (hbrackets : WithinBrackets ts) :
    tokens text = ts := by
  have hlexed : (lexemes text.toList).filterMap Lexeme.token? = ts :=
    lexedTokens_of_isLayout h hts
  rw [tokens, hlexed, limitNesting_eq_self hbrackets]

end RelayCollections.Sdl
