import RelayCollections.Proofs.Sdl.Layout

namespace RelayCollections.Sdl

/-!
# Lexemes and the ends of lines

No token goes on behind the end of a line, except for strings, and these only where they
have begun before it. So behind a text that is made of whole tokens an end of line starts
anew, and it ends the comment that the text may end with.

* `readQuoted?_append`, `readBlock?_append` — strings end where they do, whatever follows;
* `readLexeme?_append_newLine` — so does every lexeme at the end of a line, but for comments;
* `lexedTokens_append_newLine` — texts on lines of their own have the tokens of each.
-/

/-! ### Where lexemes end -/

/-- What is split off a text before an end of line is not changed by what follows it. -/
theorem span_append_newLine {p : Char → Bool} (hp : p '\n' = false) (cs more : List Char) :
    (cs ++ '\n' :: more).takeWhile p = cs.takeWhile p
      ∧ (cs ++ '\n' :: more).dropWhile p = cs.dropWhile p ++ '\n' :: more := by
  induction cs with
  | nil => simp [hp]
  | cons c cs ih =>
    cases hc : p c with
    | true => simp [hc, ih]
    | false => simp [hc]

/-- A string that ends ends at the same place, whatever stands behind it. -/
theorem readQuoted?_append {cs body rest : List Char} (h : readQuoted? cs = some (body, rest))
    (more : List Char) : readQuoted? (cs ++ more) = some (body, rest ++ more) := by
  fun_induction readQuoted? cs generalizing body with
  | case1 => contradiction
  | case2 cs =>
    cases h
    rfl
  | case3 => contradiction
  | case4 c cs hc ih =>
    obtain ⟨⟨b, r⟩, hb, heq⟩ := Option.map_eq_some_iff.1 h
    obtain ⟨rfl, rfl⟩ := Prod.mk.inj heq
    rw [List.cons_append, List.cons_append, readQuoted?, if_neg hc, ih hb]
    rfl
  | case5 => contradiction
  | case6 c cs hquote hescape hc ih =>
    obtain ⟨⟨b, r⟩, hb, heq⟩ := Option.map_eq_some_iff.1 h
    obtain ⟨rfl, rfl⟩ := Prod.mk.inj heq
    have hescape' : ∀ c' cs', c = '\\' → cs ++ more = c' :: cs' → False := by
      rintro c' cs' rfl _
      cases cs with
      | nil => contradiction
      | cons d ds => exact hescape d ds rfl rfl
    rw [List.cons_append, readQuoted?, if_neg hc, ih hb]
    · rfl
    · exact hquote
    · exact hescape'

/-- So does a block string. -/
theorem readBlock?_append {escaped : Bool} {cs body rest : List Char}
    (h : readBlock? escaped cs = some (body, rest)) (more : List Char) :
    readBlock? escaped (cs ++ more) = some (body, rest ++ more) := by
  fun_induction readBlock? escaped cs generalizing body with
  | case1 => contradiction
  | case2 cs ih =>
    obtain ⟨⟨b, r⟩, hb, heq⟩ := Option.map_eq_some_iff.1 h
    obtain ⟨rfl, rfl⟩ := Prod.mk.inj heq
    simp only [List.cons_append, readBlock?, if_true, ih hb]
    rfl
  | case3 escaped cs hescaped =>
    cases h
    simp only [List.cons_append, readBlock?, if_neg hescaped]
  | case4 escaped c cs hquotes ih =>
    obtain ⟨⟨b, r⟩, hb, heq⟩ := Option.map_eq_some_iff.1 h
    obtain ⟨rfl, rfl⟩ := Prod.mk.inj heq
    have hquotes' : ∀ cs', c = '"' → cs ++ more = '"' :: '"' :: cs' → False := by
      rintro cs' rfl hcs
      rcases cs with _ | ⟨d, _ | ⟨e, ds⟩⟩
      · contradiction
      · simp [readBlock?] at hb
      · obtain ⟨rfl, hrest⟩ := List.cons.inj hcs
        obtain ⟨rfl, -⟩ := List.cons.inj (hrest : e :: (ds ++ more) = '"' :: cs')
        exact hquotes ds rfl rfl
    rw [List.cons_append, readBlock?, ih hb]
    · rfl
    · exact hquotes'

/-- A comment that its line ends stays the same, and another one ends with the line. -/
theorem readComment_append_newLine (cs more : List Char) :
    readComment (cs ++ '\n' :: more)
        = ((readComment cs).1, (readComment cs).2 ++ '\n' :: more) ∨
      ((readComment cs).2 = [] ∧
        readComment (cs ++ '\n' :: more) = (.comment cs (some '\n'), more)) := by
  obtain ⟨htake, hdrop⟩ := span_append_newLine (p := fun c => !endsLine c) rfl cs more
  have hsplit := List.takeWhile_append_dropWhile (p := fun c => !endsLine c) (l := cs)
  unfold readComment
  rw [htake, hdrop]
  cases hrest : cs.dropWhile fun c => !endsLine c with
  | nil =>
    rw [hrest, List.append_nil] at hsplit
    rw [hsplit]
    exact Or.inr ⟨rfl, rfl⟩
  | cons e rest => exact Or.inl rfl

/-- A comment is passed over. -/
theorem token?_readComment (cs : List Char) : (readComment cs).1.token? = none := by
  unfold readComment
  dsimp only
  split <;> rfl

/-- A number ends before the end of a line. -/
theorem readNumber?_append_newLine {cs rest : List Char} {l : Lexeme}
    (h : readNumber? cs = some (l, rest)) (more : List Char) :
    readNumber? (cs ++ '\n' :: more) = some (l, rest ++ '\n' :: more) := by
  obtain ⟨htake, hdrop⟩ := span_append_newLine (p := fun c => !endsNumber c) rfl cs more
  unfold readNumber? at h ⊢
  rw [htake, hdrop]
  dsimp only at h ⊢
  split at h
  case isTrue hnumber =>
    cases h
    rw [if_pos hnumber]
  case isFalse => contradiction

/-- Blanks, marks, names and numbers end before the end of a line. -/
theorem readPlain?_append_newLine {c : Char} {cs rest : List Char} {l : Lexeme}
    (h : readPlain? c cs = some (l, rest)) (more : List Char) :
    readPlain? c (cs ++ '\n' :: more) = some (l, rest ++ '\n' :: more) := by
  obtain ⟨htake, hdrop⟩ := span_append_newLine (p := isNameChar) (by decide) cs more
  unfold readPlain? at h ⊢
  rw [htake, hdrop]
  split at h
  case isTrue hblank =>
    cases h
    rw [if_pos hblank]
  case isFalse hblank =>
    rw [if_neg hblank]
    split at h
    case h_1 =>
      cases h
      rfl
    case h_2 =>
      split at h
      case isTrue hname =>
        cases h
        rw [if_pos hname]
      case isFalse hname =>
        rw [if_neg hname]
        split at h
        case isTrue hnumber =>
          rw [if_pos hnumber, ← List.cons_append]
          exact readNumber?_append_newLine h more
        case isFalse => contradiction

/-- What a lexeme is does not depend on what stands behind the end of a line, except that a
    comment takes the end of its line. -/
theorem readLexeme?_append_newLine {cs rest : List Char} {l : Lexeme}
    (h : readLexeme? cs = some (l, rest)) (more : List Char) :
    readLexeme? (cs ++ '\n' :: more) = some (l, rest ++ '\n' :: more) ∨
      (l.token? = none ∧ rest = [] ∧
        ∃ l', l'.token? = none ∧ readLexeme? (cs ++ '\n' :: more) = some (l', more)) := by
  unfold readLexeme? at h
  split at h
  case h_1 => contradiction
  case h_2 cs =>
    obtain ⟨rfl, rfl⟩ := Prod.mk.inj (Option.some.inj h)
    rcases readComment_append_newLine cs more with hsame | ⟨hend, hcomment⟩
    · exact Or.inl (congrArg some hsame)
    · exact Or.inr ⟨token?_readComment cs, hend, _, rfl, congrArg some hcomment⟩
  case h_3 =>
    cases h
    exact Or.inl rfl
  case h_4 cs =>
    obtain ⟨⟨body, r⟩, hb, heq⟩ := Option.map_eq_some_iff.1 h
    obtain ⟨rfl, rfl⟩ := Prod.mk.inj heq
    left
    show (readBlock? false (cs ++ '\n' :: more)).map _ = _
    rw [readBlock?_append hb]
    rfl
  case h_5 cs hblock =>
    obtain ⟨⟨body, r⟩, hb, heq⟩ := Option.map_eq_some_iff.1 h
    obtain ⟨rfl, rfl⟩ := Prod.mk.inj heq
    left
    have hblock' : ∀ cs', cs ++ '\n' :: more = '"' :: '"' :: cs' → False := by
      intro cs' hcs
      rcases cs with _ | ⟨d, _ | ⟨e, ds⟩⟩
      · simp at hcs
      · simp at hcs
      · simp only [List.cons_append, List.cons.injEq] at hcs
        exact hblock ds (by rw [hcs.1, hcs.2.1])
    rw [List.cons_append, readLexeme?, readQuoted?_append hb]
    · rfl
    · exact hblock'
  case h_6 c cs hhash _ _ hquote =>
    have hdot : c ≠ '.' := by
      rintro rfl
      contradiction
    left
    rw [List.cons_append, readLexeme?_plain hhash hdot hquote]
    exact readPlain?_append_newLine h more

/-! ### Tokens -/

/-- Texts with an end of line between them have the tokens of each. -/
theorem lexedTokens_append_newLine {cs : List Char} (h : .unreadable ∉ lexedTokens cs)
    (more : List Char) :
    lexedTokens (cs ++ '\n' :: more) = lexedTokens cs ++ lexedTokens more := by
  induction cs using lexemes.induct with
  | case1 =>
    rw [lexedTokens_nil, List.nil_append, List.nil_append]
    exact lexedTokens_of_ignored rfl (readLexeme?_blank rfl more)
  | case2 cs _ l rest hread ih =>
    rw [lexedTokens_of_readLexeme? hread] at h ⊢
    have hrest := ih fun hmem => h (List.mem_append_right _ hmem)
    rcases readLexeme?_append_newLine hread more with hsame | ⟨hl, rfl, l', hl', hcomment⟩
    · rw [lexedTokens_of_readLexeme? hsame, hrest, List.append_assoc]
    · rw [lexedTokens_of_ignored hl' hcomment, hl, lexedTokens_nil]
      rfl
  | case3 cs hne hread =>
    rw [lexedTokens_of_none hne hread] at h
    exact absurd (List.mem_singleton_self _) h

end RelayCollections.Sdl
