import RelayCollections.Sdl.Position
import RelayCollections.Sdl.Token

namespace RelayCollections.Sdl

/-!
# Lexemes

A schema text is a sequence of lexemes: tokens, and the blanks and comments between them.
Lexemes lose nothing: written one after another they are the text.

* `Lexeme.text` — a lexeme as it is written;
* `lexemes` — the lexemes of a text, with `flatMap_text_lexemes`;
* `Position.after` — where the text goes on after a lexeme.
-/

/-- A piece of a schema text. -/
inductive Lexeme where
  | blank (c : Char)
  /-- A comment without its number sign, and the end of line that ends it, if there is
      one. -/
  | comment (body : List Char) (ending : Option Char)
  | token (t : Token)
  /-- Everything from the first place on where no token can be read. -/
  | junk (rest : List Char)
  deriving DecidableEq, Repr

/-- A lexeme as it is written. -/
def Lexeme.text : Lexeme → List Char
  | .blank c => [c]
  | .comment body ending => '#' :: (body ++ ending.toList)
  | .token t => t.text
  | .junk rest => rest

/-- The token that a lexeme is, if it is not passed over. -/
def Lexeme.token? : Lexeme → Option Token
  | .token t => some t
  | .junk _ => some .unreadable
  | _ => none

/-! ### Reading -/

/-- Blanks between tokens. The byte order mark may stand anywhere. -/
def isBlank (c : Char) : Bool :=
  c == ' ' || c == ',' || c == '\t' || c == '\n' || c == '\r' || c == '\ufeff'

/-- The characters that end a comment. -/
def endsLine (c : Char) : Bool :=
  c == '\n' || c == '\r'

/-- The comment after a number sign. -/
def readComment (cs : List Char) : Lexeme × List Char :=
  let body := cs.takeWhile fun c => !endsLine c
  match cs.dropWhile fun c => !endsLine c with
  | [] => (.comment body none, [])
  | e :: rest => (.comment body (some e), rest)

/-- The body of a string up to the first quotation mark that no backslash escapes. The
    string must end on its line. -/
def readQuoted? : List Char → Option (List Char × List Char)
  | [] => none
  | '"' :: cs => some ([], cs)
  | '\\' :: c :: cs =>
    if c = '\n' then none
    else (readQuoted? cs).map fun (body, rest) => ('\\' :: c :: body, rest)
  | c :: cs =>
    if c = '\n' then none
    else (readQuoted? cs).map fun (body, rest) => (c :: body, rest)

/-- The body of a block string up to the first three quotation marks without a backslash
    directly before them. `escaped` says that a backslash stands directly before the
    text. -/
def readBlock? (escaped : Bool) : List Char → Option (List Char × List Char)
  | [] => none
  | '"' :: '"' :: '"' :: cs =>
    if escaped then
      (readBlock? false cs).map fun (body, rest) => ('"' :: '"' :: '"' :: body, rest)
    else some ([], cs)
  | c :: cs => (readBlock? (c == '\\') cs).map fun (body, rest) => (c :: body, rest)

/-- The number in front of a text. -/
def readNumber? (cs : List Char) : Option (Lexeme × List Char) :=
  let text := cs.takeWhile fun c => !endsNumber c
  if isNumber text then
    some (.token (.number text), cs.dropWhile fun c => !endsNumber c)
  else none

/-- The lexeme after a character that starts no comment, string or spread. -/
def readPlain? (c : Char) (cs : List Char) : Option (Lexeme × List Char) :=
  if isBlank c then some (.blank c, cs)
  else
    match Mark.ofChar? c with
    | some m => some (.token (.mark m), cs)
    | none =>
      if isNameStart c then
        some (.token (.name (String.ofList (c :: cs.takeWhile isNameChar))),
          cs.dropWhile isNameChar)
      else if c = '-' ∨ c.isDigit then readNumber? (c :: cs)
      else none

/-- The lexeme in front of a text that is not empty, unless nothing can be read. -/
def readLexeme? : List Char → Option (Lexeme × List Char)
  | [] => none
  | '#' :: cs => some (readComment cs)
  | '.' :: '.' :: '.' :: cs => some (.token (.mark .spread), cs)
  | '"' :: '"' :: '"' :: cs =>
    (readBlock? false cs).map fun (body, rest) => (.token (.block body), rest)
  | '"' :: cs => (readQuoted? cs).map fun (body, rest) => (.token (.quoted body), rest)
  | c :: cs => readPlain? c cs

/-! ### Reading loses nothing -/

/-- A string is its body and its closing quotation mark. -/
theorem append_of_readQuoted? {cs body rest : List Char}
    (h : readQuoted? cs = some (body, rest)) : body ++ '"' :: rest = cs := by
  fun_induction readQuoted? cs generalizing body with
  | case1 => simp at h
  | case2 cs => simp_all
  | case3 => simp at h
  | case4 c cs _ ih =>
    simp only [Option.map_eq_some_iff, Prod.exists, Prod.mk.injEq] at h
    obtain ⟨b, r, hb, rfl, rfl⟩ := h
    simp [ih hb]
  | case5 => simp at h
  | case6 c cs _ _ _ ih =>
    simp only [Option.map_eq_some_iff, Prod.exists, Prod.mk.injEq] at h
    obtain ⟨b, r, hb, rfl, rfl⟩ := h
    simp [ih hb]

/-- A block string is its body and its closing quotation marks. -/
theorem append_of_readBlock? {escaped : Bool} {cs body rest : List Char}
    (h : readBlock? escaped cs = some (body, rest)) :
    body ++ '"' :: '"' :: '"' :: rest = cs := by
  fun_induction readBlock? escaped cs generalizing body with
  | case1 => simp at h
  | case2 cs ih =>
    simp only [Option.map_eq_some_iff, Prod.exists, Prod.mk.injEq] at h
    obtain ⟨b, r, hb, rfl, rfl⟩ := h
    simp [ih hb]
  | case3 => simp_all
  | case4 escaped c cs _ ih =>
    simp only [Option.map_eq_some_iff, Prod.exists, Prod.mk.injEq] at h
    obtain ⟨b, r, hb, rfl, rfl⟩ := h
    simp [ih hb]

/-- The text is the lexeme, which is not empty, and the rest. -/
structure Lexeme.Fronts (l : Lexeme) (cs rest : List Char) : Prop where
  ne_nil : l.text ≠ []
  text_append : l.text ++ rest = cs

/-- A comment stands before the rest behind its line. -/
theorem fronts_readComment (cs : List Char) :
    (readComment cs).1.Fronts ('#' :: cs) (readComment cs).2 := by
  have hsplit := List.takeWhile_append_dropWhile (p := fun c => !endsLine c) (l := cs)
  unfold readComment
  dsimp only
  split
  case h_1 hend =>
    rw [hend, List.append_nil] at hsplit
    exact ⟨List.cons_ne_nil _ _, by simp [Lexeme.text, hsplit]⟩
  case h_2 e rest hline =>
    rw [hline] at hsplit
    exact ⟨List.cons_ne_nil _ _, by simp [Lexeme.text, hsplit]⟩

/-- A string stands before the rest behind its closing quotation mark. -/
theorem fronts_of_readQuoted? {cs body rest : List Char}
    (h : readQuoted? cs = some (body, rest)) :
    (Lexeme.token (.quoted body)).Fronts ('"' :: cs) rest where
  ne_nil := List.cons_ne_nil _ _
  text_append := by simp [Lexeme.text, Token.text, append_of_readQuoted? h]

/-- A block string stands before the rest behind its closing quotation marks. -/
theorem fronts_of_readBlock? {cs body rest : List Char}
    (h : readBlock? false cs = some (body, rest)) :
    (Lexeme.token (.block body)).Fronts ('"' :: '"' :: '"' :: cs) rest where
  ne_nil := List.cons_ne_nil _ _
  text_append := by simp [Lexeme.text, Token.text, append_of_readBlock? h]

/-- A mark of one character stands before what is behind it. -/
theorem fronts_of_ofChar? {c : Char} {m : Mark} (h : Mark.ofChar? c = some m) (cs : List Char) :
    (Lexeme.token (.mark m)).Fronts (c :: cs) cs where
  ne_nil := by simp [Lexeme.text, Token.text, Mark.text_of_ofChar? h]
  text_append := by simp [Lexeme.text, Token.text, Mark.text_of_ofChar? h]

/-- A name stands before the first character that cannot be in it. -/
theorem fronts_name (c : Char) (cs : List Char) :
    (Lexeme.token (.name (String.ofList (c :: cs.takeWhile isNameChar)))).Fronts (c :: cs)
      (cs.dropWhile isNameChar) where
  ne_nil := by simp [Lexeme.text, Token.text]
  text_append := by simp [Lexeme.text, Token.text, List.takeWhile_append_dropWhile]

/-- A number stands before the first character that cannot be in it. -/
theorem fronts_of_readNumber? {cs rest : List Char} {l : Lexeme}
    (h : readNumber? cs = some (l, rest)) : l.Fronts cs rest := by
  obtain ⟨hnumber, heq⟩ := Option.ite_none_right_eq_some.1 h
  obtain ⟨rfl, rfl⟩ := Prod.mk.inj (Option.some.inj heq)
  refine ⟨fun hnil => ?_, List.takeWhile_append_dropWhile⟩
  -- A text without characters has not the shape of a number.
  have hempty : (cs.takeWhile fun c => !endsNumber c) = [] := hnil
  rw [hempty] at hnumber
  exact absurd hnumber (by decide)

/-- Blanks, marks, names and numbers stand before the rest. -/
theorem fronts_of_readPlain? {c : Char} {cs rest : List Char} {l : Lexeme}
    (h : readPlain? c cs = some (l, rest)) : l.Fronts (c :: cs) rest := by
  unfold readPlain? at h
  split at h
  case isTrue hblank =>
    cases h
    exact ⟨List.cons_ne_nil _ _, rfl⟩
  case isFalse hblank =>
    split at h
    case h_1 m hmark =>
      cases h
      exact fronts_of_ofChar? hmark cs
    case h_2 hmark =>
      split at h
      case isTrue hname =>
        cases h
        exact fronts_name c cs
      case isFalse hname =>
        obtain ⟨_, hnumber⟩ := Option.ite_none_right_eq_some.1 h
        exact fronts_of_readNumber? hnumber

/-- A lexeme that is read stands before the rest. -/
theorem fronts_of_readLexeme? {cs rest : List Char} {l : Lexeme}
    (h : readLexeme? cs = some (l, rest)) : l.Fronts cs rest := by
  unfold readLexeme? at h
  split at h
  case h_1 => contradiction
  case h_2 cs =>
    obtain ⟨rfl, rfl⟩ := Prod.mk.inj (Option.some.inj h)
    exact fronts_readComment cs
  case h_3 =>
    cases h
    exact ⟨List.cons_ne_nil _ _, rfl⟩
  case h_4 cs =>
    obtain ⟨⟨body, r⟩, hblock, heq⟩ := Option.map_eq_some_iff.1 h
    obtain ⟨rfl, rfl⟩ := Prod.mk.inj heq
    exact fronts_of_readBlock? hblock
  case h_5 cs _ =>
    obtain ⟨⟨body, r⟩, hquoted, heq⟩ := Option.map_eq_some_iff.1 h
    obtain ⟨rfl, rfl⟩ := Prod.mk.inj heq
    exact fronts_of_readQuoted? hquoted
  case h_6 => exact fronts_of_readPlain? h

/-- A lexeme that is read leaves a shorter text. -/
theorem length_lt_of_readLexeme? {cs rest : List Char} {l : Lexeme}
    (h : readLexeme? cs = some (l, rest)) : rest.length < cs.length := by
  obtain ⟨hne, rfl⟩ := fronts_of_readLexeme? h
  have hpos := List.length_pos_iff.2 hne
  rw [List.length_append]
  omega

/-! ### Whole texts -/

/-- The lexemes of a text. -/
def lexemes (cs : List Char) : List Lexeme :=
  if cs = [] then []
  else
    match _h : readLexeme? cs with
    | some (l, rest) => l :: lexemes rest
    | none => [.junk cs]
termination_by cs.length
decreasing_by exact length_lt_of_readLexeme? _h

/-- The lexemes of a text, written one after another, are the text. -/
theorem flatMap_text_lexemes (cs : List Char) :
    (lexemes cs).flatMap Lexeme.text = cs := by
  fun_induction lexemes cs with
  | case1 => rfl
  | case2 cs _ l rest h ih => rw [List.flatMap_cons, ih, (fronts_of_readLexeme? h).text_append]
  | case3 cs _ _ => simp [Lexeme.text]

/-! ### Positions -/

/-- The position after a string of several lines: the column counts from the last end of
    line. -/
def Position.afterBlock (p : Position) (text : List Char) : Position :=
  if text.contains '\n' then
    { line := p.line + text.count '\n'
      column := 1 + (text.reverse.takeWhile (· != '\n')).length }
  else { p with column := p.column + text.length }

/-- The position at which the text goes on after a lexeme. A tab counts for eight
    columns, and some blanks for none; a comment counts where its line ends. -/
def Position.after (p : Position) : Lexeme → Position
  | .blank c =>
    if c = '\n' then { line := p.line + 1 }
    else if c = '\t' then { p with column := p.column + 8 }
    else if c = ' ' ∨ c = ',' then { p with column := p.column + 1 }
    else p
  | .comment _ (some _) => { line := p.line + 1 }
  | .comment _ none => p
  | .token (.block body) => p.afterBlock (Token.text (.block body))
  | .token t => { p with column := p.column + t.text.length }
  | .junk _ => p

/-- The positions at which the tokens of lexemes start, and last the one at which the
    lexemes end. -/
def positions (p : Position) : List Lexeme → List Position
  | [] => [p]
  | l :: rest =>
    if l.token?.isSome then p :: positions (p.after l) rest else positions (p.after l) rest

end RelayCollections.Sdl
