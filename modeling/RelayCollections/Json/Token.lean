import RelayCollections.Json.Text

namespace RelayCollections.Json

/-!
# JSON tokens

A JSON text is a sequence of tokens with white space between them. Tokens keep how they
are spelled, so `Token.text` writes back exactly what was read.

* `Token.text` — a token as it is written;
* `tokens` — the tokens of a text. The first place where no token can be read becomes
  `Token.unreadable`, and the rest of the text is dropped;
* `isNumber` — the JSON spelling of numbers.
-/

/-- A token of a JSON text. -/
inductive Token where
  | openArray
  | closeArray
  | openObject
  | closeObject
  | comma
  | colon
  | null
  | bool (b : Bool)
  | number (text : List Char)
  | string (pieces : List Piece)
  /-- Nothing readable stands here. -/
  | unreadable
  deriving DecidableEq, Repr

/-- A token as it is written. -/
def Token.text : Token → List Char
  | .openArray => ['[']
  | .closeArray => [']']
  | .openObject => ['\x7b']
  | .closeObject => ['\x7d']
  | .comma => [',']
  | .colon => [':']
  | .null => ['n', 'u', 'l', 'l']
  | .bool true => ['t', 'r', 'u', 'e']
  | .bool false => ['f', 'a', 'l', 's', 'e']
  | .number text => text
  | .string pieces => '"' :: (pieces.flatMap Piece.text ++ ['"'])
  | .unreadable => []

/-! ### Numbers -/

/-- The text after an optional exponent; none if the exponent has no digits. -/
def afterExponent? : List Char → Option (List Char)
  | [] => some []
  | c :: cs =>
    if c = 'e' ∨ c = 'E' then
      match cs with
      | '+' :: ds => Numeral.afterDigits? ds
      | '-' :: ds => Numeral.afterDigits? ds
      | ds => Numeral.afterDigits? ds
    else some (c :: cs)

/-- A JSON number is an integer, a fraction if there is one, and an exponent if there is
    one. Its size does not matter. -/
def isNumber (text : List Char) : Bool :=
  (do afterExponent? (← Numeral.afterFraction? (← Numeral.afterInteger? text))) == some []

/-- The characters numbers are made of. -/
def isNumberChar (c : Char) : Bool :=
  c.isDigit || c == '-' || c == '+' || c == '.' || c == 'e' || c == 'E'

/-! ### Reading -/

/-- White space between tokens. -/
def isBlank (c : Char) : Bool :=
  c == ' ' || c == '\t' || c == '\n' || c == '\r'

/-- The longest number in front of a text. -/
def readNumber? (cs : List Char) : Option (Token × List Char) :=
  let text := cs.takeWhile isNumberChar
  if isNumber text then some (.number text, cs.dropWhile isNumberChar) else none

/-- The token in front of a text that starts with no white space, and the text after it. -/
def readToken? : List Char → Option (Token × List Char)
  | '[' :: cs => some (.openArray, cs)
  | ']' :: cs => some (.closeArray, cs)
  | '\x7b' :: cs => some (.openObject, cs)
  | '\x7d' :: cs => some (.closeObject, cs)
  | ',' :: cs => some (.comma, cs)
  | ':' :: cs => some (.colon, cs)
  | 'n' :: 'u' :: 'l' :: 'l' :: cs => some (.null, cs)
  | 't' :: 'r' :: 'u' :: 'e' :: cs => some (.bool true, cs)
  | 'f' :: 'a' :: 'l' :: 's' :: 'e' :: cs => some (.bool false, cs)
  | '"' :: cs => (readPieces? cs).map fun (pieces, rest) => (.string pieces, rest)
  | cs => readNumber? cs

/-- The text is the token, which is not empty, and the rest. -/
structure Token.Fronts (t : Token) (cs rest : List Char) : Prop where
  ne_nil : t.text ≠ []
  text_append : t.text ++ rest = cs

/-- A string stands before the rest behind its closing quotation mark. -/
theorem fronts_of_readPieces? {cs rest : List Char} {pieces : List Piece}
    (h : readPieces? cs = some (pieces, rest)) :
    (Token.string pieces).Fronts ('"' :: cs) rest where
  ne_nil := List.cons_ne_nil _ _
  text_append := by simp [Token.text, eq_of_readPieces? h]

/-- No number is empty. -/
theorem isNumber_nil : isNumber [] = false := rfl

/-- A number stands before the first character that cannot be in it. -/
theorem fronts_of_readNumber? {cs rest : List Char} {t : Token}
    (h : readNumber? cs = some (t, rest)) : t.Fronts cs rest := by
  obtain ⟨hnumber, heq⟩ := Option.ite_none_right_eq_some.1 h
  obtain ⟨rfl, rfl⟩ := Prod.mk.inj (Option.some.inj heq)
  refine ⟨fun hnil => ?_, List.takeWhile_append_dropWhile⟩
  have hempty : cs.takeWhile isNumberChar = [] := hnil
  rw [hempty, isNumber_nil] at hnumber
  contradiction

/-- A token that is read stands before the rest. -/
theorem fronts_of_readToken? {cs rest : List Char} {t : Token}
    (h : readToken? cs = some (t, rest)) : t.Fronts cs rest := by
  unfold readToken? at h
  split at h
  case h_10 =>
    obtain ⟨⟨pieces, r⟩, hpieces, heq⟩ := Option.map_eq_some_iff.1 h
    obtain ⟨rfl, rfl⟩ := Prod.mk.inj heq
    exact fronts_of_readPieces? hpieces
  case h_11 => exact fronts_of_readNumber? h
  -- All other tokens have one spelling.
  all_goals
    cases h
    exact ⟨List.cons_ne_nil _ _, rfl⟩

/-- A token that is read leaves a shorter text. -/
theorem length_lt_of_readToken? {cs rest : List Char} {t : Token}
    (h : readToken? cs = some (t, rest)) : rest.length < cs.length := by
  obtain ⟨hne, rfl⟩ := fronts_of_readToken? h
  have hpos := List.length_pos_iff.2 hne
  rw [List.length_append]
  omega

/-- The tokens of a text. -/
def tokens (cs : List Char) : List Token :=
  match cs with
  | [] => []
  | c :: rest =>
    if isBlank c then tokens rest
    else
      match _h : readToken? (c :: rest) with
      | some (t, left) => t :: tokens left
      | none => [.unreadable]
termination_by cs.length
decreasing_by
  · simp
  · exact length_lt_of_readToken? _h

end RelayCollections.Json
