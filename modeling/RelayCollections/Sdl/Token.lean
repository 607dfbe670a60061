import RelayCollections.Numeral

namespace RelayCollections.Sdl

/-!
# Tokens of the schema language

A token keeps its spelling, so `Token.text` writes back what was read. Numbers and
strings have a shape by which they are told from other tokens, and further conditions
that count only where they are used as a description or a value.

* `Mark`, `Token` — punctuation and tokens, with their spelling `text`;
* `isNumber` — the shape of numbers;
* `Token.isUsable` — the token can be used as a description or a value.
-/

/-- A punctuation mark. -/
inductive Mark where
  | openParen
  | closeParen
  | openBracket
  | closeBracket
  | openBrace
  | closeBrace
  | bang
  | dollar
  | colon
  | equals
  | atSign
  | bar
  | ampersand
  | spread
  deriving DecidableEq, Repr

namespace Mark

/-- A mark as it is written. -/
def text : Mark → List Char
  | openParen => ['(']
  | closeParen => [')']
  | openBracket => ['[']
  | closeBracket => [']']
  | openBrace => ['\x7b']
  | closeBrace => ['\x7d']
  | bang => ['!']
  | dollar => ['$']
  | colon => [':']
  | equals => ['=']
  | atSign => ['@']
  | bar => ['|']
  | ampersand => ['&']
  | spread => ['.', '.', '.']

/-- The mark of a single character. -/
def ofChar? : Char → Option Mark
  | '(' => some openParen
  | ')' => some closeParen
  | '[' => some openBracket
  | ']' => some closeBracket
  | '\x7b' => some openBrace
  | '\x7d' => some closeBrace
  | '!' => some bang
  | '$' => some dollar
  | ':' => some colon
  | '=' => some equals
  | '@' => some atSign
  | '|' => some bar
  | '&' => some ampersand
  | _ => none

/-- The mark opens a bracket. -/
def opens : Mark → Bool
  | openParen | openBracket | openBrace => true
  | _ => false

/-- The mark closes a bracket. -/
def closes : Mark → Bool
  | closeParen | closeBracket | closeBrace => true
  | _ => false

/-- A mark of one character is found by it. -/
theorem text_of_ofChar? {c : Char} {m : Mark} (h : ofChar? c = some m) : m.text = [c] := by
  revert h
  unfold ofChar?
  split <;> intro h <;> cases h <;> rfl

end Mark

/-- A token. -/
inductive Token where
  | mark (m : Mark)
  | name (text : String)
  | number (text : List Char)
  /-- A string between single quotation marks, without them. -/
  | quoted (body : List Char)
  /-- A string between triple quotation marks, without them. -/
  | block (body : List Char)
  /-- What fits nowhere: no token can be read, or too many brackets are open. -/
  | unreadable
  deriving DecidableEq, Repr

/-- A token as it is written. -/
def Token.text : Token → List Char
  | .mark m => m.text
  | .name text => text.toList
  | .number text => text
  | .quoted body => '"' :: (body ++ ['"'])
  | .block body => '"' :: '"' :: '"' :: (body ++ ['"', '"', '"'])
  | .unreadable => []

/-! ### Shapes -/

/-- Names start with a letter or an underscore. -/
def isNameStart (c : Char) : Bool :=
  c == '_' || c.isAlpha

/-- Names go on with letters, digits and underscores. -/
def isNameChar (c : Char) : Bool :=
  c == '_' || c.isAlphanum

/-- The characters at which a number ends. -/
def endsNumber (c : Char) : Bool :=
  [' ', '\n', '\r', '\t', ',', '#', '!', '$', ':', '=', '@', '|', '&', '(', ')', '[', ']',
    '\x7b', '\x7d'].contains c

/-- The characters that make a number a fraction. -/
def marksFraction (c : Char) : Bool :=
  c == '.' || c == 'e' || c == 'E'

/-- The text after an optional exponent. An exponent with a sign may lack its digits; one
    without a sign starts with a digit from 1 to 8. -/
def afterExponent? : List Char → Option (List Char)
  | [] => some []
  | c :: cs =>
    if c = 'e' ∨ c = 'E' then
      match cs with
      | '+' :: ds => some (ds.dropWhile Char.isDigit)
      | '-' :: ds => some (ds.dropWhile Char.isDigit)
      | d :: ds => if '1' ≤ d ∧ d ≤ '8' then some (ds.dropWhile Char.isDigit) else none
      | [] => none
    else some (c :: cs)

/-- The number is a whole one: nothing after its first character makes it a fraction. -/
def isWhole (text : List Char) : Bool :=
  !(text.drop 1).any marksFraction

/-- The shape of numbers. -/
def isNumber (text : List Char) : Bool :=
  if isWhole text then Numeral.afterInteger? text == some []
  else
    (do afterExponent? (← Numeral.afterFraction? (← Numeral.afterInteger? text))) == some []

/-! ### Use -/

/-- The value of decimal digits, the most significant first. -/
def ofDigits (digits : List Char) : Nat :=
  digits.foldl (fun n c => 10 * n + (c.toNat - '0'.toNat)) 0

/-- The least number that is too large for 64 bits with a sign. -/
def wordBound : Nat := 0x8000000000000000

/-- A whole number must fit into 64 bits with a sign. -/
def fitsWord : List Char → Bool
  | '-' :: digits => ofDigits digits ≤ wordBound
  | digits => ofDigits digits < wordBound

/-- A number that can be used: a whole one must fit, and an exponent must have digits. -/
def isUsableNumber (text : List Char) : Bool :=
  if isWhole text then fitsWord text
  else text.getLast? != some '+' && text.getLast? != some '-'

/-- The value of four characters after `\u`, the first of which may be a plus sign. -/
def unitValue? (a b c d : Char) : Option Nat :=
  if a = '+' then Numeral.ofHexDigits? [b, c, d] else Numeral.ofHexDigits? [a, b, c, d]

/-- Every backslash in a string starts an escape: a letter, or `\u` and the value of a
    character. Halves of pairs are no characters. -/
def hasUsableEscapes : List Char → Bool
  | [] => true
  | '\\' :: 'u' :: a :: b :: c :: d :: rest =>
    match unitValue? a b c d with
    | some n => n.isValidChar && hasUsableEscapes rest
    | none => false
  | '\\' :: letter :: rest =>
    ['"', '\\', '/', 'b', 'f', 'n', 'r', 't'].contains letter && hasUsableEscapes rest
  | c :: rest => c != '\\' && hasUsableEscapes rest

/-- The token can be used where its kind can. -/
def Token.isUsable : Token → Bool
  | .number text => isUsableNumber text
  | .quoted body => hasUsableEscapes body
  | .unreadable => false
  | _ => true

end RelayCollections.Sdl
