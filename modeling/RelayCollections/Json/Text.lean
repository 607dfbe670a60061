import RelayCollections.Numeral

namespace RelayCollections.Json

/-!
# The inside of a JSON string

Between its quotes a JSON string is a list of pieces, each standing for a character or
for one 16-bit unit of it. This file fixes which pieces there are, how they are written,
what a list of them means, and which pieces this library writes.

* `Piece.text` — a piece as it is written;
* `decode?` — the string that pieces mean, if their 16-bit units pair up;
* `encode` — the pieces written for a string;
* `readPieces?` — the pieces up to the closing quote.
-/

/-- One written piece of a JSON string. -/
inductive Piece where
  /-- A character that stands for itself. -/
  | plain (c : Char)
  /-- A backslash and one of the letters of `escapeLetters`. -/
  | short (letter : Char)
  /-- `\u` and four hexadecimal digits: a 16-bit unit. -/
  | unit (a b c d : Char)
  deriving DecidableEq, Repr

/-- The letters that may follow a backslash, each with the character it stands for. -/
def escapeLetters : List (Char × Char) :=
  [('"', '"'), ('\\', '\\'), ('/', '/'), ('b', '\x08'), ('f', '\x0c'), ('n', '\n'),
    ('r', '\r'), ('t', '\t')]

/-- A piece as it is written. -/
def Piece.text : Piece → List Char
  | .plain c => [c]
  | .short letter => ['\\', letter]
  | .unit a b c d => ['\\', 'u', a, b, c, d]

/-! ### Meaning -/

/-- Units of the first half of a pair. -/
def isLeadingUnit (n : Nat) : Bool := 0xD800 ≤ n && n ≤ 0xDBFF

/-- Units of the second half of a pair. -/
def isTrailingUnit (n : Nat) : Bool := 0xDC00 ≤ n && n ≤ 0xDFFF

/-- The character of a pair of units. -/
def pairedChar (leading trailing : Nat) : Char :=
  Char.ofNat (0x10000 + (leading - 0xD800) * 0x400 + (trailing - 0xDC00))

/-- The characters that pieces stand for. A unit of a pair must have its partner
    directly beside it. -/
def decodeChars? : List Piece → Option (List Char)
  | [] => some []
  | .plain c :: rest => (decodeChars? rest).map (c :: ·)
  | .short letter :: rest => do
    let c ← escapeLetters.lookup letter
    return c :: (← decodeChars? rest)
  | .unit a b c d :: rest => do
    let n ← Numeral.ofHexDigits? [a, b, c, d]
    if isTrailingUnit n then none
    else if isLeadingUnit n then
      match rest with
      | .unit a' b' c' d' :: rest' =>
        let m ← Numeral.ofHexDigits? [a', b', c', d']
        if isTrailingUnit m then
          return pairedChar n m :: (← decodeChars? rest')
        else none
      | _ => none
    else return Char.ofNat n :: (← decodeChars? rest)

/-- The string that pieces mean. -/
def decode? (pieces : List Piece) : Option String :=
  (decodeChars? pieces).map String.ofList

/-! ### Writing -/

/-- The lower-case digit of a value below sixteen. -/
def hexDigit (n : Nat) : Char :=
  if n < 10 then Char.ofNat ('0'.toNat + n) else Char.ofNat ('a'.toNat + n - 10)

/-- The piece written for a character: quotes, backslashes and control characters are
    escaped, by a letter where there is one, and nothing else is. -/
def Piece.ofChar (c : Char) : Piece :=
  if c = '"' then .short '"'
  else if c = '\\' then .short '\\'
  else if c = '\x08' then .short 'b'
  else if c = '\x0c' then .short 'f'
  else if c = '\n' then .short 'n'
  else if c = '\r' then .short 'r'
  else if c = '\t' then .short 't'
  else if c.toNat < 0x20 then .unit '0' '0' (hexDigit (c.toNat / 16)) (hexDigit (c.toNat % 16))
  else .plain c

/-- The pieces written for a string. -/
def encode (s : String) : List Piece :=
  s.toList.map Piece.ofChar

/-! ### Reading -/

/-- Four hexadecimal digits make a unit. -/
def unit? (a b c d : Char) : Option Piece :=
  if (Numeral.ofHexDigits? [a, b, c, d]).isSome then some (.unit a b c d) else none

/-- A letter after a backslash. -/
def short? (letter : Char) : Option Piece :=
  if (escapeLetters.lookup letter).isSome then some (.short letter) else none

/-- A character that may stand for itself. -/
def plain? (c : Char) : Option Piece :=
  if c = '\\' ∨ c.toNat < 0x20 then none else some (.plain c)

/-- The pieces up to the closing quote, and the text after it. -/
def readPieces? : List Char → Option (List Piece × List Char)
  | [] => none
  | '"' :: cs => some ([], cs)
  | '\\' :: 'u' :: a :: b :: c :: d :: cs => do
    let piece ← unit? a b c d
    let (pieces, rest) ← readPieces? cs
    return (piece :: pieces, rest)
  | '\\' :: letter :: cs => do
    let piece ← short? letter
    let (pieces, rest) ← readPieces? cs
    return (piece :: pieces, rest)
  | c :: cs => do
    let piece ← plain? c
    let (pieces, rest) ← readPieces? cs
    return (piece :: pieces, rest)

/-- What is read is the text: the pieces as written, the closing quote, the rest. -/
theorem eq_of_readPieces? {cs : List Char} {pieces : List Piece} {rest : List Char}
    (h : readPieces? cs = some (pieces, rest)) :
    cs = pieces.flatMap Piece.text ++ '"' :: rest := by
  fun_induction readPieces? cs generalizing pieces with
  | case1 => simp at h
  | case2 cs => simp_all
  | case3 a b c d cs ih =>
    simp only [unit?, Option.bind_eq_bind, Option.bind_eq_some_iff, Option.pure_def,
      Option.some.injEq, Prod.mk.injEq, Prod.exists] at h
    obtain ⟨piece, hp, ps, r, hr, rfl, rfl⟩ := h
    split at hp <;> simp at hp
    subst hp
    simp [Piece.text, ← ih hr]
  | case4 letter cs _ ih =>
    simp only [short?, Option.bind_eq_bind, Option.bind_eq_some_iff, Option.pure_def,
      Option.some.injEq, Prod.mk.injEq, Prod.exists] at h
    obtain ⟨piece, hp, ps, r, hr, rfl, rfl⟩ := h
    split at hp <;> simp at hp
    subst hp
    simp [Piece.text, ← ih hr]
  | case5 c cs _ _ _ ih =>
    simp only [plain?, Option.bind_eq_bind, Option.bind_eq_some_iff, Option.pure_def,
      Option.some.injEq, Prod.mk.injEq, Prod.exists] at h
    obtain ⟨piece, hp, ps, r, hr, rfl, rfl⟩ := h
    split at hp <;> simp at hp
    subst hp
    simp [Piece.text, ← ih hr]

end RelayCollections.Json
