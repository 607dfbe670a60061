namespace RelayCollections.Numeral

/-!
# Numerals

Parts of written numbers that several formats share. A part is described by what is
left of the text after it: the sign and whole part `-?(0|[1-9][0-9]*)`, a fraction
`(\.[0-9]+)?`, and hexadecimal digits.
-/

/-- The text after a run of digits; none if there is no digit in front. -/
def afterDigits? : List Char → Option (List Char)
  | [] => none
  | c :: cs => if c.isDigit then some (cs.dropWhile Char.isDigit) else none

/-- The text after a whole number. A whole number has no leading zero. -/
def afterNatural? : List Char → Option (List Char)
  | '0' :: cs => some cs
  | cs => afterDigits? cs

/-- The text after an optional minus sign and a whole number. -/
def afterInteger? : List Char → Option (List Char)
  | '-' :: cs => afterNatural? cs
  | cs => afterNatural? cs

/-- The text after an optional fraction; none if a point has no digit behind it. -/
def afterFraction? : List Char → Option (List Char)
  | '.' :: cs => afterDigits? cs
  | cs => some cs

/-- The value of a hexadecimal digit, in either case. -/
def hexDigit? (c : Char) : Option Nat :=
  if c.isDigit then some (c.toNat - '0'.toNat)
  else if 'a' ≤ c ∧ c ≤ 'f' then some (c.toNat - 'a'.toNat + 10)
  else if 'A' ≤ c ∧ c ≤ 'F' then some (c.toNat - 'A'.toNat + 10)
  else none

/-- The value of a run of hexadecimal digits, the most significant first. -/
def ofHexDigits? (digits : List Char) : Option Nat :=
  digits.foldlM (fun n c => (hexDigit? c).map (16 * n + ·)) 0

end RelayCollections.Numeral
