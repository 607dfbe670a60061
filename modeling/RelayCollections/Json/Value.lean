import RelayCollections.Json.Token

namespace RelayCollections.Json

/-!
# JSON values and their texts

The values this library writes, none of which holds a number, and the two layouts it
writes them in. Both layouts are layouts of the same tokens: they differ in the white
space between tokens alone.

* `Value` — a value; objects keep the order and the repeats of their members;
* `Value.tokens` — the tokens of a value;
* `Value.compact` — the tokens with nothing between them;
* `Value.indented` — one item or member on a line, two blanks for each level.
-/

/-- A JSON value without numbers. -/
inductive Value where
  | null
  | bool (b : Bool)
  | string (s : String)
  | array (items : List Value)
  | object (members : List (String × Value))

/-! ### Tokens -/

mutual

/-- The tokens of a value. -/
def Value.tokens : Value → List Token
  | .null => [.null]
  | .bool b => [.bool b]
  | .string s => [.string (encode s)]
  | .array items => .openArray :: (itemTokens items ++ [.closeArray])
  | .object members => .openObject :: (memberTokens members ++ [.closeObject])

/-- The tokens of items with commas between them. -/
def itemTokens : List Value → List Token
  | [] => []
  | [item] => item.tokens
  | item :: rest => item.tokens ++ .comma :: itemTokens rest

/-- The tokens of members with commas between them. -/
def memberTokens : List (String × Value) → List Token
  | [] => []
  | [(key, value)] => .string (encode key) :: .colon :: value.tokens
  | (key, value) :: rest =>
    .string (encode key) :: .colon :: (value.tokens ++ .comma :: memberTokens rest)

end

/-! ### Layouts -/

/-- The token opens an array or an object. -/
def Token.opens : Token → Bool
  | .openArray | .openObject => true
  | _ => false

/-- The token closes an array or an object. -/
def Token.closes : Token → Bool
  | .closeArray | .closeObject => true
  | _ => false

/-- A new line at a level. -/
def newLine (level : Nat) : List Char :=
  '\n' :: List.replicate (2 * level) ' '

/-- The level after a token. -/
def levelAfter (level : Nat) (t : Token) : Nat :=
  if t.opens then level + 1 else if t.closes then level - 1 else level

/-- The white space between two neighbouring tokens, the first of which leads to
    `level`. What is empty stays on one line. -/
def gap (level : Nat) (t next : Token) : List Char :=
  if t.opens then if next.closes then [] else newLine level
  else if t = .comma then newLine level
  else if t = .colon then [' ']
  else if next.closes then newLine (level - 1)
  else []

/-- Tokens laid out from a level on. -/
def indentedFrom (level : Nat) : List Token → List Char
  | [] => []
  | [t] => t.text
  | t :: next :: rest =>
    t.text ++ gap (levelAfter level t) t next ++ indentedFrom (levelAfter level t) (next :: rest)

/-- The text of a value without any white space. -/
def Value.compact (v : Value) : String :=
  String.ofList (v.tokens.flatMap Token.text)

/-- The text of a value with one item or member on a line. -/
def Value.indented (v : Value) : String :=
  String.ofList (indentedFrom 0 v.tokens)

end RelayCollections.Json
