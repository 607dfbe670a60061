namespace RelayCollections.Json

/-!
# Faults of a JSON text

What can be wrong with a JSON text that is read as a value of a known shape. Faults in
the members of a record are told apart; all other faults are one.
-/

/-- Why a JSON text is not a value of the wanted shape. -/
inductive Fault where
  /-- Not JSON, of a wrong type or length, or nested too deeply. -/
  | malformed
  /-- A record lacks a member that it must have. -/
  | missingField (key : String)
  /-- A record has a member twice. -/
  | duplicateField (key : String)
  /-- A record that admits only `expected` has another member. -/
  | unknownField (key : String) (expected : List String)
  /-- A name is none of the `expected` ones. -/
  | unknownVariant (name : String) (expected : List String)
  deriving DecidableEq, Repr

/-- A name between backquotes. -/
def quoted (name : String) : String :=
  "`" ++ name ++ "`"

/-- The names that were expected, as part of a sentence. -/
def expectation : List String → String
  | [] => "there are none"
  | [a] => "expected " ++ quoted a
  | [a, b] => "expected " ++ quoted a ++ " or " ++ quoted b
  | names => "expected one of " ++ ", ".intercalate (names.map quoted)

/-- The wording of a fault; a malformed text has none. -/
def Fault.message? : Fault → Option String
  | .malformed => none
  | .missingField key => some ("missing field " ++ quoted key)
  | .duplicateField key => some ("duplicate field " ++ quoted key)
  | .unknownField key expected =>
    some ("unknown field " ++ quoted key ++ ", " ++ expectation expected)
  | .unknownVariant name expected =>
    some ("unknown variant " ++ quoted name ++ ", " ++ expectation expected)

end RelayCollections.Json
