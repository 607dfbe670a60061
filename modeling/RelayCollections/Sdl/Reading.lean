import RelayCollections.Run
import RelayCollections.Sdl.Grammar
import RelayCollections.Sdl.Lexeme

namespace RelayCollections.Sdl

/-!
# Reading schema texts

A schema text is taken apart into lexemes; the tokens among them are read by the grammar.

* `limitNesting` — too many open brackets are unreadable;
* `declarationsOfText` — the declarations of a text, or the first place that does not fit;
* `parseSchema` — the document of a text; `outcome_parseSchema` — when it has one.
-/

/-- How many brackets may be open at once. -/
def bracketLimit : Nat := 50

/-- The token opens a bracket. -/
def Token.opens : Token → Bool
  | .mark m => m.opens
  | _ => false

/-- The token closes a bracket. -/
def Token.closes : Token → Bool
  | .mark m => m.closes
  | _ => false

/-- Tokens up to the first bracket that is one too many, given how many are open. -/
def limitNesting (openBrackets : Nat) : List Token → List Token
  | [] => []
  | t :: ts =>
    if t.opens then
      if openBrackets < bracketLimit then t :: limitNesting (openBrackets + 1) ts
      else [.unreadable]
    else if t.closes then t :: limitNesting (openBrackets - 1) ts
    else t :: limitNesting openBrackets ts

/-- The tokens of a text. -/
def tokens (text : String) : List Token :=
  limitNesting 0 ((lexemes text.toList).filterMap Lexeme.token?)

/-- The position of a text where some of its tokens are left. -/
def positionOf (text : String) (left : Nat) : Position :=
  (positions {} (lexemes text.toList)).getD ((tokens text).length - left) {}

/-- The declarations of a text, or the first place that does not fit. -/
def declarationsOfText (text : String) : Except Position (List Declaration) :=
  match declarations (tokens text) with
  | .ok (ds, _) => .ok ds
  | .error left => .error (positionOf text left)

/-- The document of a schema text. -/
def parseSchema (text : String) : Run Document := do
  let ds ← .ofExcept ((declarationsOfText text).mapError .schemaText)
  let d := toDocument ds
  .tell [.readText d.definitions.length]
  return d

/-- A schema text is read as the document of its declarations. -/
theorem outcome_parseSchema {text : String} {d : Document} :
    (parseSchema text).outcome = .ok d
      ↔ ∃ ds, declarationsOfText text = .ok ds ∧ toDocument ds = d := by
  rw [parseSchema]
  cases hds : declarationsOfText text with
  | error position =>
    show (Except.error (.schemaText position) : Except Failure Document) = .ok d ↔ _
    simp
  | ok ds =>
    show (Except.ok (toDocument ds) : Except Failure Document) = .ok d ↔ _
    simp

end RelayCollections.Sdl
