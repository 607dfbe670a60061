namespace RelayCollections.Sdl

/-!
# Positions in a schema text
-/

/-- A place in a text. Lines and columns count from one. -/
structure Position where
  line : Nat := 1
  column : Nat := 1
  deriving DecidableEq, Repr

/-- A position as it is shown. -/
def Position.text (p : Position) : String :=
  toString p.line ++ ":" ++ toString p.column

end RelayCollections.Sdl
