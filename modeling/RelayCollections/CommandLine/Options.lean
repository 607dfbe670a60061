namespace RelayCollections.CommandLine

/-!
# Options

What a command line asks for. Each option may be given once, and one argument that is no
option names the schema. `Options.ofArguments?` is none for a command line that is not
well formed.
-/

/-- What a command line asks for. -/
structure Options where
  /-- The schema file. -/
  schema : String := "schema.graphql"
  /-- The configuration file. -/
  config : Option String := none
  /-- The schema is a syntax tree in JSON. -/
  isTree : Bool := false
  /-- The output is indented. -/
  isIndented : Bool := false
  /-- The output file. -/
  output : Option String := none
  deriving DecidableEq, Repr

/-- What has been given so far. -/
structure Given where
  schema : Option String := none
  config : Option String := none
  isTree : Bool := false
  isIndented : Bool := false
  output : Option String := none

namespace Given

/-- The schema file, if none was given before. A path is not empty. -/
def withSchema (g : Given) (path : String) : Option Given :=
  if g.schema.isNone ∧ path ≠ "" then some { g with schema := some path } else none

/-- The configuration file, if none was given before. -/
def withConfig (g : Given) (path : String) : Option Given :=
  if g.config.isNone ∧ path ≠ "" then some { g with config := some path } else none

/-- The output file, if none was given before. -/
def withOutput (g : Given) (path : String) : Option Given :=
  if g.output.isNone ∧ path ≠ "" then some { g with output := some path } else none

/-- The schema is a tree, if that was not said before. -/
def withTree (g : Given) : Option Given :=
  if g.isTree then none else some { g with isTree := true }

/-- The output is indented, if that was not said before. -/
def withIndented (g : Given) : Option Given :=
  if g.isIndented then none else some { g with isIndented := true }

/-- The options that were given, with defaults for the others. -/
def toOptions (g : Given) : Options where
  schema := g.schema.getD "schema.graphql"
  config := g.config
  isTree := g.isTree
  isIndented := g.isIndented
  output := g.output

end Given

/-! ### Arguments -/

/-- The rest of `text` behind `start`. -/
def behind? (start text : String) : Option String :=
  if start.toList.isPrefixOf text.toList then
    some (String.ofList (text.toList.drop start.toList.length))
  else none

/-- An argument that looks like an option: a dash with something behind it. -/
def looksLikeOption (argument : String) : Bool :=
  (behind? "-" argument).any (· ≠ "")

/-- The value joined to a short option, with or without an equals sign between them. -/
def joinedValue (text : String) : String :=
  (behind? "=" text).getD text

/-- An argument that is complete in itself. -/
def readSingle (g : Given) (argument : String) : Option Given :=
  if argument = "--json-ast" then g.withTree
  else if argument = "--pretty" then g.withIndented
  else
    match behind? "--config=" argument with
    | some path => g.withConfig path
    | none =>
      match behind? "--output=" argument with
      | some path => g.withOutput path
      | none =>
        match behind? "-o" argument with
        | some joined => g.withOutput (joinedValue joined)
        | none => if looksLikeOption argument then none else g.withSchema argument

/-- Reads arguments behind `--`, none of which is an option. -/
def readPlain : Given → List String → Option Given
  | g, [] => some g
  | g, argument :: rest => do readPlain (← g.withSchema argument) rest

/-- The options whose value may be the next argument, and what the value is for. -/
def valueOption? : String → Option (Given → String → Option Given)
  | "--config" => some Given.withConfig
  | "--output" => some Given.withOutput
  | "-o" => some Given.withOutput
  | _ => none

/-- Reads arguments. A value that stands apart from its option must not look like an
    option. -/
def readArguments : Given → List String → Option Given
  | g, [] => some g
  | g, argument :: rest =>
    if argument = "--" then readPlain g rest
    else
      match valueOption? argument, rest with
      | some give, value :: rest =>
        if looksLikeOption value then none else do readArguments (← give g value) rest
      | some _, [] => none
      | none, rest => do readArguments (← readSingle g argument) rest

/-- The options of a command line. -/
def Options.ofArguments? (arguments : List String) : Option Options :=
  (readArguments {} arguments).map Given.toOptions

end RelayCollections.CommandLine
