import RelayCollections.CommandLine.Options
import RelayCollections.Files.Access
import RelayCollections.Source

namespace RelayCollections.CommandLine

/-!
# The program

What a command line does: it loads the configuration, reads the schema, compiles it and
writes the collections, in this order. The first stage that fails ends the program; the
only stage that changes a file is the last.

* `loadConfig` — the configuration in a file;
* `StageFailure` — which stage failed, with its wording;
* `run` — the outcome of a command line.
-/

open Files (Access)

/-- Which stage failed, on which file, and why. -/
inductive StageFailure where
  | configuration (path : String) (failure : Failure)
  | reading (path : String) (fault : Files.Fault)
  | compiling (path : String) (failure : Failure)
  | writing (path : String) (fault : Files.Fault)
  deriving DecidableEq, Repr

/-- The causes below a failure, each worded after it. -/
def causes : Failure → List String
  | .file _ fault => [fault.message]
  | _ => []

/-- A failure with the causes below it. -/
def chain (failure : Failure) : String :=
  ": ".intercalate (failure.message :: causes failure)

/-- The wording of a failed stage. -/
def StageFailure.message : StageFailure → String
  | .configuration path failure =>
    "Failed to load configuration " ++ path ++ ": " ++ chain failure
  | .reading path fault => "Failed to read schema " ++ path ++ ": " ++ fault.message
  | .compiling path failure => "Failed to compile " ++ path ++ ": " ++ chain failure
  | .writing path fault => "Failed to write " ++ path ++ ": " ++ fault.message

/-- What a program leaves behind besides files. -/
structure Outcome where
  /-- Zero after success, one after a failed stage, two after an ill-formed command
      line. -/
  code : UInt32
  stdout : String := ""
  stderr : String := ""
  /-- What happened while the schema was compiled. -/
  events : List Event := []

/-- The outcome of a failed stage. -/
def StageFailure.outcome (failure : StageFailure) (events : List Event) : Outcome where
  code := 1
  stderr := "Error: " ++ failure.message ++ "\n"
  events := events

/-- The outcome of an ill-formed command line. -/
def usage : Outcome where
  code := 2
  stderr := "error: the arguments are not well formed\n"

/-- The configuration in a file. -/
def loadConfig [Monad m] (files : Access m) (path : String) : m (Except Failure Config) := do
  match ← files.read path with
  | .error fault => return .error (.file path fault)
  | .ok text => return (Config.ofText text).mapError .config

/-- The configuration that options ask for. -/
def Options.loadConfig [Monad m] (files : Access m) (o : Options) :
    m (Except StageFailure Config) := do
  match o.config with
  | none => return .ok {}
  | some path => return (← CommandLine.loadConfig files path).mapError (.configuration path)

/-- The form of the schema that options ask for. -/
def Options.form (o : Options) : SourceForm :=
  if o.isTree then .syntaxTree else .schemaText

/-- The text of collections that options ask for. -/
def Options.render (o : Options) (collections : List Collection) : String :=
  let json := Collection.listToJson collections
  (if o.isIndented then json.indented else json.compact) ++ "\n"

/-- Writes a text to where options ask for it. -/
def Options.deliver [Monad m] (files : Access m) (o : Options) (text : String)
    (events : List Event) : m Outcome := do
  match o.output with
  | none => return { code := 0, stdout := text, events }
  | some path =>
    match ← files.write path text with
    | .ok () => return { code := 0, events }
    | .error fault => return (StageFailure.writing path fault).outcome events

/-- Does what options ask for. -/
def Options.run [Monad m] (files : Access m) (o : Options) : m Outcome := do
  match ← o.loadConfig files with
  | .error failure => return failure.outcome []
  | .ok config =>
    match ← files.read o.schema with
    | .error fault => return (StageFailure.reading o.schema fault).outcome []
    | .ok source =>
      let compiled := compileSource o.form source config
      match compiled.outcome with
      | .error failure =>
        return (StageFailure.compiling o.schema failure).outcome compiled.events
      | .ok collections => o.deliver files (o.render collections) compiled.events

/-- The outcome of a command line. -/
def run [Monad m] (files : Access m) (arguments : List String) : m Outcome :=
  match Options.ofArguments? arguments with
  | none => return usage
  | some options => options.run files

end RelayCollections.CommandLine
