import RelayCollections.CommandLine.Program
import RelayCollections.Proofs.Files.Writing

namespace RelayCollections.CommandLine

/-!
# The program, stage by stage

What a command line does in a directory, said of the stages and of the directory as it was
in the beginning. Each stage is a question to that directory, so the first stage that fails
is known whatever the later ones would do; and nothing is written before all have passed.

* `Options.Loads`, `Options.Compiles`, `Options.Produces` — what the stages before the last
  come to;
* `Options.FirstFailure`, `StageFailure.Says` — the first stage that fails, and what is told of
  it;
* `Options.Delivers` — where the text of the collections goes;
* `run_allOrNothing` — a command line does all of this or nothing.
-/

open Files (Directory)

namespace Options

/-! ### Stages -/

/-- The configuration in a directory: the default one where options name no file. -/
def Loads (o : Options) (d : Directory) (config : Config) : Prop :=
  match o.config with
  | none => config = {}
  | some path => ∃ text, d.read path = .ok text ∧ Config.ofText text = .ok config

/-- What compilation makes of a source, which is a syntax tree if options say so, and else text
    in the schema language. -/
def Compiles (o : Options) (source : String) (config : Config)
    (outcome : Except Failure (List Collection)) : Prop :=
  (o.isTree = true → (compileSource .syntaxTree source config).outcome = outcome)
    ∧ (o.isTree = false → (compileSource .schemaText source config).outcome = outcome)

/-- The first stage that fails in a directory, and why. Only the stages before it matter. -/
inductive FirstFailure (o : Options) (d : Directory) : StageFailure → Prop where
  | missingConfig {path : String} {fault : Files.Fault} :
    o.config = some path → d.read path = .error fault →
      o.FirstFailure d (.configuration path (.file path fault))
  | faultyConfig {path text : String} {fault : Json.Fault} :
    o.config = some path → d.read path = .ok text → Config.ofText text = .error fault →
      o.FirstFailure d (.configuration path (.config fault))
  | reading {config : Config} {fault : Files.Fault} :
    o.Loads d config → d.read o.schema = .error fault →
      o.FirstFailure d (.reading o.schema fault)
  | compiling {config : Config} {source : String} {failure : Failure} :
    o.Loads d config → d.read o.schema = .ok source →
      o.Compiles source config (.error failure) →
        o.FirstFailure d (.compiling o.schema failure)
  | writing {config : Config} {source path : String} {cs : List Collection}
      {fault : Files.Fault} :
    o.Loads d config → d.read o.schema = .ok source → o.Compiles source config (.ok cs) →
      o.output = some path → d.write path (o.render cs) = .error fault →
        o.FirstFailure d (.writing path fault)

/-- The text that options ask for in a directory: the collections of the schema under the
    configuration, in one of the two layouts, and a new line. -/
def Produces (o : Options) (d : Directory) (text : String) : Prop :=
  ∃ config source cs, o.Loads d config ∧ d.read o.schema = .ok source
    ∧ o.Compiles source config (.ok cs)
    ∧ text = (if o.isIndented then (Collection.listToJson cs).indented
        else (Collection.listToJson cs).compact) ++ "\n"

/-- A text goes to the output or, as the whole content of it, to a file. -/
def Delivers (o : Options) (d after : Directory) (outcome : Outcome) (text : String) : Prop :=
  match o.output with
  | none => outcome.stdout = text ∧ after = d
  | some path => outcome.stdout = "" ∧ d.Wrote after path text ∧ after.read path = .ok text

end Options

/-- What is told of a failed stage: which stage it is, on which file, and why. -/
inductive StageFailure.Says : StageFailure → String → Prop where
  | configuration (path : String) (failure : Failure) :
    Says (.configuration path failure)
      ("Failed to load configuration " ++ path ++ ": " ++ chain failure)
  | reading (path : String) (fault : Files.Fault) :
    Says (.reading path fault) ("Failed to read schema " ++ path ++ ": " ++ fault.message)
  | compiling (path : String) (failure : Failure) :
    Says (.compiling path failure) ("Failed to compile " ++ path ++ ": " ++ chain failure)
  | writing (path : String) (fault : Files.Fault) :
    Says (.writing path fault) ("Failed to write " ++ path ++ ": " ++ fault.message)

/-- Each stage is told of in its own words. -/
theorem StageFailure.says_message (failure : StageFailure) : failure.Says failure.message := by
  cases failure with
  | configuration path failure => exact .configuration path failure
  | reading path fault => exact .reading path fault
  | compiling path failure => exact .compiling path failure
  | writing path fault => exact .writing path fault

/-! ### Runs in a directory -/

/-- What follows a step that has a result. -/
theorem run_bind_of_eq {x : StateM σ α} {next : α → StateM σ β} {s s' : σ} {a : α}
    (h : x.run s = (a, s')) : (x >>= next).run s = (next a).run s' := by
  rw [StateT.run_bind, h]
  rfl

/-- To read a file leaves the directory alone. -/
theorem run_read (d : Directory) (path : String) :
    (Directory.access.read path).run d = (d.read path, d) := rfl

/-- To write a file changes the directory if the file can be written. -/
theorem run_write (d : Directory) (path text : String) :
    (Directory.access.write path text).run d
      = match d.write path text with
        | .ok after => (.ok (), after)
        | .error fault => (.error fault, d) := by
  rw [Directory.access, run_bind_of_eq (StateT.run_get d)]
  cases d.write path text <;> rfl

/-- To load a configuration leaves the directory alone. -/
theorem run_loadConfig (d : Directory) (path : String) :
    (loadConfig Directory.access path).run d
      = (match d.read path with
        | .error fault => .error (.file path fault)
        | .ok text => (Config.ofText text).mapError .config, d) := by
  rw [loadConfig, run_bind_of_eq (run_read d path)]
  cases d.read path <;> rfl

namespace Options

variable {o : Options} {d : Directory}

/-- The form of the schema is what the options say it is. -/
theorem compiles_iff {source : String} {config : Config}
    {outcome : Except Failure (List Collection)} :
    o.Compiles source config outcome ↔ (compileSource o.form source config).outcome = outcome := by
  rw [Compiles, Options.form]
  cases o.isTree <;> simp

/-- Without a configuration file there is nothing to load. -/
theorem run_loadConfig_of_none (h : o.config = none) :
    (o.loadConfig Directory.access).run d = (.ok {}, d) := by
  rw [Options.loadConfig, h]
  rfl

/-- A configuration file is loaded or tells why it is not. -/
theorem run_loadConfig_of_some {path : String} (h : o.config = some path) :
    (o.loadConfig Directory.access).run d
      = (match d.read path with
        | .error fault => .error (.configuration path (.file path fault))
        | .ok text =>
          (Config.ofText text).mapError fun fault => .configuration path (.config fault), d) := by
  rw [Options.loadConfig, h]
  dsimp only
  rw [run_bind_of_eq (run_loadConfig d path)]
  cases d.read path with
  | error fault => rfl
  | ok text =>
    dsimp only
    cases Config.ofText text <;> rfl

/-- The configuration that options ask for is loaded. -/
theorem run_loadConfig_of_loads {config : Config} (h : o.Loads d config) :
    (o.loadConfig Directory.access).run d = (.ok config, d) := by
  unfold Loads at h
  cases ho : o.config with
  | none =>
    rw [ho] at h
    rw [run_loadConfig_of_none ho, h]
  | some path =>
    rw [ho] at h
    obtain ⟨text, hread, hconfig⟩ := h
    rw [run_loadConfig_of_some ho, hread]
    dsimp only
    rw [hconfig]
    rfl

/-- A program ends with the configuration if there is none. -/
theorem run_of_config_error {failure : StageFailure}
    (h : (o.loadConfig Directory.access).run d = (.error failure, d)) :
    (o.run Directory.access).run d = (failure.outcome [], d) := by
  rw [Options.run, run_bind_of_eq h]
  rfl

section

variable {config : Config} (hconfig : o.Loads d config)

include hconfig

/-- A program ends with the schema if there is none. -/
theorem run_of_read_error {fault : Files.Fault} (h : d.read o.schema = .error fault) :
    (o.run Directory.access).run d = ((StageFailure.reading o.schema fault).outcome [], d) := by
  rw [Options.run, run_bind_of_eq (run_loadConfig_of_loads hconfig)]
  dsimp only
  rw [run_bind_of_eq (run_read d o.schema), h]
  rfl

variable {source : String} (hsource : d.read o.schema = .ok source)

include hsource

/-- A program ends with the compilation if there are no collections. -/
theorem run_of_compile_error {failure : Failure} (h : o.Compiles source config (.error failure)) :
    (o.run Directory.access).run d
      = ((StageFailure.compiling o.schema failure).outcome
          (compileSource o.form source config).events, d) := by
  rw [Options.run, run_bind_of_eq (run_loadConfig_of_loads hconfig)]
  dsimp only
  rw [run_bind_of_eq (run_read d o.schema), hsource]
  dsimp only
  rw [compiles_iff.1 h]
  rfl

/-- Where there are collections, all that is left is to deliver them. -/
theorem run_of_compile_ok {cs : List Collection} (h : o.Compiles source config (.ok cs)) :
    (o.run Directory.access).run d
      = (o.deliver Directory.access (o.render cs)
          (compileSource o.form source config).events).run d := by
  rw [Options.run, run_bind_of_eq (run_loadConfig_of_loads hconfig)]
  dsimp only
  rw [run_bind_of_eq (run_read d o.schema), hsource]
  dsimp only
  rw [compiles_iff.1 h]

end

/-- Without an output file the text is printed. -/
theorem run_deliver_of_none (h : o.output = none) (text : String) (events : List Event) :
    (o.deliver Directory.access text events).run d
      = ({ code := 0, stdout := text, events }, d) := by
  rw [deliver, h]
  rfl

/-- A text that can be written is written. -/
theorem run_deliver_of_write {path text : String} {after : Directory} (h : o.output = some path)
    (hwrite : d.write path text = .ok after) (events : List Event) :
    (o.deliver Directory.access text events).run d = ({ code := 0, events }, after) := by
  have hrun : (Directory.access.write path text).run d = (.ok (), after) := by
    rw [run_write, hwrite]
  rw [deliver, h]
  dsimp only
  rw [run_bind_of_eq hrun]
  rfl

/-- A text that cannot be written leaves the directory alone. -/
theorem run_deliver_of_write_error {path text : String} {fault : Files.Fault}
    (h : o.output = some path) (hwrite : d.write path text = .error fault)
    (events : List Event) :
    (o.deliver Directory.access text events).run d
      = ((StageFailure.writing path fault).outcome events, d) := by
  have hrun : (Directory.access.write path text).run d = (.error fault, d) := by
    rw [run_write, hwrite]
  rw [deliver, h]
  dsimp only
  rw [run_bind_of_eq hrun]
  rfl

/-- A program ends with the first stage that fails, and leaves the directory alone. -/
theorem FirstFailure.run {failure : StageFailure} (h : o.FirstFailure d failure) :
    ∃ events, (o.run Directory.access).run d = (failure.outcome events, d) := by
  cases h with
  | missingConfig ho hread =>
    exact ⟨[], run_of_config_error (by rw [run_loadConfig_of_some ho, hread])⟩
  | faultyConfig ho hread htext =>
    refine ⟨[], run_of_config_error ?_⟩
    rw [run_loadConfig_of_some ho, hread]
    dsimp only
    rw [htext]
    rfl
  | reading hconfig hread => exact ⟨[], run_of_read_error hconfig hread⟩
  | compiling hconfig hread hcompile =>
    exact ⟨_, run_of_compile_error hconfig hread hcompile⟩
  | writing hconfig hread hcompile ho hwrite =>
    exact ⟨_, (run_of_compile_ok hconfig hread hcompile).trans
      (run_deliver_of_write_error ho hwrite _)⟩

/-- There is a configuration, or the first stage fails. -/
theorem exists_loads_or_firstFailure (o : Options) (d : Directory) :
    (∃ config, o.Loads d config) ∨ ∃ failure, o.FirstFailure d failure := by
  cases ho : o.config with
  | none => exact Or.inl ⟨{}, by rw [Loads, ho]⟩
  | some path =>
    cases hread : d.read path with
    | error fault => exact Or.inr ⟨_, .missingConfig ho hread⟩
    | ok text =>
      cases hconfig : Config.ofText text with
      | error fault => exact Or.inr ⟨_, .faultyConfig ho hread hconfig⟩
      | ok config =>
        refine Or.inl ⟨config, ?_⟩
        rw [Loads, ho]
        exact ⟨text, hread, hconfig⟩

/-- Where no stage fails, the text that is asked for goes where it should. -/
theorem exists_firstFailure_or_delivers (o : Options) (d : Directory) :
    (∃ failure, o.FirstFailure d failure)
      ∨ ∃ text outcome after, (o.run Directory.access).run d = (outcome, after)
        ∧ outcome.code = 0 ∧ o.Produces d text ∧ o.Delivers d after outcome text := by
  rcases o.exists_loads_or_firstFailure d with ⟨config, hconfig⟩ | hfails
  · cases hread : d.read o.schema with
    | error fault => exact Or.inl ⟨_, .reading hconfig hread⟩
    | ok source =>
      cases hcompile : (compileSource o.form source config).outcome with
      | error failure => exact Or.inl ⟨_, .compiling hconfig hread (compiles_iff.2 hcompile)⟩
      | ok cs =>
        have hcompiles : o.Compiles source config (.ok cs) := compiles_iff.2 hcompile
        have hrun := run_of_compile_ok hconfig hread hcompiles
        have hproduces : o.Produces d (o.render cs) :=
          ⟨config, source, cs, hconfig, hread, hcompiles, rfl⟩
        cases ho : o.output with
        | none =>
          refine Or.inr ⟨_, _, _, hrun.trans (run_deliver_of_none ho _ _), rfl, hproduces, ?_⟩
          rw [Delivers, ho]
          exact ⟨rfl, rfl⟩
        | some path =>
          cases hwrite : d.write path (o.render cs) with
          | error fault => exact Or.inl ⟨_, .writing hconfig hread hcompiles ho hwrite⟩
          | ok after =>
            refine Or.inr ⟨_, _, _, hrun.trans (run_deliver_of_write ho hwrite _), rfl,
              hproduces, ?_⟩
            rw [Delivers, ho]
            exact ⟨rfl, Directory.wrote_of_write hwrite, Directory.read_of_write hwrite⟩
  · exact Or.inl hfails

end Options

/-- **All or nothing.** A command line that does not succeed prints nothing and leaves every
    file as it was. If it is well formed it does not succeed iff some stage fails, and then
    it tells of the first one, in the words for this stage. If it succeeds, the text that it
    asks for is printed and no file changes, or the text becomes the content of the output
    file and no other changes, whatever that file was before. -/
theorem run_allOrNothing (arguments : List String) (d : Directory) :
    ∃ outcome after, (run Directory.access arguments).run d = (outcome, after)
      ∧ (outcome.code ≠ 0 → outcome.stdout = "" ∧ after = d)
      ∧ (∀ o, Options.ofArguments? arguments = some o →
        (∀ failure, o.FirstFailure d failure →
          outcome.code = 1 ∧ outcome.stderr = "Error: " ++ failure.message ++ "\n"
            ∧ failure.Says failure.message)
        ∧ (outcome.code ≠ 0 → ∃ failure, o.FirstFailure d failure))
      ∧ (outcome.code = 0 → ∃ o text, Options.ofArguments? arguments = some o
        ∧ o.Produces d text ∧ o.Delivers d after outcome text) := by
  cases ho : Options.ofArguments? arguments with
  | none =>
    refine ⟨usage, d, ?_, fun _ => ⟨rfl, rfl⟩, by simp, fun h => absurd h (by decide)⟩
    rw [run, ho]
    rfl
  | some o =>
    have hrun : run Directory.access arguments = o.run Directory.access := by
      rw [run, ho]
    rw [hrun]
    rcases o.exists_firstFailure_or_delivers d with
      ⟨failure, hfails⟩ | ⟨text, outcome, after, hdone, hcode, hproduces, hdelivers⟩
    · obtain ⟨events, hdone⟩ := hfails.run
      refine ⟨failure.outcome events, d, hdone, fun _ => ⟨rfl, rfl⟩, ?_,
        fun hcode => absurd hcode (show ¬ (1 : UInt32) = 0 by decide)⟩
      rintro o' ho'
      obtain rfl := Option.some.inj ho'
      refine ⟨fun failure' hfails' => ?_, fun _ => ⟨failure, hfails⟩⟩
      -- The same run ends with either failure, so both are told of alike.
      obtain ⟨events', hdone'⟩ := hfails'.run
      have houtcome : failure.outcome events = failure'.outcome events' :=
        congrArg Prod.fst (hdone.symm.trans hdone')
      rw [houtcome]
      exact ⟨rfl, rfl, failure'.says_message⟩
    · refine ⟨outcome, after, hdone, fun hcode' => absurd hcode hcode', ?_,
        fun _ => ⟨o, text, rfl, hproduces, hdelivers⟩⟩
      rintro o' ho'
      obtain rfl := Option.some.inj ho'
      refine ⟨fun failure hfails => ?_, fun hcode' => absurd hcode hcode'⟩
      obtain ⟨events, hdone'⟩ := hfails.run
      have houtcome : outcome = failure.outcome events :=
        congrArg Prod.fst (hdone.symm.trans hdone')
      rw [houtcome]
      exact ⟨rfl, rfl, failure.says_message⟩

/-- A schema with one node. -/
def userSchema : String := "type User implements Node\x7bid:ID!\x7d"

/-- A directory with that schema and nothing else. -/
def userDirectory : Directory where
  entries := [({ names := ["s"] }, .file userSchema.toUTF8)]

/-- The collections of that schema. -/
def userCollections : List Collection :=
  [{ name := "User", fields := [("id", { base := .primitive .objectId, required := true })] }]

/-- The path of the schema is one name. -/
private theorem parts_s : Directory.parts "s" = ["s"] := by
  rw [Directory.parts, String.splitOn, if_neg (by decide), String.splitOnAux.eq_1,
    if_neg (by decide), if_neg (by decide), String.splitOnAux.eq_1, if_pos (by decide)]
  rfl

/-- A text can be written at that path where no directory is. -/
private theorem write_s {d : Directory} (text : String)
    (h : d.find? (Files.Place.child {} "s") ≠ some .directory) :
    d.write "s" text = .ok (d.put { names := ["s"] } (.file text.toUTF8)) :=
  Directory.write_eq_ok_iff.2 ⟨{}, "s", Directory.locate_name parts_s (by decide) (by decide),
    Directory.endsInSlash_name parts_s (by decide), h, rfl⟩

/-- Any text can be written in the stead of the schema. -/
theorem write_userDirectory (text : String) :
    userDirectory.write "s" text
      = .ok (userDirectory.put { names := ["s"] } (.file text.toUTF8)) := by
  have hfound : userDirectory.find? (Files.Place.child {} "s")
      = some (.file userSchema.toUTF8) := rfl
  exact write_s text (by simp [hfound])

/-- The schema can be read. -/
theorem read_userDirectory : userDirectory.read "s" = .ok userSchema := by
  have hempty : ({} : Directory).find? (Files.Place.child {} "s") = none := rfl
  have hwrite : ({} : Directory).write "s" userSchema = .ok userDirectory :=
    write_s userSchema (by simp [hempty])
  exact Directory.read_of_write hwrite

/-- What options ask for that name the schema twice: once to read and once to write. -/
def ontoSchema : Options where
  schema := "s"
  output := some "s"

theorem compile_userSchema :
    (compileSource .schemaText userSchema {}).outcome = .ok userCollections := by
  decide +kernel

/-- Options that take the schema for a syntax tree. -/
def asTree : Options where
  schema := "s"
  isTree := true

/-- Options that take the schema for a configuration, and another file for the schema. -/
def astray : Options where
  schema := "a"
  config := some "s"

/-- No stage fails. -/
theorem not_firstFailure_ontoSchema (failure : StageFailure) :
    ¬ ontoSchema.FirstFailure userDirectory failure := by
  intro hfails
  cases hfails with
  | missingConfig ho => contradiction
  | faultyConfig ho => contradiction
  | reading _ hread =>
    rw [show ontoSchema.schema = "s" from rfl, read_userDirectory] at hread
    contradiction
  | compiling hconfig hread hcompile =>
    obtain rfl := hconfig
    rw [show ontoSchema.schema = "s" from rfl, read_userDirectory] at hread
    obtain rfl := Except.ok.inj hread
    have hfails := hcompile.2 rfl
    rw [compile_userSchema] at hfails
    contradiction
  | writing _ _ _ ho hwrite =>
    obtain rfl := Option.some.inj ho
    rw [write_userDirectory] at hwrite
    contradiction

/-- The schema is no syntax tree. -/
theorem firstFailure_asTree :
    asTree.FirstFailure userDirectory (.compiling "s" (.syntaxTree (.text .malformed))) := by
  refine .compiling rfl read_userDirectory ⟨fun _ => ?_, fun h => absurd h (by decide)⟩
  decide +kernel

/-- The schema is no configuration. -/
theorem ofText_userSchema : Config.ofText userSchema = .error .malformed := by
  have hfault : ((Config.ofText userSchema).map fun _ => ()) = .error .malformed := by
    decide +kernel
  cases hread : Config.ofText userSchema with
  | error fault =>
    rw [hread] at hfault
    exact congrArg Except.error (Except.error.inj hfault)
  | ok config =>
    rw [hread] at hfault
    contradiction

/-- The configuration comes first, so nothing is told of a schema that is not there. -/
theorem firstFailure_astray :
    astray.FirstFailure userDirectory (.configuration "s" (.config .malformed)) :=
  .faultyConfig rfl read_userDirectory ofText_userSchema

/-- The schema can be the output file: what was read of it is replaced at the end. Taken for a
    syntax tree or for a configuration it fails, and changes nothing. -/
theorem run_allOrNothing_ontoSchema :
    (∃ outcome after,
        (run Directory.access ["s", "-o", "s"]).run userDirectory = (outcome, after)
        ∧ outcome.code = 0 ∧ outcome.stdout = ""
        ∧ after.read "s" = .ok ((Collection.listToJson userCollections).compact ++ "\n"))
      ∧ (∃ outcome, (run Directory.access ["s", "--json-ast"]).run userDirectory
          = (outcome, userDirectory)
        ∧ outcome.code = 1
        ∧ outcome.stderr = "Error: Failed to compile s: JSON AST parse error: \n")
      ∧ ∃ outcome, (run Directory.access ["a", "--config", "s"]).run userDirectory
          = (outcome, userDirectory)
        ∧ outcome.code = 1
        ∧ outcome.stderr = "Error: Failed to load configuration s: Configuration error: \n" := by
  refine ⟨?_, ?_, ?_⟩
  · have hoptions : Options.ofArguments? ["s", "-o", "s"] = some ontoSchema := by decide
    obtain ⟨outcome, after, hrun, -, hvalid, hdone⟩ :=
      run_allOrNothing ["s", "-o", "s"] userDirectory
    have hcode : outcome.code = 0 := by
      refine Decidable.byContradiction fun hcode => ?_
      obtain ⟨failure, hfails⟩ := (hvalid _ hoptions).2 hcode
      exact not_firstFailure_ontoSchema failure hfails
    obtain ⟨o, text, ho, ⟨config, source, cs, hconfig, hread, hcompile, rfl⟩, hdelivers⟩ :=
      hdone hcode
    obtain rfl : ontoSchema = o := Option.some.inj (hoptions.symm.trans ho)
    obtain rfl := hconfig
    obtain rfl : userSchema = source := Except.ok.inj (read_userDirectory.symm.trans hread)
    obtain rfl : userCollections = cs :=
      Except.ok.inj (compile_userSchema.symm.trans (hcompile.2 rfl))
    exact ⟨outcome, after, hrun, hcode, hdelivers.1, hdelivers.2.2⟩
  · have hoptions : Options.ofArguments? ["s", "--json-ast"] = some asTree := by decide
    obtain ⟨outcome, after, hrun, hkept, hvalid, -⟩ :=
      run_allOrNothing ["s", "--json-ast"] userDirectory
    obtain ⟨hcode, hstderr, -⟩ := (hvalid _ hoptions).1 _ firstFailure_asTree
    obtain ⟨-, rfl⟩ := hkept (by rw [hcode]; decide)
    exact ⟨outcome, hrun, hcode, hstderr.trans (by decide)⟩
  · have hoptions : Options.ofArguments? ["a", "--config", "s"] = some astray := by decide
    obtain ⟨outcome, after, hrun, hkept, hvalid, -⟩ :=
      run_allOrNothing ["a", "--config", "s"] userDirectory
    obtain ⟨hcode, hstderr, -⟩ := (hvalid _ hoptions).1 _ firstFailure_astray
    obtain ⟨-, rfl⟩ := hkept (by rw [hcode]; decide)
    exact ⟨outcome, hrun, hcode, hstderr.trans (by decide)⟩

end RelayCollections.CommandLine
