import RelayCollections.CommandLine.Program

/-!
# The executable

The program on the files of the machine. Warnings go to the error output, one on a line.
-/

namespace RelayCollections.CommandLine

/-- The machine gives the number of an error with either sign. -/
def isErrorNumber (code number : UInt32) : Bool :=
  code == number || code + number == 0

/-- The fault that an error of the machine stands for. -/
def faultOfError : IO.Error → Files.Fault
  | .noFileOrDirectory .. => .notFound
  | .inappropriateType _ code reason =>
    if isErrorNumber code 21 then .isDirectory
    else if isErrorNumber code 20 then .notDirectory
    else .other reason
  | e => .other (toString e)

/-- The text of a file of the machine. -/
def readMachineFile (path : String) : IO (Except Files.Fault String) := do
  try
    match String.fromUTF8? (← IO.FS.readBinFile path) with
    | some text => return .ok text
    | none => return .error .notText
  catch e => return .error (faultOfError e)

/-- Makes a text the content of a file of the machine. -/
def writeMachineFile (path text : String) : IO (Except Files.Fault Unit) := do
  try
    IO.FS.writeFile path text
    return .ok ()
  catch e => return .error (faultOfError e)

/-- Access to the files of the machine. -/
def machine : Files.Access IO where
  read := readMachineFile
  write := writeMachineFile

end RelayCollections.CommandLine

open RelayCollections

/-- Runs a command line. -/
def main (arguments : List String) : IO UInt32 := do
  let outcome ← CommandLine.run CommandLine.machine arguments
  for e in outcome.events do
    if e.level = .warning then IO.eprintln ("WARN " ++ e.text)
  IO.print outcome.stdout
  IO.eprint outcome.stderr
  return outcome.code
