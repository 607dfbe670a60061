namespace RelayCollections.Files

/-!
# Faults of file access
-/

/-- Why a file cannot be read or written. -/
inductive Fault where
  | notFound
  | isDirectory
  /-- The path leads through a file. -/
  | notDirectory
  /-- The file holds no UTF-8 text. -/
  | notText
  | other (reason : String)
  deriving DecidableEq, Repr

/-- The wording of a fault. -/
def Fault.message : Fault → String
  | .notFound => "No such file or directory (os error 2)"
  | .isDirectory => "Is a directory (os error 21)"
  | .notDirectory => "Not a directory (os error 20)"
  | .notText => "stream did not contain valid UTF-8"
  | .other reason => reason

end RelayCollections.Files
