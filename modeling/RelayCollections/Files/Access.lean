import RelayCollections.Files.Fault

namespace RelayCollections.Files

/-!
# Access to files

What a program may do to files, in any monad: a program written over `Access` runs on the
files of a machine and on a directory that is a mere value.
-/

/-- Reading and writing text files in a monad. -/
structure Access (m : Type → Type) where
  /-- The text of a file. -/
  read : String → m (Except Fault String)
  /-- Makes a text the whole content of a file. -/
  write : String → String → m (Except Fault Unit)

end RelayCollections.Files
