import RelayCollections.Compilation
import RelayCollections.Sdl.Reading
import RelayCollections.SyntaxTree.Document

namespace RelayCollections

/-!
# Sources

The two forms in which a schema is given, and the way from either to collections.
-/

/-- A form of schemas. -/
inductive SourceForm where
  /-- Text in the schema language. -/
  | schemaText
  /-- A syntax tree in JSON. -/
  | syntaxTree
  deriving DecidableEq, Repr

/-- The document of a source. -/
def SourceForm.parse : SourceForm → String → Run Document
  | .schemaText => Sdl.parseSchema
  | .syntaxTree => SyntaxTree.parseTree

/-- The collections of a source. -/
def compileSource (form : SourceForm) (source : String) (config : Config) :
    Run (List Collection) := do
  compile (← form.parse source) config

end RelayCollections
