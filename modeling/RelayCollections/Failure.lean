import RelayCollections.Files.Fault
import RelayCollections.Json.Fault
import RelayCollections.Sdl.Position

namespace RelayCollections

/-!
# Failures

All the ways in which reading or compiling a schema ends without a result, as causes.
`Failure.message` is the one place where they are worded.
-/

/-- Why a JSON text is not the syntax tree of a document. -/
inductive TreeFault where
  /-- The text has not the shape of a syntax tree. -/
  | text (fault : Json.Fault)
  /-- The outermost node is of another kind than `Document`. -/
  | notDocument (kind : String)
  /-- A named type has no name. -/
  | namelessType
  /-- A modifier has no type inside. -/
  | noInnerType (kind : String)
  deriving DecidableEq, Repr

/-- Why there is no result. -/
inductive Failure where
  /-- The schema text is not one; the first place that does not fit. -/
  | schemaText (place : Sdl.Position)
  | syntaxTree (fault : TreeFault)
  /-- A type node is neither a named type nor a modifier. -/
  | unknownKind (kind : String)
  /-- A field's type is no scalar, node or interface. -/
  | unknownType (name : String)
  /-- A declared scalar cannot be stored although all must be. -/
  | unmappedScalar (name : String)
  | config (fault : Json.Fault)
  | file (path : String) (fault : Files.Fault)
  deriving DecidableEq, Repr

/-- The wording of a fault of a syntax tree, where it has one. -/
def TreeFault.message? : TreeFault → Option String
  | .text fault => fault.message?
  | .notDocument kind => some ("expected a Document node, found " ++ kind)
  | .namelessType => some "NamedType without a name"
  | .noInnerType kind => some (kind ++ " without an inner type")

/-- The wording of a failure. Where a cause has no wording of its own, the wording ends
    after the colon. -/
def Failure.message : Failure → String
  | .schemaText place => "GraphQL schema parse error: " ++ place.text
  | .syntaxTree fault => "JSON AST parse error: " ++ fault.message?.getD ""
  | .unknownKind kind => "Unknown type kind " ++ kind
  | .unknownType name => "Unknown type mapping for " ++ name
  | .unmappedScalar name => "No storage mapping for scalar " ++ name
  | .config fault => "Configuration error: " ++ fault.message?.getD ""
  | .file path fault => "I/O error on " ++ path ++ ": " ++ fault.message

end RelayCollections
