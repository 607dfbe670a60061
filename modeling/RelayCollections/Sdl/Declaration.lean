import RelayCollections.Document

namespace RelayCollections.Sdl

/-!
# Declarations of a schema text

What a schema text says, definition by definition: types, extensions of types, directives
and the schema itself. Of these only types are definitions of a document.

* `Declaration` — a definition of a schema text;
* `TypeDeclaration.addsSomething` — what an extension must do;
* `toDocument` — the document of declarations.
-/

/-- The kinds of types. -/
inductive Kind where
  | scalar
  | object
  | interface
  | union
  | enum
  | input
  deriving DecidableEq, Repr

/-- The kind of type that a keyword declares. -/
def Kind.ofKeyword? : String → Option Kind
  | "scalar" => some .scalar
  | "type" => some .object
  | "interface" => some .interface
  | "union" => some .union
  | "enum" => some .enum
  | "input" => some .input
  | _ => none

/-- A declared type, or what an extension adds to one. -/
structure TypeDeclaration where
  kind : Kind
  name : String
  interfaces : List String := []
  fields : List Field := []
  /-- How many directives stand behind the name. -/
  directives : Nat := 0
  /-- Fields, members or values are listed. -/
  hasBody : Bool := false
  deriving DecidableEq, Repr

/-- A definition of a schema text. -/
inductive Declaration where
  | schema
  | directive (name : String)
  | type (t : TypeDeclaration)
  | extension (t : TypeDeclaration)
  deriving DecidableEq, Repr

/-- The declaration adds a directive, a body, or, to an object type, an interface.
    Interfaces do not count for interfaces. -/
def TypeDeclaration.addsSomething (t : TypeDeclaration) : Bool :=
  t.directives != 0 || t.hasBody || (t.kind == .object && !t.interfaces.isEmpty)

/-! ### Documents -/

/-- The definition of a declared type. -/
def TypeDeclaration.toDefinition (t : TypeDeclaration) : Definition :=
  match t.kind with
  | .scalar => .scalar t.name
  | .interface => .interface t.name t.fields
  | .object => .object { name := t.name, interfaces := t.interfaces, fields := t.fields }
  | .union | .enum | .input => .other t.name

/-- The definition of a declaration, if it declares a type. -/
def Declaration.toDefinition? : Declaration → Option Definition
  | .type t => some t.toDefinition
  | _ => none

/-- The document of declarations. -/
def toDocument (declarations : List Declaration) : Document where
  definitions := declarations.filterMap Declaration.toDefinition?

end RelayCollections.Sdl
