import RelayCollections.Sdl.Declaration
import RelayCollections.Sdl.Rule

namespace RelayCollections.Sdl

/-!
# Grammar of the schema language

One rule for each part of the language, from types and values to whole texts. Keywords
are names like any others and mean something only where a rule asks for them.

* `typeRef` — types of fields and arguments;
* `skipValue` — values, which are checked and forgotten;
* `typeDeclaration`, `declaration` — definitions;
* `declarations` — a whole text.
-/

open Rule

/-! ### Types -/

/-- A type with the mark after it that makes it non-null. -/
def withBang (type : TypeRef) : List Token → TypeRef × List Token
  | .mark .bang :: ts => (.nonNull type, ts)
  | ts => (type, ts)

/-- A type: a name, or a type in brackets, each perhaps non-null. -/
def typeRef : Rule TypeRef
  | .name text :: ts => .ok (withBang (.named text) ts)
  | .mark .openBracket :: ts =>
    match typeRef ts with
    | .error left => .error left
    | .ok (inner, .mark .closeBracket :: rest) => .ok (withBang (.list inner) rest)
    | .ok (_, rest) => .error rest.length
  | ts => .error ts.length

/-! ### Values -/

/-- A bracket inside which a value is being read. -/
inductive Nest where
  | list
  | object
  deriving DecidableEq, Repr

/-- Reads on inside brackets, the innermost first. If `wanted`, a value must come next;
    otherwise one has just been read, or a bracket opened. Variables are values only
    where `allowVariables` allows them. -/
def skipNested (allowVariables : Bool) (wanted : Bool) (nests : List Nest) :
    List Token → Except Nat (List Token)
  | [] => if wanted ∨ nests ≠ [] then .error 0 else .ok []
  | t :: ts =>
    match wanted, nests, t with
    | false, [], _ => .ok (t :: ts)
    | false, .list :: outer, .mark .closeBracket => skipNested allowVariables false outer ts
    | false, .object :: outer, .mark .closeBrace => skipNested allowVariables false outer ts
    | false, .object :: outer, .name _ =>
      match ts with
      | .mark .colon :: rest => skipNested allowVariables true (.object :: outer) rest
      | _ => .error ts.length
    | false, .object :: _, _ => .error (ts.length + 1)
    | _, _, .name _ => skipNested allowVariables false nests ts
    | _, _, .mark .dollar =>
      if allowVariables then
        match ts with
        | .name _ :: rest => skipNested allowVariables false nests rest
        | _ => .error ts.length
      else .error (ts.length + 1)
    | _, _, .mark .openBracket => skipNested allowVariables false (.list :: nests) ts
    | _, _, .mark .openBrace => skipNested allowVariables false (.object :: nests) ts
    | _, _, .mark _ => .error (ts.length + 1)
    | _, _, t =>
      if t.isUsable then skipNested allowVariables false nests ts else .error (ts.length + 1)

/-- A value. -/
def skipValue (allowVariables : Bool) : Rule Unit := fun ts =>
  match skipNested allowVariables true [] ts with
  | .error left => .error left
  | .ok rest => .ok ((), rest)

/-! ### Directives and descriptions -/

/-- A name and a value, as arguments of a directive. -/
def argument : Rule Unit := do
  let _ ← name
  mark .colon
  skipValue true

/-- Arguments of a directive. -/
def arguments : Rule Unit := do
  mark .openParen
  let _ ← oneOrMore Token.isName argument
  mark .closeParen

/-- A directive. -/
def directive : Rule Unit := do
  mark .atSign
  let _ ← name
  whenNext (Token.isMark .openParen) arguments ()

/-- Directives, as their number. -/
def directives : Rule Nat := do
  return (← many (Token.isMark .atSign) directive).length

/-- A description, if there is one. -/
def description : Rule Unit :=
  whenNext Token.isString usable ()

/-! ### Fields -/

/-- An argument of a field or of a directive definition, or a field of an input. -/
def inputValue : Rule Field := do
  description
  let valueName ← name
  mark .colon
  let type ← typeRef
  whenNext (Token.isMark .equals) (do mark .equals; skipValue false) ()
  let _ ← directives
  return { name := valueName, type }

/-- Arguments of a field or of a directive definition. -/
def inputValues : Rule Unit := do
  mark .openParen
  let _ ← oneOrMore Token.startsDescribed inputValue
  mark .closeParen

/-- A field of an object type or an interface. -/
def field : Rule Field := do
  description
  let fieldName ← name
  whenNext (Token.isMark .openParen) inputValues ()
  mark .colon
  let type ← typeRef
  let _ ← directives
  return { name := fieldName, type }

/-- A value of an enum. -/
def enumValue : Rule Unit := do
  description
  let _ ← name
  let _ ← directives

/-- Parts in braces, at least one. -/
def braced (part : Rule α) : Rule (List α) := do
  mark .openBrace
  let parts ← oneOrMore Token.startsDescribed part
  mark .closeBrace
  return parts

/-! ### Lists of names -/

/-- A separator and what follows it. -/
def after (separator : Mark) (r : Rule α) : Rule α := do
  mark separator
  r

/-- Parts with separators between them; one may also stand before the first. -/
def separated (separator : Mark) (r : Rule α) : Rule (List α) := do
  whenNext (Token.isMark separator) (mark separator) ()
  let a ← r
  return a :: (← many (Token.isMark separator) (after separator r))

/-- The interfaces that a type implements, if it says so. -/
def implementedInterfaces : Rule (List String) :=
  whenNext (Token.isWord "implements") (do word "implements"; separated .ampersand name) []

/-! ### Types -/

/-- The part of a declared type behind its directives, given whether it is there. -/
def body (opening : Mark) (r : Rule Unit) : Rule Bool :=
  whenNext (Token.isMark opening) (do r; return true) false

/-- A declared type from its name on. -/
def typeDeclaration (kind : Kind) : Rule TypeDeclaration := do
  let typeName ← name
  match kind with
  | .scalar => return { kind, name := typeName, directives := ← directives }
  | .object | .interface =>
    let interfaces ← implementedInterfaces
    let directives ← directives
    let fields ← whenNext (Token.isMark .openBrace) (braced field) []
    return { kind, name := typeName, interfaces, fields, directives, hasBody := !fields.isEmpty }
  | .union =>
    let directives ← directives
    let hasBody ← body .equals (do mark .equals; let _ ← separated .bar name)
    return { kind, name := typeName, directives, hasBody }
  | .enum =>
    let directives ← directives
    let hasBody ← body .openBrace (do let _ ← braced enumValue)
    return { kind, name := typeName, directives, hasBody }
  | .input =>
    let directives ← directives
    let fields ← whenNext (Token.isMark .openBrace) (braced inputValue) []
    return { kind, name := typeName, fields, directives, hasBody := !fields.isEmpty }

/-! ### Directive definitions -/

/-- The places where directives may stand. -/
def directiveLocations : List String :=
  ["QUERY", "MUTATION", "SUBSCRIPTION", "FIELD", "FRAGMENT_DEFINITION", "FRAGMENT_SPREAD",
    "INLINE_FRAGMENT", "SCHEMA", "SCALAR", "OBJECT", "FIELD_DEFINITION",
    "ARGUMENT_DEFINITION", "INTERFACE", "UNION", "ENUM", "ENUM_VALUE", "INPUT_OBJECT",
    "INPUT_FIELD_DEFINITION", "VARIABLE_DEFINITION"]

/-- The name of a place where directives may stand. -/
def location : Rule Unit
  | .name text :: ts =>
    if directiveLocations.contains text then .ok ((), ts) else .error (ts.length + 1)
  | ts => .error ts.length

/-- The token starts a list of locations. -/
def startsLocations (t : Token) : Bool :=
  t.isMark .bar || t.isName

/-- A directive definition from its at sign on. There may be no location. -/
def directiveDefinition : Rule Declaration := do
  mark .atSign
  let directiveName ← name
  whenNext (Token.isMark .openParen) inputValues ()
  whenNext (Token.isWord "repeatable") (word "repeatable") ()
  word "on"
  whenNext startsLocations (do let _ ← separated .bar location) ()
  return .directive directiveName

/-! ### Schema definitions -/

/-- An operation and the type of its root. -/
def rootType : Rule String := do
  let operation ← name
  mark .colon
  let _ ← name
  return operation

/-- The operations of a schema definition from its directives on. -/
def rootTypes : Rule (List String) := do
  let _ ← directives
  mark .openBrace
  let operations ← many Token.isName rootType
  mark .closeBrace
  return operations

/-- Each operation is one of three and none comes twice. -/
def areOperations (operations : List String) : Bool :=
  operations.all ["query", "mutation", "subscription"].contains
    && decide operations.Nodup

/-! ### Definitions -/

/-- A rule that fails at its first token if what it has read does not do. -/
def checked (r : Rule α) (does : α → Bool) : Rule α := fun ts =>
  match r ts with
  | .error left => .error left
  | .ok (a, rest) => if does a then .ok (a, rest) else .error ts.length

/-- A schema definition from its keyword on. -/
def schemaDefinition : Rule Declaration := do
  let _ ← checked (do word "schema"; rootTypes) areOperations
  return .schema

/-- A declared type from its keyword on. -/
def declaredType : Rule TypeDeclaration := fun ts =>
  match ts with
  | .name keyword :: rest =>
    match Kind.ofKeyword? keyword with
    | some kind => typeDeclaration kind rest
    | none => .error ts.length
  | _ => .error ts.length

/-- An extension of a type. -/
def extension : Rule Declaration := do
  word "extend"
  return .extension (← checked declaredType TypeDeclaration.addsSomething)

/-- A definition behind its description. -/
def describedDefinition : Rule Declaration := fun ts =>
  match ts with
  | .name "directive" :: rest => directiveDefinition rest
  | _ => (do return .type (← declaredType) : Rule Declaration) ts

/-- A definition. -/
def declaration : Rule Declaration := fun ts =>
  match ts with
  | .name "schema" :: _ => schemaDefinition ts
  | .name "extend" :: _ => extension ts
  | _ => (do description; describedDefinition : Rule Declaration) ts

/-- A whole text: at least one definition and nothing else. -/
def declarations : Rule (List Declaration) :=
  oneOrMore (fun _ => true) declaration

end RelayCollections.Sdl
