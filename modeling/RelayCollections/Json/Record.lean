import RelayCollections.Json.Fault
import RelayCollections.Json.Tree

namespace RelayCollections.Json

/-!
# Reading values of a known shape

Readers of typed values from JSON trees. A reader is given how many arrays and objects
may still be nested where it reads; what it returns is a value or the first fault of the
text. Members that no reader wants are skipped: they must be JSON, but may be nested to
any depth and spell any 16-bit units.

* `Reader` — a reader of values of one type;
* `text`, `flag`, `optional`, `many` — readers of strings, truth values, values that may
  be null, and arrays;
* `Record` — a record is written as an object, or as the array of its members in order.
-/

/-- A reader of values of type `α`, given the number of levels that may still be nested. -/
abbrev Reader (α : Type) := Nat → Tree → Except Fault α

/-- How many arrays and objects may be nested in each other. -/
def nestingLimit : Nat := 127

/-! ### Single values -/

/-- What pieces mean, as part of a value that is wanted. -/
def wantedString (pieces : List Piece) : Except Fault String :=
  match decode? pieces with
  | some s => .ok s
  | none => .error .malformed

/-- A string. -/
def text : Reader String
  | _, .string pieces => wantedString pieces
  | _, _ => .error .malformed

/-- A truth value. -/
def flag : Reader Bool
  | _, .bool b => .ok b
  | _, _ => .error .malformed

/-- Null, or a value. -/
def optional (read : Reader α) : Reader (Option α)
  | _, .null => .ok none
  | depth, tree => some <$> read depth tree

/-! ### Arrays -/

/-- The values of items up to the end of their array. -/
def Items.readAll (read : Tree → Except Fault α) : Items → Except Fault (List α)
  | .closed => .ok []
  | .broken => .error .malformed
  | .cons item rest => do
    let a ← read item
    return a :: (← rest.readAll read)

/-- An array of values. -/
def many (read : Reader α) : Reader (List α)
  | depth + 1, .array items => items.readAll (read depth)
  | _, _ => .error .malformed

/-! ### Records -/

/-- How a record of type `α` is read. Each member that is present is read to a part of
    the record, and the record is made of its parts. -/
structure Record (part α : Type) where
  /-- The members with their keys, in the order of the array form. -/
  members : List (String × Reader part)
  /-- Whether other keys are refused. -/
  isClosed : Bool := false
  /-- The record that parts make. The first argument is the fault of a missing member. -/
  make : (String → Fault) → List part → Except Fault α

namespace Record

/-- The parts in the members of an object. A key that is refused, or that has been seen
    before, is a fault even if no value follows it. -/
def partsOfMembers (r : Record part α) (depth : Nat) (seen : List String) :
    Members → Except Fault (List part)
  | .closed => .ok []
  | .broken => .error .malformed
  | .cons pieces value rest => do
    let key ← wantedString pieces
    match r.members.lookup key with
    | some read =>
      if key ∈ seen then .error (.duplicateField key)
      else
        let part ← read depth value
        return part :: (← r.partsOfMembers depth (key :: seen) rest)
    | none =>
      if r.isClosed then .error (.unknownField key (r.members.map Prod.fst))
      else if value.isSound then r.partsOfMembers depth seen rest
      else .error .malformed

/-- The parts in the items of an array. The array may end early but not late. -/
def partsOfItems (depth : Nat) : List (String × Reader part) → Items →
    Except Fault (List part)
  | _, .closed => .ok []
  | (_, read) :: members, .cons item rest => do
    let part ← read depth item
    return part :: (← partsOfItems depth members rest)
  | _, _ => .error .malformed

/-- A record in either form. In the array form no fault names a member. -/
def read (r : Record part α) : Reader α
  | depth + 1, .object members => do
    r.make .missingField (← r.partsOfMembers depth [] members)
  | depth + 1, .array items => do
    r.make (fun _ => .malformed) (← partsOfItems depth r.members items)
  | _, _ => .error .malformed

end Record

/-- The part of a record that `select` finds, or the fault of its absence. -/
def required (select : part → Option α) (parts : List part) (absent : Fault) :
    Except Fault α :=
  match parts.findSome? select with
  | some a => .ok a
  | none => .error absent

/-! ### Whole texts -/

/-- The value of a text that holds one value and nothing after it. -/
def readWhole (read : Reader α) (text : String) : Except Fault α := do
  let (tree, rest) := readText text
  let a ← read nestingLimit tree
  if rest.isEmpty then return a else .error .malformed

end RelayCollections.Json
