import RelayCollections.Json.Record
import RelayCollections.ScalarTable

namespace RelayCollections

/-!
# Configurations

A configuration says how custom scalars are stored and whether every declared scalar
must be. It is written in JSON:

    { "custom_scalars": { "Email": "String" }, "strict_scalars": true }

Either member may be absent and no other may be present. A storage primitive is written
as its name, or as an object with its name as the one key and null as the value.
-/

/-- How scalars are treated. -/
structure Config where
  scalars : ScalarTable := {}
  /-- Every declared scalar must have a storage primitive. -/
  strict : Bool := false

namespace Config

open Json (Fault Reader Record Tree Members)

/-- The primitive of a name. -/
def storageOfName (name : String) : Except Fault Storage :=
  match Storage.ofName? name with
  | some storage => .ok storage
  | none => .error (.unknownVariant name (Storage.all.map Storage.name))

/-- A primitive in either spelling. An unknown name is a fault even if its value is. -/
def storage : Reader Storage
  | _, .string pieces => do storageOfName (← Json.wantedString pieces)
  | _ + 1, .object (.cons pieces value rest) => do
    let storage ← storageOfName (← Json.wantedString pieces)
    match value, rest with
    | .null, .closed => return storage
    | _, _ => .error .malformed
  | _, _ => .error .malformed

/-- The entries of a table of primitives, in order. -/
def storageEntries (depth : Nat) : Members → Except Fault (List (String × Storage))
  | .closed => .ok []
  | .broken => .error .malformed
  | .cons pieces value rest => do
    let name ← Json.wantedString pieces
    let storage ← storage depth value
    return (name, storage) :: (← storageEntries depth rest)

/-- A table of primitives. Of entries with one name the last counts. -/
def storageTable : Reader ScalarTable
  | depth + 1, .object members => do
    return { custom := .ofList (← storageEntries depth members) }
  | _, _ => .error .malformed

/-- A member of a written configuration. -/
inductive Part where
  | scalars (table : ScalarTable)
  | strict (strict : Bool)

/-- Configurations as records. -/
def record : Record Part Config where
  members := [
    ("custom_scalars", fun depth tree => .scalars <$> storageTable depth tree),
    ("strict_scalars", fun depth tree => .strict <$> Json.flag depth tree)]
  isClosed := true
  make _ parts := .ok {
    scalars := (parts.findSome? fun | .scalars table => some table | _ => none).getD {}
    strict := (parts.findSome? fun | .strict strict => some strict | _ => none).getD false }

/-- The configuration that a text holds. -/
def ofText (text : String) : Except Fault Config :=
  Json.readWhole record.read text

end Config

end RelayCollections
