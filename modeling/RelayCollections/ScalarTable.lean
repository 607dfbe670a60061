import Std.Data.ExtTreeMap
import RelayCollections.Storage

namespace RelayCollections

/-!
# Scalar tables

Which scalars can be stored, and as what: the built-in ones and, beside them, custom
ones. A custom entry for a built-in name has no effect; `ScalarTable.clashes` lists such
entries.
-/

/-- The custom entries of a scalar table. -/
structure ScalarTable where
  custom : Std.ExtTreeMap String Storage := ∅

namespace ScalarTable

/-- What a scalar is stored as; built-in scalars come first. -/
def storage? (table : ScalarTable) (name : String) : Option Storage :=
  (builtInStorage? name).or table.custom[name]?

/-- The scalar can be stored. -/
def contains (table : ScalarTable) (name : String) : Bool :=
  (table.storage? name).isSome

/-- The custom entries that have no effect, by name. -/
def clashes (table : ScalarTable) : List (String × Storage) :=
  table.custom.toList.filter fun entry => (builtInStorage? entry.1).isSome

end ScalarTable

end RelayCollections
