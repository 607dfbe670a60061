import RelayCollections.Classification
import RelayCollections.Collection
import RelayCollections.Config
import RelayCollections.Scope

namespace RelayCollections

/-!
# Compilation

The collections of a document: one for each node, in the order of declaration, with one
descriptor for each field. All names of the document are known before any field is
described, so a field may refer to what is declared after it. The first failure ends the
run, and there are no collections then.

* `Scope.collection`, `Scope.collections` — the collections of object types;
* `checkScalars` — scalars that cannot be stored;
* `compile` — the collections of a document.
-/

namespace Scope

/-- The stored field of a declared one. -/
def field (scope : Scope) (node : String) (f : Field) : Run (String × Descriptor) := do
  let d ← scope.describe f.type
  .tell [.describedField node f.name d]
  return (f.name, d)

/-- The collection of an object type, whether or not it is a node. -/
def collection (scope : Scope) (type : ObjectType) : Run Collection := do
  let fields ← type.fields.mapM (scope.field type.name)
  .tell [.builtCollection type.name fields.length]
  return { name := type.name, fields }

/-- The collections of object types, in order. -/
def collections (scope : Scope) (types : List ObjectType) : Run (List Collection) := do
  let built ← types.mapM scope.collection
  .tell [.builtCollections built.length]
  return built

end Scope

/-- What follows from a declared scalar: nothing if it can be stored, else a failure or a
    warning. -/
def checkScalar (config : Config) (name : String) : Run Unit :=
  if config.scalars.contains name then return
  else if config.strict then .fail (.unmappedScalar name)
  else .tell [.unmappedScalar name]

/-- What follows from the declared scalars, in order. -/
def checkScalars (config : Config) : List String → Run Unit
  | [] => return
  | name :: rest => do
    checkScalar config name
    checkScalars config rest

/-- The entries of a scalar table that have no effect, as a run. -/
def ScalarTable.check (table : ScalarTable) : Run Unit :=
  .tell (table.clashes.map fun (name, storage) => .ignoredEntry name storage)

/-- The collections of a document. -/
def compile (d : Document) (config : Config) : Run (List Collection) := do
  config.scalars.check
  let c ← classify d config.scalars
  checkScalars config (c.scalars.map Definition.name)
  Scope.collections { registry := c.registry, scalars := config.scalars } c.nodes

end RelayCollections
