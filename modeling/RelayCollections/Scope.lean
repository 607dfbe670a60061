import RelayCollections.Registry
import RelayCollections.Run
import RelayCollections.ScalarTable
import RelayCollections.TypeRef

namespace RelayCollections

/-!
# Scopes

A scope is where the types of fields are looked up: a registry and a scalar table.
Scalars come before node types, and node types before interfaces.

* `Scope.base?` — the base type of a name, connections apart;
* `Scope.describe` — the descriptor of a field of some type.
-/

/-- What is known of names. -/
structure Scope where
  registry : Registry
  scalars : ScalarTable

namespace Scope

/-- The base type of a name. -/
def base? (scope : Scope) (name : String) : Option BaseType :=
  match scope.scalars.storage? name with
  | some storage => some (.primitive storage)
  | none =>
    if scope.registry.isRefTarget name then some (.reference (some name))
    else if scope.registry.isPolymorphicTarget name then some (.reference none)
    else none

/-- The descriptor of a bare name, which is looked up under the name it stands for. -/
def describeNamed (scope : Scope) (name : String) : Run Descriptor := do
  let resolved := scope.registry.resolve name
  if resolved ≠ name then .tell [.substituted name resolved]
  match scope.base? resolved with
  | some base => return { base }
  | none => .fail (.unknownType resolved)

/-- The descriptor of a type. A non-null modifier requires the list that it stands
    around, and otherwise the value or the elements. -/
def describe (scope : Scope) : TypeRef → Run Descriptor
  | .named name => scope.describeNamed name
  | .list inner => return (← scope.describe inner).asList
  | .nonNull inner => do
    let d ← scope.describe inner
    return if inner.isList then d.asListRequired else d.asRequired

end Scope

end RelayCollections
