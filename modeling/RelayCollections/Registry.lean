import Std.Data.ExtTreeMap
import Std.Data.ExtTreeSet
import RelayCollections.Naming

namespace RelayCollections

/-!
# Registries of names

Which names of a document can be referred to. A registry is filled by adding names and
is then looked up; only which names were added matters, not their order.

* `addRefTarget`, `addPolymorphicTarget`, `addConnection` — what fills a registry;
* `resolve` — the name that a name stands for;
* `isRefTarget_addRefTarget`, … — what each addition changes.
-/

/-- The names that fields may refer to. -/
structure Registry where
  /-- Node types. -/
  refTargets : Std.ExtTreeSet String := ∅
  /-- Interfaces. -/
  polymorphicTargets : Std.ExtTreeSet String := ∅
  /-- Connections, each with the name of the type it connects. -/
  aliases : Std.ExtTreeMap String String := ∅

namespace Registry

/-- Adds a node type. -/
def addRefTarget (r : Registry) (name : String) : Registry :=
  { r with refTargets := r.refTargets.insert name }

/-- Adds an interface. -/
def addPolymorphicTarget (r : Registry) (name : String) : Registry :=
  { r with polymorphicTargets := r.polymorphicTargets.insert name }

/-- Adds a connection under the name of the type it connects, declared or not. A name
    that is no connection's adds nothing. -/
def addConnection (r : Registry) (name : String) : Registry :=
  match connectionBase? name with
  | some base => { r with aliases := r.aliases.insert name base }
  | none => r

/-- The name is a node type's. -/
def isRefTarget (r : Registry) (name : String) : Bool :=
  r.refTargets.contains name

/-- The name is an interface's. -/
def isPolymorphicTarget (r : Registry) (name : String) : Bool :=
  r.polymorphicTargets.contains name

/-- What an added connection connects. -/
def alias? (r : Registry) (name : String) : Option String :=
  r.aliases[name]?

/-- The name that `name` stands for: an added connection stands for what it connects, and
    so does a name that is merely spelled like a connection. One step, not repeated. -/
def resolve (r : Registry) (name : String) : String :=
  (r.alias? name).getD ((connectionBase? name).getD name)

/-! ### What additions change -/

@[ext] theorem ext {r s : Registry} (ht : r.refTargets = s.refTargets)
    (hp : r.polymorphicTargets = s.polymorphicTargets) (ha : r.aliases = s.aliases) :
    r = s := by
  cases r
  cases s
  simp_all

/-- Adding a node type makes its name, and no other, a reference target. -/
theorem isRefTarget_addRefTarget (r : Registry) (name n : String) :
    (r.addRefTarget name).isRefTarget n = true ↔ name = n ∨ r.isRefTarget n = true := by
  simp [isRefTarget, addRefTarget]

/-- Adding an interface makes its name, and no other, a polymorphic target. -/
theorem isPolymorphicTarget_addPolymorphicTarget (r : Registry) (name n : String) :
    (r.addPolymorphicTarget name).isPolymorphicTarget n = true
      ↔ name = n ∨ r.isPolymorphicTarget n = true := by
  simp [isPolymorphicTarget, addPolymorphicTarget]

/-- Adding a connection makes its name, and no other, stand for what it connects. -/
theorem alias?_addConnection (r : Registry) (name n : String) :
    (r.addConnection name).alias? n
      = if name = n then (connectionBase? n).or (r.alias? n) else r.alias? n := by
  unfold addConnection alias?
  by_cases hn : name = n
  · subst hn
    cases hb : connectionBase? name with
    | none => simp
    | some base => simp
  · rw [if_neg hn]
    cases hb : connectionBase? name with
    | none => rfl
    | some base =>
      -- Another key is inserted.
      simp only [Std.ExtTreeMap.getElem?_insert]
      rw [if_neg]
      simpa using hn

/-- Before anything is added, names stand for what their spelling says. -/
theorem resolve_empty (name : String) :
    ({} : Registry).resolve name = substituteConnection name := by
  simp [resolve, alias?, substituteConnection]

end Registry

end RelayCollections
