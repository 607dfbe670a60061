namespace RelayCollections

/-!
# Types of fields

A field's type is a named type inside list and non-null modifiers.

* `TypeRef.leaf` — the named type;
* `TypeRef.modifiers` / `TypeRef.ofModifiers` — a type as its leaf and the modifiers
  around it, the innermost first.
-/

/-- A named type with modifiers around it. -/
inductive TypeRef where
  | named (name : String)
  | nonNull (inner : TypeRef)
  | list (inner : TypeRef)
  deriving DecidableEq, Repr

/-- A way of making a type from a type. -/
inductive Modifier where
  | nonNull
  | list
  deriving DecidableEq, Repr

/-- The type that a modifier makes. -/
def Modifier.apply : Modifier → TypeRef → TypeRef
  | .nonNull => .nonNull
  | .list => .list

namespace TypeRef

/-- The named type inside all modifiers. -/
def leaf : TypeRef → String
  | named name => name
  | nonNull inner => inner.leaf
  | list inner => inner.leaf

/-- The modifiers of a type, the innermost first. -/
def modifiers : TypeRef → List Modifier
  | named _ => []
  | nonNull inner => inner.modifiers ++ [.nonNull]
  | list inner => inner.modifiers ++ [.list]

/-- The type with the given leaf and modifiers, the innermost first. -/
def ofModifiers (leaf : String) (modifiers : List Modifier) : TypeRef :=
  modifiers.foldl (fun type modifier => modifier.apply type) (named leaf)

/-- The outermost modifier is a list. -/
def isList : TypeRef → Bool
  | list _ => true
  | _ => false

/-- Modifiers leave the leaf alone. -/
@[simp] theorem leaf_apply (m : Modifier) (type : TypeRef) :
    (m.apply type).leaf = type.leaf := by
  cases m <;> rfl

/-- The leaf of a type made of a leaf and modifiers. -/
@[simp] theorem leaf_ofModifiers (name : String) (ms : List Modifier) :
    (ofModifiers name ms).leaf = name := by
  have hfold : ∀ type : TypeRef,
      (ms.foldl (fun type m => m.apply type) type).leaf = type.leaf := by
    induction ms with
    | nil => intro type; rfl
    | cons m ms ih => intro type; rw [List.foldl_cons, ih, leaf_apply]
  exact hfold (named name)

/-- The modifiers of a type made of a leaf and modifiers. -/
@[simp] theorem modifiers_ofModifiers (name : String) (ms : List Modifier) :
    (ofModifiers name ms).modifiers = ms := by
  have hfold : ∀ type : TypeRef,
      (ms.foldl (fun type m => m.apply type) type).modifiers = type.modifiers ++ ms := by
    induction ms with
    | nil => intro type; simp
    | cons m ms ih =>
      intro type
      rw [List.foldl_cons, ih]
      cases m <;> simp [modifiers, Modifier.apply]
  exact hfold (named name)

end TypeRef

end RelayCollections
