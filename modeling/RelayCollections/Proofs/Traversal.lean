import Mathlib.Data.List.Forall2

namespace RelayCollections

/-!
# Traversals that may fail

A list is traversed with a lookup at each element, and the first element that is not found
ends the traversal. These lemmas say so in one step, for a list and for a list of groups,
so that what a program does element by element can be stated of the whole list:

* `foundOr` — a lookup whose absence is a failure;
* `unlessFound` — a result, unless there is a failure;
* `mapM_foundOr`, `mapM_unlessFound` — traversals fail at the first failing element;
* `failureOf?` — the failure of an outcome, which for a traversal is the first one.
-/

/-- What was found, or a failure. -/
def foundOr (failure : ε) : Option α → Except ε α
  | some a => .ok a
  | none => .error failure

/-- A result, unless a failure was found. -/
def unlessFound (failure : Option ε) (a : α) : Except ε α :=
  match failure with
  | some e => .error e
  | none => .ok a

@[simp] theorem foundOr_some (failure : ε) (a : α) :
    foundOr failure (some a) = .ok a := rfl

@[simp] theorem foundOr_none (failure : ε) :
    foundOr failure (none : Option α) = .error failure := rfl

@[simp] theorem unlessFound_some (e : ε) (a : α) : unlessFound (some e) a = .error e := rfl

@[simp] theorem unlessFound_none (a : α) :
    unlessFound (none : Option ε) a = .ok a := rfl

@[simp] theorem ok_bind (a : α) (next : α → Except ε β) : Except.ok a >>= next = next a :=
  rfl

@[simp] theorem error_bind (e : ε) (next : α → Except ε β) :
    Except.error e >>= next = .error e := rfl

/-- Two steps in a row have a result iff both have, the second after that of the first. -/
theorem bind_eq_ok_iff {outcome : Except ε α} {next : α → Except ε β} {b : β} :
    outcome >>= next = .ok b ↔ ∃ a, outcome = .ok a ∧ next a = .ok b := by
  cases outcome <;> simp

/-- What is made of what was found leaves the failure alone. -/
@[simp] theorem foundOr_bind_ok (failure : ε) (o : Option α) (f : α → β) :
    (foundOr failure o >>= fun a => .ok (f a)) = foundOr failure (o.map f) := by
  cases o <;> rfl

/-- What is made of a result leaves the failure alone. -/
@[simp] theorem unlessFound_bind_ok (failure : Option ε) (a : α) (f : α → β) :
    (unlessFound failure a >>= fun a => .ok (f a)) = unlessFound failure (f a) := by
  cases failure <;> rfl

/-- A traversal has a result iff each step has, and then the steps make up the result. -/
theorem mapM_eq_ok_iff {f : α → Except ε β} {as : List α} {bs : List β} :
    as.mapM f = .ok bs ↔ List.Forall₂ (fun a b => f a = .ok b) as bs := by
  induction as generalizing bs with
  | nil => cases bs <;> simp [pure, Except.pure]
  | cons a as ih =>
    rw [List.mapM_cons]
    cases ha : f a with
    | error e => cases bs <;> simp [ha]
    | ok b =>
      cases has : as.mapM f with
      | error e => cases bs <;> simp [← ih, has, ha]
      | ok rest => cases bs <;> simp [pure, Except.pure, ← ih, has, ha]

/-- A traversal of lookups fails at the first element that is not found. -/
theorem mapM_foundOr (g : α → Option β) (e : α → ε) (as : List α) :
    (as.mapM fun a => foundOr (e a) (g a))
      = unlessFound ((as.find? fun a => (g a).isNone).map e) (as.filterMap g) := by
  induction as with
  | nil => rfl
  | cons a as ih =>
    rw [List.mapM_cons, ih]
    cases ha : g a with
    | none => simp [ha]
    | some b => simp [ha, pure, Except.pure]

/-- A traversal of groups fails at the first failing member of any group. -/
theorem mapM_unlessFound (members : γ → List α) (fails : α → Bool) (e : α → ε)
    (make : γ → β) (groups : List γ) :
    (groups.mapM fun c => unlessFound (((members c).find? fails).map e) (make c))
      = unlessFound (((groups.flatMap members).find? fails).map e) (groups.map make) := by
  induction groups with
  | nil => rfl
  | cons c groups ih =>
    rw [List.mapM_cons, ih, List.flatMap_cons, List.find?_append]
    cases (members c).find? fails with
    | some a => rfl
    | none =>
      simp only [Option.map_none, unlessFound_none, ok_bind, Option.none_or, pure,
        Except.pure, unlessFound_bind_ok, List.map_cons]

/-! ### Failures of outcomes -/

/-- The failure that an outcome is, if it is one. -/
def failureOf? : Except ε α → Option ε
  | .ok _ => none
  | .error e => some e

@[simp] theorem failureOf?_ok (a : α) : failureOf? (.ok a : Except ε α) = none := rfl

@[simp] theorem failureOf?_error (e : ε) : failureOf? (.error e : Except ε α) = some e := rfl

theorem failureOf?_eq_none_iff {outcome : Except ε α} :
    failureOf? outcome = none ↔ ∃ a, outcome = .ok a := by
  cases outcome <;> simp

theorem failureOf?_eq_some_iff {outcome : Except ε α} {e : ε} :
    failureOf? outcome = some e ↔ outcome = .error e := by
  cases outcome <;> simp

/-- What is made of a result was made of one. -/
theorem map_eq_ok_iff {f : α → β} {outcome : Except ε α} {b : β} :
    f <$> outcome = .ok b ↔ ∃ a, outcome = .ok a ∧ f a = b := by
  cases outcome <;> simp [Functor.map, Except.map]

/-- What is made of a result leaves the failure alone. -/
@[simp] theorem failureOf?_map (f : α → β) (outcome : Except ε α) :
    failureOf? (f <$> outcome) = failureOf? outcome := by
  cases outcome <;> rfl

/-- A search through groups is a search for a group that has what is looked for. -/
theorem findSome?_flatMap (members : γ → List α) (g : α → Option β) (groups : List γ) :
    (groups.flatMap members).findSome? g = groups.findSome? fun c => (members c).findSome? g := by
  rw [← List.head?_filterMap, List.filterMap_flatMap, List.head?_flatMap]
  simp only [List.head?_filterMap]

/-- A traversal fails as the first element that fails. -/
theorem failureOf?_mapM (f : α → Except ε β) (as : List α) :
    failureOf? (as.mapM f) = as.findSome? fun a => failureOf? (f a) := by
  induction as with
  | nil => rfl
  | cons a as ih =>
    rw [List.mapM_cons, List.findSome?_cons, ← ih]
    cases f a with
    | error e => rfl
    | ok b => cases as.mapM f <;> rfl

end RelayCollections
