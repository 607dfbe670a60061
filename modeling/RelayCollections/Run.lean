import RelayCollections.Event
import RelayCollections.Failure

namespace RelayCollections

/-!
# Runs

A run is what happened, in order, and how it ended: with a result or with the first
failure. Runs compose as a monad; after a failure nothing more happens, and what
happened before it is kept.
-/

/-- What happened and how it ended. -/
structure Run (α : Type) where
  events : List Event
  outcome : Except Failure α

namespace Run

/-- A run in which nothing happens. -/
def done (a : α) : Run α := ⟨[], .ok a⟩

/-- A run that only fails. -/
def fail (failure : Failure) : Run α := ⟨[], .error failure⟩

/-- A run in which some events happen. -/
def tell (events : List Event) : Run Unit := ⟨events, .ok ()⟩

/-- A run in which nothing happens, from its end. -/
def ofExcept (outcome : Except Failure α) : Run α := ⟨[], outcome⟩

/-- What follows a run. -/
def andThen (run : Run α) (next : α → Run β) : Run β :=
  match run.outcome with
  | .ok a => ⟨run.events ++ (next a).events, (next a).outcome⟩
  | .error failure => ⟨run.events, .error failure⟩

instance : Monad Run where
  pure := done
  bind := andThen

/-- The events of a run that matter at a level. -/
def eventsAt (run : Run α) (level : Level) : List Event :=
  run.events.filter fun e => e.level = level

/-! ### Laws -/

@[ext] theorem ext {r s : Run α} (he : r.events = s.events) (ho : r.outcome = s.outcome) :
    r = s := by
  cases r
  cases s
  simp_all

/-- After a result, the events of what follows are added. -/
theorem bind_ok (events : List Event) (a : α) (next : α → Run β) :
    (⟨events, .ok a⟩ : Run α) >>= next = ⟨events ++ (next a).events, (next a).outcome⟩ := rfl

/-- After a failure nothing follows. -/
theorem bind_error (events : List Event) (failure : Failure) (next : α → Run β) :
    (⟨events, .error failure⟩ : Run α) >>= next = ⟨events, .error failure⟩ := rfl

/-- An event-free result changes nothing behind a run. -/
theorem map_id (run : Run α) : id <$> run = run := by
  rcases run with ⟨events, _ | a⟩
  · rfl
  · show (⟨events ++ [], .ok a⟩ : Run α) = _
    rw [List.append_nil]

/-- Nothing happens before what follows a mere result. -/
theorem done_bind (a : α) (next : α → Run β) : (pure a : Run α) >>= next = next a := rfl

/-- It does not matter how three runs in a row are grouped. -/
theorem bind_bind (run : Run α) (f : α → Run β) (g : β → Run γ) :
    run >>= f >>= g = run >>= fun a => f a >>= g := by
  rcases run with ⟨events, _ | a⟩
  · rfl
  · rcases hf : f a with ⟨events', _ | b⟩
    · simp only [bind_ok, hf, bind_error]
    · simp only [bind_ok, hf, List.append_assoc]

instance : LawfulMonad Run := LawfulMonad.mk' Run map_id done_bind bind_bind

/-! ### Outcomes

How a run ends does not depend on what happened in it: outcomes compose on their own.
-/

@[simp] theorem outcome_pure (a : α) : (pure a : Run α).outcome = .ok a := rfl

@[simp] theorem outcome_tell (events : List Event) : (tell events).outcome = .ok () := rfl

@[simp] theorem outcome_fail (failure : Failure) :
    (fail failure : Run α).outcome = .error failure := rfl

@[simp] theorem outcome_ofExcept (outcome : Except Failure α) :
    (ofExcept outcome).outcome = outcome := rfl

/-- The outcome of two runs in a row. -/
@[simp] theorem outcome_bind (run : Run α) (next : α → Run β) :
    (run >>= next).outcome = run.outcome >>= fun a => (next a).outcome := by
  rcases run with ⟨events, _ | a⟩
  · rfl
  · rfl

/-- The outcome of a run for each element of a list. -/
@[simp] theorem outcome_mapM (f : α → Run β) (as : List α) :
    (as.mapM f).outcome = as.mapM fun a => (f a).outcome := by
  induction as with
  | nil => rfl
  | cons a as ih => simp only [List.mapM_cons, outcome_bind, outcome_pure, ih]; rfl

end Run

end RelayCollections
