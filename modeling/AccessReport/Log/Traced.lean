import AccessReport.Log.Event
/-!
# Traced computations

A computation that may fail and tells events on the way. The events told before a failure stay
told.

Results:
* `outcome_bind`: without its events a traced computation is a plain one.
* `outcome_tell`, `outcome_ofExcept`: the same for its parts.
* `mapError_ok`, `mapError_error`: only a failure is changed.
-/
namespace AccessReport

structure Traced (ε α : Type) where
  events : List Event
  outcome : Except ε α

namespace Traced

variable {ε α β : Type}

instance : Monad (Traced ε) where
  pure value := ⟨[], .ok value⟩
  bind first next := match first.outcome with
    | .ok value => ⟨first.events ++ (next value).events, (next value).outcome⟩
    | .error error => ⟨first.events, .error error⟩

/-- One event. -/
def tell (event : Event) : Traced ε Unit := ⟨[event], .ok ()⟩

/-- Several events. -/
def tellAll (events : List Event) : Traced ε Unit := ⟨events, .ok ()⟩

def fail (error : ε) : Traced ε α := ⟨[], .error error⟩

/-- A computation that tells nothing. -/
def ofExcept (outcome : Except ε α) : Traced ε α := ⟨[], outcome⟩

/-- The computation with its failures seen by the caller; the events stay told. -/
def attempt (traced : Traced ε α) : Traced ε (Except ε α) := ⟨traced.events, .ok traced.outcome⟩

/-- The computation with another kind of failure. -/
def mapError {ε' : Type} (change : ε → ε') (traced : Traced ε α) : Traced ε' α :=
  ⟨traced.events, traced.outcome.mapError change⟩

theorem mapError_ok {ε' : Type} (change : ε → ε') (value : α) :
    (Except.ok value).mapError change = .ok value := rfl

theorem mapError_error {ε' : Type} (change : ε → ε') (error : ε) :
    (Except.error error : Except ε α).mapError change = .error (change error) := rfl

@[simp] theorem outcome_pure (value : α) : (pure value : Traced ε α).outcome = .ok value := rfl

@[simp] theorem outcome_bind (first : Traced ε α) (next : α → Traced ε β) :
    (first >>= next).outcome = first.outcome >>= fun value => (next value).outcome := by
  obtain ⟨events, outcome⟩ := first
  cases outcome <;> rfl

@[simp] theorem outcome_tell (event : Event) : (tell event : Traced ε Unit).outcome = .ok () := rfl

@[simp] theorem outcome_tellAll (events : List Event) :
    (tellAll events : Traced ε Unit).outcome = .ok () := rfl

@[simp] theorem outcome_fail (error : ε) : (fail error : Traced ε α).outcome = .error error := rfl

@[simp] theorem outcome_ofExcept (outcome : Except ε α) : (ofExcept outcome).outcome = outcome :=
  rfl

@[simp] theorem outcome_attempt (traced : Traced ε α) :
    traced.attempt.outcome = .ok traced.outcome := rfl

@[simp] theorem outcome_mapError {ε' : Type} (change : ε → ε') (traced : Traced ε α) :
    (traced.mapError change).outcome = traced.outcome.mapError change := rfl

end Traced
end AccessReport
