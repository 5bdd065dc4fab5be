import AccessReport.Log.Traced
import AccessReport.Surroundings.Basic
/-!
# Inquiries

A computation that asks its surroundings for what it needs, one question after the other, tells
events, and may fail. It changes nothing.

Results:
* `bind_done`, `bind_bind`: the laws of a monad.
* `run_bind`: one inquiry after another is answered by the same surroundings.
* `run_read`, `run_canonical`, `run_exists`, `run_value`, `run_input`: each question gets its
  answer.
-/
namespace AccessReport

inductive Inquiry (ε α : Type) where
  | done (value : α)
  | failed (error : ε)
  | told (event : Event) (next : Inquiry ε α)
  | askRead (path : String) (next : Except FileFault String → Inquiry ε α)
  | askCanonical (path : String) (next : Except FileFault String → Inquiry ε α)
  | askValue (name : String) (next : Option String → Inquiry ε α)
  | askInput (next : Except FileFault String → Inquiry ε α)

namespace Inquiry

variable {ε α β : Type}

def bind : Inquiry ε α → (α → Inquiry ε β) → Inquiry ε β
  | done value, f => f value
  | failed error, _ => failed error
  | told event next, f => told event (next.bind f)
  | askRead path next, f => askRead path fun answer => (next answer).bind f
  | askCanonical path next, f => askCanonical path fun answer => (next answer).bind f
  | askValue name next, f => askValue name fun answer => (next answer).bind f
  | askInput next, f => askInput fun answer => (next answer).bind f

instance : Monad (Inquiry ε) where
  pure := done
  bind := bind

theorem bind_done (inquiry : Inquiry ε α) : inquiry.bind done = inquiry := by
  induction inquiry with
  | done value => rfl
  | failed error => rfl
  | told event rest ih => simp only [bind, ih]
  | askRead path rest ih => simp only [bind, ih]
  | askCanonical path rest ih => simp only [bind, ih]
  | askValue name rest ih => simp only [bind, ih]
  | askInput rest ih => simp only [bind, ih]

theorem bind_bind {γ : Type} (inquiry : Inquiry ε α) (next : α → Inquiry ε β)
    (last : β → Inquiry ε γ) :
    (inquiry.bind next).bind last = inquiry.bind fun value => (next value).bind last := by
  induction inquiry with
  | done value => rfl
  | failed error => rfl
  | told event rest ih => simp only [bind, ih]
  | askRead path rest ih => simp only [bind, ih]
  | askCanonical path rest ih => simp only [bind, ih]
  | askValue name rest ih => simp only [bind, ih]
  | askInput rest ih => simp only [bind, ih]

instance : LawfulMonad (Inquiry ε) :=
  LawfulMonad.mk' (Inquiry ε) bind_done (fun _ _ => rfl) bind_bind

/-- The inquiry with the answers of its surroundings. -/
def run (around : Surroundings) : Inquiry ε α → Traced ε α
  | done value => ⟨[], .ok value⟩
  | failed error => ⟨[], .error error⟩
  | told event next => ⟨event :: (next.run around).events, (next.run around).outcome⟩
  | askRead path next => (next (around.read path)).run around
  | askCanonical path next => (next (around.canonical path)).run around
  | askValue name next => (next (around.value? name)).run around
  | askInput next => (next around.input).run around

/-! ## Questions -/

def fail (error : ε) : Inquiry ε α := failed error

def tell (event : Event) : Inquiry ε Unit := told event (done ())

def read (path : String) : Inquiry ε (Except FileFault String) := askRead path done

def canonical (path : String) : Inquiry ε (Except FileFault String) := askCanonical path done

/-- Whether a path leads somewhere. -/
def exists? (path : String) : Inquiry ε Bool := askCanonical path fun answer => done answer.isOk

def value? (name : String) : Inquiry ε (Option String) := askValue name done

def input : Inquiry ε (Except FileFault String) := askInput done

/-- An inquiry that asks nothing. -/
def ofExcept : Except ε α → Inquiry ε α
  | .ok value => done value
  | .error error => failed error

def tellAll (events : List Event) : Inquiry ε Unit := events.foldr told (done ())

/-- A traced computation asks nothing. -/
def ofTraced (traced : Traced ε α) : Inquiry ε α :=
  traced.events.foldr told (ofExcept traced.outcome)

/-- The inquiry with its failure seen by the one who makes it. -/
def attempt : Inquiry ε α → Inquiry β (Except ε α)
  | done value => done (.ok value)
  | failed error => done (.error error)
  | told event next => told event next.attempt
  | askRead path next => askRead path fun answer => (next answer).attempt
  | askCanonical path next => askCanonical path fun answer => (next answer).attempt
  | askValue name next => askValue name fun answer => (next answer).attempt
  | askInput next => askInput fun answer => (next answer).attempt

/-- The inquiry with another kind of failure. -/
def mapError (change : ε → β) (inquiry : Inquiry ε α) : Inquiry β α :=
  inquiry.attempt.bind fun outcome => ofExcept (outcome.mapError change)

/-! ## Answers -/

@[simp] theorem run_pure (around : Surroundings) (value : α) :
    (pure value : Inquiry ε α).run around = pure value := rfl

@[simp] theorem run_bind (around : Surroundings) (first : Inquiry ε α) (next : α → Inquiry ε β) :
    (first >>= next).run around = first.run around >>= fun value => (next value).run around := by
  show (first.bind next).run around = _
  induction first with
  | done value => rfl
  | failed error => rfl
  | told event rest ih =>
    simp only [Inquiry.bind, run, ih]
    rcases (rest.run around) with ⟨events, outcome⟩
    cases outcome <;> rfl
  | askRead path rest ih => exact ih _
  | askCanonical path rest ih => exact ih _
  | askValue name rest ih => exact ih _
  | askInput rest ih => exact ih _

@[simp] theorem run_fail (around : Surroundings) (error : ε) :
    (fail error : Inquiry ε α).run around = Traced.fail error := rfl

@[simp] theorem run_tell (around : Surroundings) (event : Event) :
    (tell event : Inquiry ε Unit).run around = Traced.tell event := rfl

@[simp] theorem run_read (around : Surroundings) (path : String) :
    (read path : Inquiry ε _).run around = pure (around.read path) := rfl

@[simp] theorem run_canonical (around : Surroundings) (path : String) :
    (canonical path : Inquiry ε _).run around = pure (around.canonical path) := rfl

@[simp] theorem run_exists (around : Surroundings) (path : String) :
    (exists? path : Inquiry ε _).run around = pure (around.exists? path) := rfl

@[simp] theorem run_value (around : Surroundings) (name : String) :
    (value? name : Inquiry ε _).run around = pure (around.value? name) := rfl

@[simp] theorem run_input (around : Surroundings) :
    (input : Inquiry ε _).run around = pure around.input := rfl

@[simp] theorem run_ofExcept (around : Surroundings) (outcome : Except ε α) :
    (ofExcept outcome).run around = Traced.ofExcept outcome := by
  cases outcome <;> rfl

@[simp] theorem run_ofTraced (around : Surroundings) (traced : Traced ε α) :
    (ofTraced traced).run around = traced := by
  obtain ⟨events, outcome⟩ := traced
  induction events with
  | nil => exact run_ofExcept around outcome
  | cons event events ih =>
    simp only [ofTraced, List.foldr_cons, run] at ih ⊢
    rw [ih]

@[simp] theorem run_attempt (around : Surroundings) (inquiry : Inquiry ε α) :
    (inquiry.attempt : Inquiry β _).run around
      = ⟨(inquiry.run around).events, .ok (inquiry.run around).outcome⟩ := by
  induction inquiry with
  | done value => rfl
  | failed error => rfl
  | told event rest ih => simp only [attempt, run, ih]
  | askRead path rest ih => exact ih _
  | askCanonical path rest ih => exact ih _
  | askValue name rest ih => exact ih _
  | askInput rest ih => exact ih _

end Inquiry
end AccessReport
