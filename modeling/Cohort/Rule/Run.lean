import Cohort.Value

/-! # Evaluations

Evaluating a rule gives a value or an error, and on the way it calls functions. A function of the
host may do more than return, so which calls were made, with which arguments and in which order, is
part of what an evaluation is. `Run` keeps the calls beside the outcome; sequencing two runs appends
the calls of the second, unless the first has failed. -/

namespace Cohort.Rule

/-- One call of a function. -/
structure Call where
  function : String
  arguments : List Value

/-- The calls made, in order, and how the evaluation ended. -/
structure Run (ε α : Type) where
  calls : List Call
  outcome : Except ε α

namespace Run

variable {ε α β : Type}

/-- An evaluation that only returns. -/
def ok (a : α) : Run ε α := ⟨[], .ok a⟩

/-- An evaluation that only fails. -/
def fail (e : ε) : Run ε α := ⟨[], .error e⟩

/-- An outcome reached without calls. -/
def ofExcept (r : Except ε α) : Run ε α := ⟨[], r⟩

/-- One evaluation after another. -/
def bind (x : Run ε α) (f : α → Run ε β) : Run ε β :=
  match x.outcome with
  | .error e => ⟨x.calls, .error e⟩
  | .ok a => ⟨x.calls ++ (f a).calls, (f a).outcome⟩

instance : Monad (Run ε) where
  pure := ok
  bind := bind

/-- A call is recorded before its outcome. -/
def call (function : String) (arguments : List Value) (r : Except ε α) : Run ε α :=
  ⟨[⟨function, arguments⟩], r⟩

/-- The same evaluation with another kind of error. -/
def mapError {δ : Type} (f : ε → δ) (x : Run ε α) : Run δ α :=
  ⟨x.calls, x.outcome.mapError f⟩

@[simp] theorem outcome_pure (a : α) : (pure a : Run ε α).outcome = .ok a := rfl

@[simp] theorem outcome_fail (e : ε) : (fail e : Run ε α).outcome = .error e := rfl

@[simp] theorem outcome_ofExcept (r : Except ε α) : (ofExcept r).outcome = r := rfl

/-- Sequencing runs sequences their outcomes. -/
@[simp] theorem outcome_bind (x : Run ε α) (f : α → Run ε β) :
    (x >>= f).outcome = x.outcome.bind fun a => (f a).outcome := by
  show (Run.bind x f).outcome = _
  unfold Run.bind Except.bind
  cases x.outcome <;> rfl

end Run

end Cohort.Rule
