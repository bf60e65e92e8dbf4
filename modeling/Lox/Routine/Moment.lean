import Lox.Routine.Job

/-!
# Jobs in progress

A job can be stopped after a number of moves and taken up again. At every such moment its state can
be looked at and replaced, for instance to take away what was written so far.

## Main definitions

* `Job.Moment`: a job in progress; `Job.start`, `Job.proceed`: start it and go on with it.
* `Job.Moment.exchange`: take something out of its state.
-/

namespace Lox.Job

variable {κ : Type} {σ ε : Type} {Request Result : κ → Type} {α β : Type}

/-- A job in progress, with its state. -/
abbrev Moment (σ ε : Type) (Request Result : κ → Type) (α : Type) : Type :=
  Routine.Config (Goal σ Request) (Answer σ ε Result) (Except ε α × σ)

/-- The moment at which a job begins. -/
def start (job : Job σ ε Request Result α) (state : σ) : Moment σ ε Request Result α :=
  .outer (job state)

/-- Make a number of moves, up to the outcome. -/
def proceed (step : (k : κ) → Request k → Job σ ε Request Result (Step Request Result k))
    (moves : Nat) (moment : Moment σ ε Request Result α) :
    Except (Moment σ ε Request Result α) (Except ε α × σ) :=
  Routine.advance (body step) moves moment

/-- Take something out of the state of a job in progress. -/
def Moment.exchange (take : σ → β × σ) : Moment σ ε Request Result α →
    β × Moment σ ε Request Result α
  | .outer (.done (outcome, state)) =>
    let (taken, state) := take state
    (taken, .outer (.done (outcome, state)))
  | .outer (.call (request, state) next) =>
    let (taken, state) := take state
    (taken, .outer (.call (request, state) next))
  | .inner (.call (request, state) next) waiting =>
    let (taken, state) := take state
    (taken, .inner (.call (request, state) next) waiting)
  | .inner (.done (.answer (outcome, state))) waiting =>
    let (taken, state) := take state
    (taken, .inner (.done (.answer (outcome, state))) waiting)
  | .inner (.done (.become (request, state))) waiting =>
    let (taken, state) := take state
    (taken, .inner (.done (.become (request, state))) waiting)

end Lox.Job
