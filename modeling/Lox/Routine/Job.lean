import Lox.Routine.Basic

/-!
# Jobs: routines with a state and failures

A *job* is a routine that also carries a state of type `σ` and may fail with an `ε`. A failure
keeps the state at which it arose. The goals of a job are *requests*; each is passed on together
with the state, and comes back with a result or a failure and the state it left.

## Main definitions

* `Job`: the monad; `Job.ask`: the job that makes one request.
* `Job.Step`: how the treatment of a request ends; `Job.body`: the body given by the treatment of
  every request.
* `Job.run`: a job's outcome from a state, within a number of moves.
* `Job.meaning`: its outcome when requests nest at most a given number of times.
-/

namespace Lox

namespace Job

variable {κ : Type}

/-- A request and the state in which it is made. -/
abbrev Goal (σ : Type) (Request : κ → Type) (k : κ) : Type :=
  Request k × σ

/-- The outcome of a request and the state it leaves. -/
abbrev Answer (σ ε : Type) (Result : κ → Type) (k : κ) : Type :=
  Except ε (Result k) × σ

/-- The treatment of a request ends with its result, or hands over to another request of the same
kind. -/
inductive Step (Request Result : κ → Type) (k : κ) : Type where
  | finished (result : Result k)
  | handOver (request : Request k)

end Job

/-- A computation of an `α` with a state `σ`, failures `ε` and requests. -/
abbrev Job {κ : Type} (σ ε : Type) (Request Result : κ → Type) (α : Type) : Type :=
  ExceptT ε (StateT σ (Routine (Job.Goal σ Request) (Job.Answer σ ε Result))) α

namespace Job

variable {κ : Type} {σ ε : Type} {Request Result : κ → Type} {α : Type} {k : κ}

/-- Make one request. -/
@[inline] def ask (request : Request k) : Job σ ε Request Result (Result k) :=
  fun state => Routine.ask (request, state)

/-- Do a job, and then restore part of the state whatever its outcome was. -/
@[inline] def always (job : Job σ ε Request Result α) (restore : σ → σ) :
    Job σ ε Request Result α :=
  fun state => do
    let (outcome, left) ← job state
    pure (outcome, restore left)

variable (step : (k : κ) → Request k → Job σ ε Request Result (Step Request Result k))

/-- The body in which every request is treated by `step`. -/
def body (k : κ) : Goal σ Request k →
    Routine (Goal σ Request) (Answer σ ε Result) (Reply (Goal σ Request) (Answer σ ε Result) k)
  | (request, state) => do
    match ← step k request state with
    | (.ok (.finished result), left) => pure (.answer (.ok result, left))
    | (.ok (.handOver request), left) => pure (.become (request, left))
    | (.error failure, left) => pure (.answer (.error failure, left))

/-- The outcome of a job from a state, if `moves` moves are enough. -/
def run (moves : Nat) (job : Job σ ε Request Result α) (state : σ) : Option (Except ε α × σ) :=
  Routine.run (body step) moves (job state)

/-- The outcome of a job from a state, if its requests nest at most `n` deep. -/
def meaning (n : Nat) (job : Job σ ε Request Result α) (state : σ) : Option (Except ε α × σ) :=
  (job state).denote (Routine.solve (body step) n)

end Job

end Lox
