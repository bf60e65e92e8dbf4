import Lox.Proofs.Routine.Growth

/-!
# Jobs that lead onward

A job that begins in a state leads onward if it keeps to a contract, lets the state grow in every
stretch, and ends in a state that comes after the one in which it began. Jobs that lead onward are
put together like jobs.

## Main definitions

* `Job.Onward`: a job leads onward from a state, with results that have a property.

## Main results

* `Job.Onward.bind`, `Job.Onward.ask`, `Job.onward_always`: jobs that are put together.
-/

namespace Lox.Job

variable {κ : Type} {σ ε : Type} {Request Result : κ → Type} {α β : Type} {k : κ}
  (C : Contract (Goal σ Request) (Answer σ ε Result)) (R B : σ → σ → Prop)

/-- A job has ended in a state that comes after the one in which it began, and its result has a
property in the state that is left. -/
def Arrived (s : σ) (Q : σ → α → Prop) (left : Except ε α × σ) : Prop :=
  B s left.2 ∧ ∀ a, left.1 = .ok a → Q left.2 a

/-- A job that begins in a state keeps to a contract and lets the state grow in every stretch, ends
in a state that comes after it, and its result has a property there. -/
def Onward (s : σ) (Q : σ → α → Prop) (job : Job σ ε Request Result α) : Prop :=
  Routine.Grows C R Prod.snd (Arrived B s Q) s (job s)

variable {C R B} {s t : σ} {Q Q' : σ → α → Prop} {P : σ → β → Prop}

namespace Onward

theorem mono {job : Job σ ε Request Result α} (h : Onward C R B s Q job)
    (h' : ∀ t a, Q t a → Q' t a) : Onward C R B s Q' job :=
  Routine.Grows.mono h fun _ ⟨before, result⟩ =>
    ⟨before, fun a isResult => h' _ a (result a isResult)⟩

/-- The state at a point of a job. -/
theorem get {next : σ → Job σ ε Request Result β} (h : Onward C R B s P (next s)) :
    Onward C R B s P (MonadState.get >>= next) :=
  h

theorem modifyGet {f : σ → α × σ} (grown : R s (f s).2) (before : B s (f s).2)
    (result : Q (f s).2 (f s).1) :
    Onward C R B s Q (MonadState.modifyGet f : Job σ ε Request Result α) :=
  .done grown ⟨before, fun _ isResult => by cases isResult; exact result⟩

variable [IsPreorder σ R]

theorem pure {a : α} (state : B s s) (result : Q s a) :
    Onward C R B s Q (Pure.pure a : Job σ ε Request Result α) :=
  .done (refl_of R s) ⟨state, fun _ isResult => by cases isResult; exact result⟩

theorem throw {e : ε} (state : B s s) :
    Onward C R B s Q (MonadExcept.throw e : Job σ ε Request Result α) :=
  .done (refl_of R s) ⟨state, nofun⟩

theorem ask {r : Request k} {Q : σ → Result k → Prop} (pre : C.Pre (r, s))
    (post : ∀ answer, C.Post (r, s) answer → Arrived B s Q answer) :
    Onward C R B s Q (Job.ask r : Job σ ε Request Result (Result k)) :=
  .call (refl_of R s) pre fun answer promised => .done (refl_of R _) (post answer promised)

theorem bind [IsTrans σ B] {job : Job σ ε Request Result α}
    {next : α → Job σ ε Request Result β} (h : Onward C R B s Q job)
    (h' : ∀ a t, B s t → Q t a → Onward C R B t P (next a)) :
    Onward C R B s P (job >>= next) := by
  refine Routine.Grows.bind h ?_
  rintro ⟨outcome, t⟩ ⟨before, result⟩
  cases outcome with
  | error e => exact .done (refl_of R t) ⟨before, nofun⟩
  | ok a =>
    refine Routine.Grows.mono (h' a t before (result a rfl)) ?_
    exact fun left ⟨before', result'⟩ => ⟨trans_of B before before', result'⟩

end Onward

/-- A job in changed states, after which the change is undone. -/
theorem onward_always [IsPreorder σ R] {job : Job σ ε Request Result α} {restore : σ → σ}
    (grown : R s t) (h : Onward C R B t Q job)
    (restored : ∀ u, B t u → R u (restore u) ∧ B s (restore u) ∧
      ∀ a, Q u a → Q' (restore u) a) :
    Routine.Grows C R Prod.snd (Arrived B s Q') s (job.always restore t) := by
  refine (Routine.Grows.bind h ?_).behind grown
  rintro ⟨outcome, u⟩ ⟨before, result⟩
  obtain ⟨grown', before', same⟩ := restored u before
  exact .done grown' ⟨before', fun a isResult => same a (result a isResult)⟩

end Lox.Job
