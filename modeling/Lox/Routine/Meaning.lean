import Lox.Routine.Adequacy
import Lox.Routine.Job

/-!
# What jobs mean

The recursive reading of a job takes a state to an outcome and a state. It is determined by the
equations of this file, one for each way to build a job, and by the equation for a request, which
has the meaning of its treatment.

## Main definitions

* `Job.answer`: the outcome of a request, if requests nest at most a given number of times.

## Main results

* `Job.meaning_bind`, `Job.meaning_ask`, `Job.answer_succ`: jobs in sequence and requests.
* `Job.exists_run_iff`: running a job and its meaning agree.
-/

namespace Lox.Job

variable {κ : Type} {σ ε : Type} {Request Result : κ → Type} {α β : Type} {k : κ}

variable (step : (k : κ) → Request k → Job σ ε Request Result (Step Request Result k))

/-- The outcome of a request from a state, if requests nest at most `n` deep. -/
def answer (n : Nat) (request : Request k) (state : σ) : Option (Except ε (Result k) × σ) :=
  Routine.solve (body step) n k (request, state)

section Meaning

variable (n : Nat) (state : σ)

@[simp] theorem meaning_pure (a : α) :
    meaning step n (pure a : Job σ ε Request Result α) state = some (.ok a, state) := rfl

@[simp] theorem meaning_throw (e : ε) :
    meaning step n (throw e : Job σ ε Request Result α) state = some (.error e, state) := rfl

@[simp] theorem meaning_get :
    meaning step n (get : Job σ ε Request Result σ) state = some (.ok state, state) := rfl

@[simp] theorem meaning_modify (f : σ → σ) :
    meaning step n (modify f : Job σ ε Request Result PUnit) state = some (.ok ⟨⟩, f state) := rfl

@[simp] theorem meaning_modifyGet (f : σ → α × σ) :
    meaning step n (modifyGet f : Job σ ε Request Result α) state =
      some (.ok (f state).1, (f state).2) := rfl

@[simp] theorem meaning_ask (request : Request k) :
    meaning step n (ask request : Job σ ε Request Result (Result k)) state =
      answer step n request state := by
  simp [meaning, ask, answer]

@[simp] theorem meaning_bind (job : Job σ ε Request Result α)
    (next : α → Job σ ε Request Result β) :
    meaning step n (job >>= next) state =
      (meaning step n job state).bind fun (outcome, left) =>
        match outcome with
        | .ok a => meaning step n (next a) left
        | .error e => some (.error e, left) := by
  change (Routine.bind _ _).denote _ = _
  rw [Routine.denote_bind]
  unfold meaning
  congr 1
  funext (outcome, left)
  cases outcome <;> rfl

@[simp] theorem meaning_map (f : α → β) (job : Job σ ε Request Result α) :
    meaning step n (f <$> job) state =
      (meaning step n job state).map fun (outcome, left) => (outcome.map f, left) := by
  rw [show f <$> job = job >>= fun a => pure (f a) from rfl, meaning_bind]
  cases meaning step n job state with
  | none => rfl
  | some found =>
    obtain ⟨outcome, left⟩ := found
    cases outcome <;> rfl

@[simp] theorem meaning_tryCatch (job : Job σ ε Request Result α)
    (handler : ε → Job σ ε Request Result α) :
    meaning step n (tryCatch job handler) state =
      (meaning step n job state).bind fun (outcome, left) =>
        match outcome with
        | .ok a => some (.ok a, left)
        | .error e => meaning step n (handler e) left := by
  change (Routine.bind _ _).denote _ = _
  rw [Routine.denote_bind]
  unfold meaning
  congr 1
  funext (outcome, left)
  cases outcome <;> rfl

@[simp] theorem meaning_always (job : Job σ ε Request Result α) (restore : σ → σ) :
    meaning step n (job.always restore) state =
      (meaning step n job state).map fun (outcome, left) => (outcome, restore left) := by
  change (Routine.bind _ _).denote _ = _
  rw [Routine.denote_bind, Option.map_eq_bind]
  rfl

end Meaning

/-- A request has the meaning of its treatment. -/
theorem answer_succ (n : Nat) (request : Request k) (state : σ) :
    answer step (n + 1) request state =
      (meaning step n (step k request) state).bind fun (outcome, left) =>
        match outcome with
        | .ok (.finished result) => some (.ok result, left)
        | .ok (.handOver request) => answer step n request left
        | .error e => some (.error e, left) := by
  rw [answer, Routine.solve_succ]
  change ((Routine.bind _ _).denote _).bind _ = _
  rw [Routine.denote_bind, Option.bind_assoc]
  unfold meaning
  congr 1
  funext (outcome, left)
  rcases outcome with e | result | request <;> rfl

/-- A greater bound keeps the outcome of a request. -/
theorem answer_mono {n m : Nat} (h : n ≤ m) {request : Request k} {state : σ}
    {found : Except ε (Result k) × σ} (answered : answer step n request state = some found) :
    answer step m request state = some found :=
  Routine.solve_mono (body step) h answered

/-- A greater bound keeps the outcome of a job. -/
theorem meaning_mono {n m : Nat} (h : n ≤ m) {job : Job σ ε Request Result α} {state : σ}
    {found : Except ε α × σ} (result : meaning step n job state = some found) :
    meaning step m job state = some found :=
  Routine.denote_solve_mono (body step) h result

/-- More moves keep the outcome of a job. -/
theorem run_mono {moves moves' : Nat} (h : moves ≤ moves') {job : Job σ ε Request Result α}
    {state : σ} {found : Except ε α × σ} (result : run step moves job state = some found) :
    run step moves' job state = some found :=
  Routine.run_mono (body step) h result

/-- Running a job ends with an outcome, after enough moves, exactly if the job has this meaning for
a large enough bound. -/
theorem exists_run_iff {job : Job σ ε Request Result α} {state : σ} {found : Except ε α × σ} :
    (∃ moves, run step moves job state = some found) ↔
      ∃ n, meaning step n job state = some found :=
  Routine.exists_run_iff (body step)

end Lox.Job
