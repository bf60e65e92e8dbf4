import Lox.Routine.Meaning
import Mathlib.Data.Option.Basic
import Mathlib.Order.Defs.Unbundled

/-!
# Routines abreast of each other

Two routines are abreast of each other if they ask for goals that belong together, go on abreast
with answers that belong together, and end with related results. What belongs together depends on
how far both have come, and grows on the way. If the treatments of goals that belong together are
abreast, then both routines have results or neither has, and the results are related.

In contrast to similar routines, the relation on states is not fixed for a whole run.

## Main definitions

* `Routine.Company`, `Routine.Abreast`: goals and answers that belong together, and routines that
  are abreast of each other.
* `Job.Company`, `Job.Abreast`: the same for jobs, whose states are seen as one joint state.

## Main results

* `Routine.Abreast.denote`: routines that are abreast of each other have related results.
* `Job.Abreast.bind`, `Job.Abreast.ask`, `Job.abreast_always`: jobs that are put together.
* `Job.Abreast.meaning`: jobs that are abreast of each other have related outcomes.
-/

namespace Lox.Routine

variable {ι κ : Type} {Goal Answer : κ → Type} {α α' β β' : Type} {k : κ}

/-- Which goals belong together at a point, and which answers to them. -/
structure Company (ι : Type) {κ : Type} (Goal Answer : κ → Type) where
  Pre {k : κ} : ι → Goal k → Goal k → Prop
  Post {k : κ} : ι → Answer k → Answer k → Prop

section

variable (C : Company ι Goal Answer)

/-- Two routines ask for goals that belong together, go on abreast of each other with answers that
do, and end with results that are related by `Q`. -/
inductive Abreast (Q : α → β → Prop) : Routine Goal Answer α → Routine Goal Answer β → Prop
  | done {a : α} {b : β} (related : Q a b) : Abreast Q (done a) (done b)
  | call {k : κ} {goal goal' : Goal k} {next : Answer k → Routine Goal Answer α}
      {next' : Answer k → Routine Goal Answer β} (i : ι) (pre : C.Pre i goal goal')
      (go : ∀ a a', C.Post i a a' → Abreast Q (next a) (next' a')) :
      Abreast Q (call goal next) (call goal' next')

/-- Two treatments end with answers that are related by `P`, or turn into goals that belong together
and have such answers. -/
inductive AbreastReply (P : Answer k → Answer k → Prop) :
    Reply Goal Answer k → Reply Goal Answer k → Prop
  | answer {a a' : Answer k} (related : P a a') : AbreastReply P (.answer a) (.answer a')
  | become {goal goal' : Goal k} (i : ι) (pre : C.Pre i goal goal')
      (post : ∀ a a', C.Post i a a' → P a a') : AbreastReply P (.become goal) (.become goal')

/-- The treatments of goals that belong together are abreast of each other. -/
def Accompanied (body : (k : κ) → Goal k → Routine Goal Answer (Reply Goal Answer k)) : Prop :=
  ∀ i k goal goal', C.Pre i goal goal' →
    Abreast C (AbreastReply C (C.Post i)) (body k goal) (body k goal')

end

variable {C : Company ι Goal Answer}
  {body : (k : κ) → Goal k → Routine Goal Answer (Reply Goal Answer k)}

theorem Abreast.bind {Q : α → β → Prop} {Q' : α' → β' → Prop} {r : Routine Goal Answer α}
    {r' : Routine Goal Answer β} {f : α → Routine Goal Answer α'}
    {f' : β → Routine Goal Answer β'} (h : Abreast C Q r r')
    (h' : ∀ a b, Q a b → Abreast C Q' (f a) (f' b)) : Abreast C Q' (r.bind f) (r'.bind f') := by
  induction h with
  | done related => exact h' _ _ related
  | call i pre _ ih => exact .call i pre ih

theorem Abreast.mono {Q Q' : α → β → Prop} {r : Routine Goal Answer α} {r' : Routine Goal Answer β}
    (h : Abreast C Q r r') (h' : ∀ a b, Q a b → Q' a b) : Abreast C Q' r r' := by
  induction h with
  | done related => exact .done (h' _ _ related)
  | call i pre _ ih => exact .call i pre ih

/-- Routines that are abreast of each other have related results, or none. -/
theorem Abreast.denote {Q : α → β → Prop} {solve : (k : κ) → Goal k → Option (Answer k)}
    (solves : ∀ i k goal goal', C.Pre i goal goal' →
      Option.Rel (C.Post i) (solve k goal) (solve k goal'))
    {r : Routine Goal Answer α} {r' : Routine Goal Answer β} (h : Abreast C Q r r') :
    Option.Rel Q (r.denote solve) (r'.denote solve) := by
  induction h with
  | done related => exact .some related
  | @call k goal goal' next next' i pre _ ih =>
    have answers := solves i k goal goal' pre
    unfold Routine.denote
    generalize solve k goal = o at answers
    generalize solve k goal' = o' at answers
    cases answers with
    | none => exact .none
    | some related => exact ih _ _ related

/-- Goals that belong together have answers that do, or none. -/
theorem Accompanied.solve (h : Accompanied C body) (n : Nat) :
    ∀ i k goal goal', C.Pre i goal goal' →
      Option.Rel (C.Post i) (solve body n k goal) (solve body n k goal') := by
  induction n with
  | zero => exact fun _ _ _ _ _ => .none
  | succ n ih =>
    intro i k goal goal' pre
    have replies := (h i k goal goal' pre).denote ih
    rw [solve_succ, solve_succ]
    generalize (body k goal).denote (Routine.solve body n) = o at replies
    generalize (body k goal').denote (Routine.solve body n) = o' at replies
    cases replies with
    | none => exact .none
    | some reply =>
      cases reply with
      | answer related => exact .some related
      | @become goal goal' i' pre' post =>
        have answers := ih i' k goal goal' pre'
        dsimp only [Option.bind_some, settle]
        generalize Routine.solve body n k goal = o at answers
        generalize Routine.solve body n k goal' = o' at answers
        cases answers with
        | none => exact .none
        | some related => exact .some (post _ _ related)

end Lox.Routine

/-! ### Jobs -/

namespace Lox.Job

variable {κ J : Type} {σ ε : Type} {Request Result : κ → Type} {α α' β β' : Type} {k : κ}

/-- Joint states of two jobs, the state of each, the joint states that come later, and the requests
and results that belong together in a joint state. -/
structure Company (J σ : Type) {κ : Type} (Request Result : κ → Type) where
  left : J → σ
  right : J → σ
  Ahead : J → J → Prop
  request {k : κ} : J → Request k → Request k → Prop
  result {k : κ} : J → Result k → Result k → Prop

section

variable (C : Company J σ Request Result)

/-- Two jobs have ended in a later joint state, with results that are related by `Q` there, or with
the same failure. -/
inductive Company.Outcome (j : J) (Q : J → α → β → Prop) :
    Except ε α × σ → Except ε β × σ → Prop
  | ok {a : α} {b : β} (j' : J) (ahead : C.Ahead j j') (related : Q j' a b) :
      Outcome j Q (.ok a, C.left j') (.ok b, C.right j')
  | error (e : ε) (j' : J) (ahead : C.Ahead j j') :
      Outcome j Q (.error e, C.left j') (.error e, C.right j')

/-- Requests in one joint state belong together, and so do outcomes in one that comes later. -/
def Company.goals : Routine.Company J (Goal σ Request) (Answer σ ε Result) where
  Pre j goal goal' := C.request j goal.1 goal'.1 ∧ goal.2 = C.left j ∧ goal'.2 = C.right j
  Post j := C.Outcome j fun j' => C.result j'

/-- Two treatments end with results that belong together, or hand over to requests that do. -/
inductive Company.Ends (j : J) : Step Request Result k → Step Request Result k → Prop
  | finished {a a' : Result k} (results : C.result j a a') : Ends j (.finished a) (.finished a')
  | handOver {r r' : Request k} (requests : C.request j r r') :
      Ends j (.handOver r) (.handOver r')

/-- Two jobs that begin in a joint state are abreast of each other, and their results are related by
`Q`. -/
def Abreast (j : J) (Q : J → α → β → Prop) (job : Job σ ε Request Result α)
    (job' : Job σ ε Request Result β) : Prop :=
  Routine.Abreast C.goals (C.Outcome j Q) (job (C.left j)) (job' (C.right j))

end

variable {C : Company J σ Request Result} {j : J} {Q : J → α → β → Prop} {P : J → α' → β' → Prop}

namespace Abreast

/-- The states at a point of two jobs. -/
theorem get {next : σ → Job σ ε Request Result α} {next' : σ → Job σ ε Request Result β}
    (h : Abreast C j Q (next (C.left j)) (next' (C.right j))) :
    Abreast C j Q (MonadState.get >>= next) (MonadState.get >>= next') :=
  h

theorem modifyGet {f : σ → α × σ} {f' : σ → β × σ} (j' : J) (ahead : C.Ahead j j')
    (isLeft : (f (C.left j)).2 = C.left j') (isRight : (f' (C.right j)).2 = C.right j')
    (related : Q j' (f (C.left j)).1 (f' (C.right j)).1) :
    Abreast C j Q (MonadState.modifyGet f : Job σ ε Request Result α)
      (MonadState.modifyGet f') := by
  refine .done ?_
  have outcome := Company.Outcome.ok (C := C) (ε := ε) j' ahead related
  rw [← isLeft, ← isRight] at outcome
  exact outcome

theorem ask {r r' : Request k} (requests : C.request j r r') :
    Abreast C j (fun j' => C.result j') (Job.ask r : Job σ ε Request Result (Result k))
      (Job.ask r') :=
  .call j ⟨requests, rfl, rfl⟩ fun _ _ answers => .done answers

variable [IsPreorder J C.Ahead]

theorem pure {a : α} {b : β} (related : Q j a b) :
    Abreast C j Q (Pure.pure a : Job σ ε Request Result α) (Pure.pure b) :=
  .done (.ok j (refl_of C.Ahead j) related)

theorem throw (e : ε) :
    Abreast C j Q (MonadExcept.throw e : Job σ ε Request Result α) (MonadExcept.throw e) :=
  .done (.error e j (refl_of C.Ahead j))

/-- What is abreast from a later joint state on is so from an earlier one. -/
theorem behind {j' : J} (ahead : C.Ahead j j') {r : Routine (Goal σ Request) (Answer σ ε Result) _}
    {r' : Routine (Goal σ Request) (Answer σ ε Result) _}
    (h : Routine.Abreast C.goals (C.Outcome (ε := ε) j' Q) r r') :
    Routine.Abreast C.goals (C.Outcome j Q) r r' := by
  refine Routine.Abreast.mono h ?_
  rintro _ _ (⟨j'', ahead', related⟩ | ⟨e, j'', ahead'⟩)
  · exact .ok j'' (trans_of C.Ahead ahead ahead') related
  · exact .error e j'' (trans_of C.Ahead ahead ahead')

theorem bind {job : Job σ ε Request Result α} {job' : Job σ ε Request Result β}
    {next : α → Job σ ε Request Result α'} {next' : β → Job σ ε Request Result β'}
    (h : Abreast C j Q job job')
    (h' : ∀ j' a b, C.Ahead j j' → Q j' a b → Abreast C j' P (next a) (next' b)) :
    Abreast C j P (job >>= next) (job' >>= next') := by
  refine Routine.Abreast.bind h ?_
  rintro _ _ (⟨j', ahead, related⟩ | ⟨e, j', ahead⟩)
  · exact behind ahead (h' j' _ _ ahead related)
  · exact .done (.error e j' ahead)

end Abreast

/-- Jobs in changed states, after which the changes are undone. -/
theorem abreast_always {j' : J} {Q' : J → α → β → Prop} {job : Job σ ε Request Result α}
    {job' : Job σ ε Request Result β} {restore restore' : σ → σ} (h : Abreast C j' Q job job')
    (restored : ∀ i, C.Ahead j' i → ∃ i', C.Ahead j i' ∧ restore (C.left i) = C.left i' ∧
      restore' (C.right i) = C.right i' ∧ ∀ a b, Q i a b → Q' i' a b) :
    Routine.Abreast C.goals (C.Outcome j Q') (job.always restore (C.left j'))
      (job'.always restore' (C.right j')) := by
  refine Routine.Abreast.bind h ?_
  rintro _ _ (⟨i, ahead, related⟩ | ⟨e, i, ahead⟩)
  · obtain ⟨i', ahead', isLeft, isRight, same⟩ := restored i ahead
    dsimp only
    rw [isLeft, isRight]
    exact .done (.ok i' ahead' (same _ _ related))
  · obtain ⟨i', ahead', isLeft, isRight, -⟩ := restored i ahead
    dsimp only
    rw [isLeft, isRight]
    exact .done (.error e i' ahead')

section Step

variable {step : (k : κ) → Request k → Job σ ε Request Result (Step Request Result k)}

/-- If the treatments of requests that belong together are abreast of each other as jobs, they are
so as bodies. -/
theorem accompanied [IsPreorder J C.Ahead] (h : ∀ k j (r r' : Request k), C.request j r r' →
    Abreast C j (fun j' => C.Ends j') (step k r) (step k r')) :
    Routine.Accompanied C.goals (body step) := by
  rintro j k ⟨r, _⟩ ⟨r', _⟩ ⟨requests, rfl, rfl⟩
  refine Routine.Abreast.bind (h k j r r' requests) ?_
  rintro _ _ (⟨j', ahead, ends⟩ | ⟨e, j', ahead⟩)
  · cases ends with
    | finished results => exact .done (.answer (.ok j' ahead results))
    | handOver requests =>
      refine .done (.become j' ⟨requests, rfl, rfl⟩ ?_)
      rintro _ _ (⟨j'', ahead', related⟩ | ⟨e, j'', ahead'⟩)
      · exact .ok j'' (trans_of C.Ahead ahead ahead') related
      · exact .error e j'' (trans_of C.Ahead ahead ahead')
  · exact .done (.answer (.error e j' ahead))

/-- Jobs that are abreast of each other have related outcomes, or none. -/
theorem Abreast.meaning (steps : Routine.Accompanied C.goals (body step))
    {job : Job σ ε Request Result α} {job' : Job σ ε Request Result β} (h : Abreast C j Q job job')
    (n : Nat) :
    Option.Rel (C.Outcome j Q) (meaning step n job (C.left j)) (meaning step n job' (C.right j)) :=
  Routine.Abreast.denote (steps.solve n) h

end Step

end Lox.Job
