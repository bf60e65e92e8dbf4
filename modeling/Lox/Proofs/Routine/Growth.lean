import Mathlib.Order.Defs.Unbundled
import Lox.Proofs.Routine.Contract
import Lox.Routine.Moment

/-!
# States that grow

A contract promises something about the state in which a goal is answered. Often more is true: from
each moment of a run to every later one the state only grows, in the sense of some preorder. That
does not follow from what is promised of answers, for of two moments neither has to be the answer to
the goal of the other. It follows if every stretch of a treatment lets the state grow, from its
beginning or an answer to the next goal or the end.

## Main definitions

* `Routine.Grows`: a routine keeps to a contract, and lets the state grow in every stretch.
* `Contract.Grown`: the treatments of goals do so.
* `Job.Moment.state`: the state at a moment of a run.

## Main results

* `Contract.Grown.honoured`: in particular, the treatments of goals keep to the contract.
* `Job.Grows.proceed`: the state grows from a moment of a run to the later ones.
-/

namespace Lox

namespace Routine

variable {κ σ ε : Type} {Request Result : κ → Type} {α β : Type} {k : κ}
  (C : Contract (Job.Goal σ Request) (Job.Answer σ ε Result)) (R : σ → σ → Prop)

/-- A routine that goes on in a state asks only for goals that may be asked, and lets the state grow
up to its next goal, and from the answer on. Its result has a property, provided that the answers
are as promised; `left` is the state in it. -/
inductive Grows (left : α → σ) (Q : α → Prop) :
    σ → Routine (Job.Goal σ Request) (Job.Answer σ ε Result) α → Prop
  | done {s : σ} {a : α} (grown : R s (left a)) (result : Q a) : Grows left Q s (done a)
  | call {s : σ} {k : κ} {goal : Job.Goal σ Request k}
      {next : Job.Answer σ ε Result k → Routine (Job.Goal σ Request) (Job.Answer σ ε Result) α}
      (grown : R s goal.2) (pre : C.Pre goal)
      (go : ∀ a, C.Post goal a → Grows left Q a.2 (next a)) : Grows left Q s (call goal next)

variable {C R} {left : α → σ} {Q Q' : α → Prop} {s t : σ}
  {r : Routine (Job.Goal σ Request) (Job.Answer σ ε Result) α}

theorem Grows.mono (h : Grows C R left Q s r) (h' : ∀ a, Q a → Q' a) : Grows C R left Q' s r := by
  induction h with
  | done grown result => exact .done grown (h' _ result)
  | call grown pre _ ih => exact .call grown pre ih

/-- A routine that lets the state grow keeps to the contract. -/
theorem Grows.keeps {asks : Task (Job.Goal σ Request) → Prop} (h : Grows C R left Q s r)
    (free : ∀ task, asks task) : Keeps C asks Q r := by
  induction h with
  | done _ result => exact .done result
  | call _ pre _ ih => exact .call pre (free _) ih

variable [IsPreorder σ R]

/-- The state was smaller before. -/
theorem Grows.behind (h : Grows C R left Q t r) (before : R s t) : Grows C R left Q s r := by
  cases h with
  | done grown result => exact .done (trans_of R before grown) result
  | call grown pre go => exact .call (trans_of R before grown) pre go

theorem Grows.bind {left' : β → σ} {Q' : β → Prop}
    {f : α → Routine (Job.Goal σ Request) (Job.Answer σ ε Result) β} (h : Grows C R left Q s r)
    (h' : ∀ a, Q a → Grows C R left' Q' (left a) (f a)) : Grows C R left' Q' s (r.bind f) := by
  induction h with
  | done grown result => exact (h' _ result).behind grown
  | call grown pre _ ih => exact .call grown pre ih

end Routine

/-- The state that a treatment of a goal leaves behind. -/
def Reply.left {κ σ ε : Type} {Request Result : κ → Type} {k : κ} :
    Reply (Job.Goal σ Request) (Job.Answer σ ε Result) k → σ
  | .answer a => a.2
  | .become goal => goal.2

namespace Contract

variable {κ σ ε : Type} {Request Result : κ → Type}
  (C : Contract (Job.Goal σ Request) (Job.Answer σ ε Result)) (R : σ → σ → Prop)

/-- The treatments of the goals that may be asked keep to the contract and let the state grow. -/
def Grown (body : (k : κ) → Job.Goal σ Request k →
    Routine (Job.Goal σ Request) (Job.Answer σ ε Result)
      (Reply (Job.Goal σ Request) (Job.Answer σ ε Result) k)) : Prop :=
  ∀ (k : κ) (goal : Job.Goal σ Request k), C.Pre goal →
    Routine.Grows C R Reply.left (C.Ends goal) goal.2 (body k goal)

variable {C R}

/-- Such treatments keep to the contract, if it does not say which goals come up in others. -/
theorem Grown.honoured {body : (k : κ) → Job.Goal σ Request k →
    Routine (Job.Goal σ Request) (Job.Answer σ ε Result)
      (Reply (Job.Goal σ Request) (Job.Answer σ ε Result) k)} (h : C.Grown R body)
    (free : ∀ task task', C.Next task task') : C.Honoured body :=
  fun k goal pre => (h k goal pre).keeps (free _)

/-- If the treatments of requests keep to a contract and let the state grow as jobs, they do so as
bodies. -/
theorem grown_of_grows [IsPreorder σ R]
    {step : (k : κ) → Request k → Job σ ε Request Result (Job.Step Request Result k)}
    (h : ∀ (k : κ) (request : Request k) (s : σ), C.Pre (request, s) →
      Routine.Grows C R Prod.snd (Job.Closes C (request, s)) s (step k request s)) :
    C.Grown R (Job.body step) := by
  rintro k ⟨request, s⟩ pre
  refine (h k request s pre).bind ?_
  rintro ⟨outcome, t⟩ closed
  rcases outcome with e | result | next
  · exact .done (refl_of R t) (.answer closed)
  · exact .done (refl_of R t) (.answer closed)
  · exact .done (refl_of R t) (.become closed.1 closed.2.1 closed.2.2)

end Contract

/-! ### Moments -/

namespace Job

open Routine

variable {κ σ ε : Type} {Request Result : κ → Type} {α : Type}

/-- The state at a moment of a run. -/
def Moment.state (moment : Moment σ ε Request Result α) : σ :=
  (moment.exchange fun s => (s, s)).1

/-- A goal that is taken up at a moment is answered at a later one, in the state that it leaves. -/
theorem Moment.exists_answered
    {step : (k : κ) → Request k → Job σ ε Request Result (Step Request Result k)}
    {moment : Moment σ ε Request Result α} {task : Task (Goal σ Request)}
    (taken : moment.task? = some task) {answer : Answer σ ε Result task.1}
    (answered : Answers (body step) task.2 answer) :
    ∃ more later, proceed step more moment = .error later ∧ later.state = answer.2 := by
  have treated : ∃ waiting, ∀ moves, proceed step (moves + 1) moment =
      advance (body step) moves (.inner (body step _ task.2) waiting) := by
    cases moment with
    | outer active =>
      cases active with
      | done => cases taken
      | call goal next =>
        cases taken
        exact ⟨.last next, fun _ => rfl⟩
    | inner active waiting =>
      cases active with
      | call goal next =>
        cases taken
        exact ⟨.push next waiting, fun _ => rfl⟩
      | done reply =>
        cases reply with
        | answer => cases taken
        | become goal =>
          cases taken
          exact ⟨waiting, fun _ => rfl⟩
  obtain ⟨waiting, treated⟩ := treated
  obtain ⟨n, answered⟩ := answered
  obtain ⟨m, isAnswer⟩ := exists_advance_body (body step) answered waiting
  exact ⟨m + 1, .inner (.done (.answer answer)) waiting, (treated m).trans (isAnswer 0), rfl⟩

variable (C : Contract (Goal σ Request) (Answer σ ε Result)) (R : σ → σ → Prop)
  (Q : Except ε α × σ → Prop)

/-- The routines that wait for the answer to a goal keep to the contract, and let the state grow
from the answer on. -/
inductive Awaits : {k : κ} → Goal σ Request k →
    Stack (Goal σ Request) (Answer σ ε Result) (Except ε α × σ) k → Prop
  | last {k : κ} {goal : Goal σ Request k}
      {next : Answer σ ε Result k →
        Routine (Goal σ Request) (Answer σ ε Result) (Except ε α × σ)}
      (go : ∀ a, C.Post goal a → Routine.Grows C R Prod.snd Q a.2 (next a)) :
      Awaits goal (.last next)
  | push {k k' : κ} {goal : Goal σ Request k} {outer : Goal σ Request k'}
      {next : Answer σ ε Result k → Routine (Goal σ Request) (Answer σ ε Result)
        (Reply (Goal σ Request) (Answer σ ε Result) k')}
      {waiting : Stack (Goal σ Request) (Answer σ ε Result) (Except ε α × σ) k'}
      (go : ∀ a, C.Post goal a → Routine.Grows C R Reply.left (C.Ends outer) a.2 (next a))
      (below : Awaits outer waiting) : Awaits goal (.push next waiting)

/-- At a moment of a run, after a state, all that is left to do keeps to the contract and lets the
state grow. -/
inductive Grows (s : σ) : Moment σ ε Request Result α → Prop
  | outer {active : Routine (Goal σ Request) (Answer σ ε Result) (Except ε α × σ)}
      (h : Routine.Grows C R Prod.snd Q s active) : Grows s (.outer active)
  | inner {k : κ} {goal : Goal σ Request k}
      {active : Routine (Goal σ Request) (Answer σ ε Result)
        (Reply (Goal σ Request) (Answer σ ε Result) k)}
      {waiting : Stack (Goal σ Request) (Answer σ ε Result) (Except ε α × σ) k}
      (h : Routine.Grows C R Reply.left (C.Ends goal) s active)
      (below : Awaits C R Q goal waiting) : Grows s (.inner active waiting)

variable {C R Q} {k : κ} {s : σ} {moment later : Moment σ ε Request Result α}

theorem Awaits.become {goal goal' : Goal σ Request k}
    {waiting : Stack (Goal σ Request) (Answer σ ε Result) (Except ε α × σ) k}
    (h : Awaits C R Q goal waiting) (posts : ∀ a, C.Post goal' a → C.Post goal a) :
    Awaits C R Q goal' waiting := by
  cases h with
  | last go => exact .last fun a promised => go a (posts a promised)
  | push go below => exact .push (fun a promised => go a (posts a promised)) below

theorem Grows.state (h : Grows C R Q s moment) : R s moment.state := by
  cases h with
  | outer h =>
    cases h with
    | done grown => exact grown
    | call grown => exact grown
  | inner h =>
    cases h with
    | call grown => exact grown
    | @done _ reply grown =>
      cases reply with
      | answer a => exact grown
      | become goal => exact grown

/-- A goal that is taken up at a moment may be asked, in the state at that moment. -/
theorem Grows.pre (h : Grows C R Q s moment) {task : Task (Goal σ Request)}
    (taken : moment.task? = some task) : C.Pre task.2 ∧ moment.state = task.2.2 := by
  cases h with
  | outer h =>
    cases h with
    | done => cases taken
    | call _ pre =>
      cases taken
      exact ⟨pre, rfl⟩
  | inner h =>
    cases h with
    | call _ pre =>
      cases taken
      exact ⟨pre, rfl⟩
    | done _ result =>
      cases result with
      | answer => cases taken
      | become pre =>
        cases taken
        exact ⟨pre, rfl⟩

/-- An answer that has just been given is as promised. -/
theorem Grows.post {a : Answer σ ε Result k}
    {waiting : Stack (Goal σ Request) (Answer σ ε Result) (Except ε α × σ) k}
    (h : Grows C R Q s (.inner (.done (.answer a)) waiting)) :
    ∃ goal : Goal σ Request k, C.Post goal a := by
  cases h with
  | inner h =>
    cases h with
    | done _ result =>
      cases result with
      | answer post => exact ⟨_, post⟩

/-- What holds where goals are asked, where they are answered and at the end, holds at every
moment. -/
theorem Grows.holds {I : σ → Prop} (h : Grows C R Q s moment)
    (asked : ∀ {k : κ} (goal : Goal σ Request k), C.Pre goal → I goal.2)
    (answered : ∀ {k : κ} (goal : Goal σ Request k) a, C.Post goal a → I a.2)
    (ended : ∀ left, Q left → I left.2) : I moment.state := by
  cases h with
  | outer h =>
    cases h with
    | done _ result => exact ended _ result
    | call _ pre => exact asked _ pre
  | inner h =>
    cases h with
    | call _ pre => exact asked _ pre
    | done _ result =>
      cases result with
      | answer post => exact answered _ _ post
      | become pre => exact asked _ pre

variable [IsPreorder σ R]

theorem Grows.behind {t : σ} (h : Grows C R Q t moment) (before : R s t) :
    Grows C R Q s moment := by
  cases h with
  | outer h => exact .outer (h.behind before)
  | inner h below => exact .inner (h.behind before) below

/-- It is enough to look at the state at the moment itself. -/
theorem Grows.here (h : Grows C R Q s moment) : Grows C R Q moment.state moment := by
  cases h with
  | outer h =>
    cases h with
    | done _ result => exact .outer (.done (refl_of R _) result)
    | call _ pre go => exact .outer (.call (refl_of R _) pre go)
  | inner h below =>
    cases h with
    | call _ pre go => exact .inner (.call (refl_of R _) pre go) below
    | @done _ reply _ result =>
      cases reply with
      | answer a => exact .inner (.done (refl_of R _) result) below
      | become goal => exact .inner (.done (refl_of R _) result) below

/-- From a moment of a run to the later ones the state grows. -/
theorem Grows.proceed {step : (k : κ) → Request k → Job σ ε Request Result (Step Request Result k)}
    (grown : C.Grown R (body step)) {moves : Nat} (h : Grows C R Q s moment)
    (reached : proceed step moves moment = .error later) : Grows C R Q moment.state later := by
  induction moves generalizing s moment with
  | zero =>
    cases reached
    exact h.here
  | succ moves ih =>
    -- one move leads to a moment at which the state has grown, and the others follow from there
    have go {next : Moment σ ε Request Result α} (h' : Grows C R Q moment.state next)
        (reached : Routine.advance (body step) moves next = .error later) :
        Grows C R Q moment.state later :=
      (ih h' reached).behind h'.state
    cases h with
    | outer h =>
      cases h with
      | done => cases reached
      | call _ pre next => exact go (.inner (grown _ _ pre) (.last next)) reached
    | inner h below =>
      cases h with
      | call _ pre next => exact go (.inner (grown _ _ pre) (.push next below)) reached
      | done _ result =>
        cases result with
        | become pre _ posts => exact go (.inner (grown _ _ pre) (below.become posts)) reached
        | answer promised =>
          cases below with
          | last next => exact go (.outer (next _ promised)) reached
          | push next below => exact go (.inner (next _ promised) below) reached

end Job

end Lox
