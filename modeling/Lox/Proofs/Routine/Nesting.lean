import Lox.Proofs.Routine.Contract

/-!
# Goals in progress

When a goal is taken up in the run of a routine, the treatments of other goals wait for it, each for
the one before. A goal that was handed over to another one does not wait.

## Main definitions

* `Routine.Nested`: a goal comes up in a run while the treatments of others wait.
* `Routine.Config.height`: the number of treatments that wait at a moment of the loop.

## Main results

* `Routine.arises_iff_exists_nested`: all that comes up does so inside some treatments.
* `Routine.exists_nested_of_advance`: the goals whose treatments wait on the stack of the loop.
-/

namespace Lox.Routine

variable {κ : Type} {Goal Answer : κ → Type} {α : Type}

/-- A goal comes up in the run of a routine while the treatments of other goals wait, the innermost
of them first: it was asked for by the innermost one, or an earlier goal that was asked for was
handed over to it. -/
inductive Nested (body : (k : κ) → Goal k → Routine Goal Answer (Reply Goal Answer k))
    (r : Routine Goal Answer α) : List (Task Goal) → Task Goal → Prop
  | first {task : Task Goal} (requested : Requests body r task) : Nested body r [] task
  | request {outer : List (Task Goal)} {task task' : Task Goal} (before : Nested body r outer task)
      (requested : Requests body (body _ task.2) task') : Nested body r (task :: outer) task'
  | become {outer : List (Task Goal)} {k : κ} {goal goal' : Goal k}
      (before : Nested body r outer ⟨k, goal⟩)
      (rest : Rest body (body k goal) (done (.become goal'))) : Nested body r outer ⟨k, goal'⟩

variable {body : (k : κ) → Goal k → Routine Goal Answer (Reply Goal Answer k)}
  {r : Routine Goal Answer α} {outer : List (Task Goal)} {task : Task Goal} {k : κ}

theorem Nested.arises (h : Nested body r outer task) : Arises body r task := by
  induction h with
  | first requested => exact ⟨_, requested, .refl⟩
  | request _ requested ih => exact ih.begets (.inl requested)
  | become _ rest ih => exact ih.begets (.inr ⟨_, rest, rfl⟩)

/-- A goal comes up in a run exactly if it does so inside the treatments of some goals. -/
theorem arises_iff_exists_nested : Arises body r task ↔ ∃ outer, Nested body r outer task := by
  constructor
  · rintro ⟨first, requested, course⟩
    induction course with
    | refl => exact ⟨[], .first requested⟩
    | tail _ begets ih =>
      obtain ⟨outer, before⟩ := ih
      rcases begets with requested | ⟨goal, rest, rfl⟩
      · exact ⟨_, .request before requested⟩
      · exact ⟨outer, .become before rest⟩
  · exact fun ⟨_, h⟩ => h.arises

theorem Nested.turns {goal goal' : Goal k} (h : Nested body r outer ⟨k, goal⟩)
    (turned : Turns body goal goal') : Nested body r outer ⟨k, goal'⟩ := by
  induction turned with
  | refl => exact h
  | become _ rest ih => exact .become ih rest

/-! ### The stack of the loop -/

/-- The number of treatments that wait, besides the outermost routine. -/
def Stack.height {k : κ} : Stack Goal Answer α k → Nat
  | .last _ => 0
  | .push _ rest => rest.height + 1

/-- The number of treatments that wait for the goal that is taken up next. -/
def Config.height : Config Goal Answer α → Nat
  | .inner (call _ _) waiting => waiting.height + 1
  | .inner (done _) waiting => waiting.height
  | .outer _ => 0

theorem Waiting.exists_nested {goal : Goal k} {waiting : Stack Goal Answer α k}
    (h : Waiting body r goal waiting) :
    ∃ outer, Nested body r outer ⟨k, goal⟩ ∧ outer.length = waiting.height := by
  induction h with
  | last turned rest => exact ⟨[], (Nested.first ⟨_, rest⟩).turns turned, rfl⟩
  | push turned rest _ _ ih =>
    obtain ⟨outer, before, length⟩ := ih
    exact ⟨_, (Nested.request before ⟨_, rest⟩).turns turned, congrArg (· + 1) length⟩

/-- The treatments that wait when the loop takes up a goal are those of goals inside which it came
up. -/
theorem exists_nested_of_advance {moves : Nat} {moment : Config Goal Answer α}
    (reached : advance body moves (.outer r) = .error moment) (taken : moment.task? = some task) :
    ∃ outer, Nested body r outer task ∧ outer.length = moment.height := by
  cases (Occurs.outer .refl).advance reached with
  | @outer active rest =>
    cases active with
    | done a => cases taken
    | call goal next =>
      cases taken
      exact ⟨[], .first ⟨next, rest⟩, rfl⟩
  | @inner k goal active waiting rest _ below =>
    obtain ⟨outer, before, length⟩ := below.exists_nested
    cases active with
    | call goal' next =>
      cases taken
      exact ⟨_, .request before ⟨next, rest⟩, congrArg (· + 1) length⟩
    | done reply =>
      cases reply with
      | answer a => cases taken
      | become goal' =>
        cases taken
        exact ⟨outer, .become before rest, length⟩

/-! ### Contracts -/

/-- What holds of the goals that a routine asks for, and is passed on from each goal to those in its
treatment, holds of all goals in progress. -/
theorem Nested.of_honoured {C : Contract Goal Answer} (honoured : C.Honoured body)
    {asks : Task Goal → Prop} {Q : α → Prop} (keeps : Keeps C asks Q r)
    {P : List (Task Goal) → Task Goal → Prop} (first : ∀ task, asks task → P [] task)
    (request : ∀ outer task task', P outer task → C.Next task task' → P (task :: outer) task')
    (become : ∀ outer (k : κ) (goal goal' : Goal k), P outer ⟨k, goal⟩ →
      C.Next ⟨k, goal⟩ ⟨k, goal'⟩ → P outer ⟨k, goal'⟩)
    (h : Nested body r outer task) : C.Pre task.2 ∧ P outer task := by
  induction h with
  | first requested =>
    obtain ⟨pre, asked⟩ := honoured.requests keeps requested
    exact ⟨pre, first _ asked⟩
  | request _ requested ih =>
    obtain ⟨pre, next⟩ := honoured.begets ih.1 (.inl requested)
    exact ⟨pre, request _ _ _ ih.2 next⟩
  | become _ rest ih =>
    obtain ⟨pre, next⟩ := honoured.begets ih.1 (.inr ⟨_, rest, rfl⟩)
    exact ⟨pre, become _ _ _ _ ih.2 next⟩

end Lox.Routine
