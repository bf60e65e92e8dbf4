import Lox.Routine.Adequacy
import Mathlib.Logic.Relation

/-!
# The course of a run

While a routine runs, goals come up: it asks for some, their treatment asks for others, and a goal
may be handed over to another one. Which goals come up is said here in two ways, by recursion over
the treatment of goals and by the moments of the loop, and the two ways agree.

## Main definitions

* `Routine.Answers`: a goal has an answer.
* `Routine.Rest`: what is left of a routine once some of its goals are answered.
* `Routine.Begets`, `Routine.Arises`: a goal comes up in the treatment of another one, or in the
  run of a routine.
* `Routine.Config.task?`: the goal that is taken up at a moment of the loop.

## Main results

* `Routine.exists_moment_iff`: a goal comes up in the run of a routine exactly if the loop takes it
  up at some moment.
-/

namespace Lox.Routine

variable {κ : Type} {Goal Answer : κ → Type} {α β : Type} {k : κ}

/-- A goal of any kind. -/
abbrev Task (Goal : κ → Type) : Type :=
  (k : κ) × Goal k

variable (body : (k : κ) → Goal k → Routine Goal Answer (Reply Goal Answer k))

/-- The treatment of a goal comes to an end with an answer. -/
def Answers (goal : Goal k) (answer : Answer k) : Prop :=
  ∃ n, solve body n k goal = some answer

theorem Answers.unique {goal : Goal k} {a b : Answer k} (ha : Answers body goal a)
    (hb : Answers body goal b) : a = b := by
  obtain ⟨n, hn⟩ := ha
  obtain ⟨m, hm⟩ := hb
  have hn' := solve_mono body (Nat.le_max_left n m) hn
  have hm' := solve_mono body (Nat.le_max_right n m) hm
  exact Option.some.inj (hn'.symm.trans hm')

/-- What is left of a routine once some of its goals, in the order in which it asks for them, are
answered. -/
inductive Rest (r : Routine Goal Answer α) : Routine Goal Answer α → Prop
  | refl : Rest r r
  | step {k : κ} {goal : Goal k} {next : Answer k → Routine Goal Answer α} {answer : Answer k}
      (before : Rest r (call goal next)) (answered : Answers body goal answer) :
      Rest r (next answer)

/-- A routine asks for a goal. -/
def Requests (r : Routine Goal Answer α) (task : Task Goal) : Prop :=
  ∃ next, Rest body r (call task.2 next)

/-- The treatment of the first goal asks for the second one, or is handed over to it. -/
def Begets (task task' : Task Goal) : Prop :=
  Requests body (body _ task.2) task' ∨
    ∃ goal, Rest body (body _ task.2) (done (.become goal)) ∧ task' = ⟨task.1, goal⟩

/-- A goal comes up in the run of a routine. -/
def Arises (r : Routine Goal Answer α) (task : Task Goal) : Prop :=
  ∃ first, Requests body r first ∧ Relation.ReflTransGen (Begets body) first task

variable {body}

theorem Rest.trans {r r' r'' : Routine Goal Answer α} (h : Rest body r r')
    (h' : Rest body r' r'') : Rest body r r'' := by
  induction h' with
  | refl => exact h
  | step before answered ih => exact .step ih answered

/-- A routine that ends has the answer of what is left of it. -/
theorem Rest.denote_eq {r r' : Routine Goal Answer α} (h : Rest body r r') {n : Nat} {a : α}
    (result : r'.denote (solve body n) = some a) : ∃ m, r.denote (solve body m) = some a := by
  induction h generalizing n with
  | refl => exact ⟨n, result⟩
  | @step k goal next answer before answered ih =>
    obtain ⟨m, answered⟩ := answered
    refine ih (n := max m n) (Option.bind_eq_some_iff.2 ⟨answer, ?_, ?_⟩)
    · exact solve_mono body (Nat.le_max_left m n) answered
    · exact denote_solve_mono body (Nat.le_max_right m n) result

/-- A routine that ends asks for goals until it is over. -/
theorem Rest.of_denote {r : Routine Goal Answer α} {n : Nat} {a : α}
    (result : r.denote (solve body n) = some a) : Rest body r (done a) := by
  suffices ∀ r', Rest body r r' → r'.denote (solve body n) = some a → Rest body r (done a) from
    this r .refl result
  intro r'
  induction r' with
  | done b =>
    intro rest result
    rw [Option.some.inj result] at rest
    exact rest
  | call goal next ih =>
    intro rest result
    obtain ⟨b, answered, result⟩ := Option.bind_eq_some_iff.1 result
    exact ih b (.step rest ⟨n, answered⟩) result

theorem answers_of_rest_answer {goal : Goal k} {a : Answer k}
    (h : Rest body (body k goal) (done (.answer a))) : Answers body goal a := by
  obtain ⟨n, result⟩ := h.denote_eq (n := 0) rfl
  exact ⟨n + 1, by rw [solve_succ, result]; rfl⟩

theorem Answers.of_become {goal goal' : Goal k} {a : Answer k} (h : Answers body goal' a)
    (rest : Rest body (body k goal) (done (.become goal'))) : Answers body goal a := by
  obtain ⟨n, answered⟩ := h
  obtain ⟨m, result⟩ := rest.denote_eq (n := 0) rfl
  refine ⟨max n m + 1, ?_⟩
  rw [solve_succ, denote_solve_mono body (Nat.le_max_right n m) result]
  exact solve_mono body (Nat.le_max_left n m) answered

theorem Arises.begets {r : Routine Goal Answer α} {task task' : Task Goal}
    (h : Arises body r task) (h' : Begets body task task') : Arises body r task' := by
  obtain ⟨first, requested, course⟩ := h
  exact ⟨first, requested, course.tail h'⟩

/-! ### Moments of the loop -/

/-- The goal that is taken up next. -/
def Config.task? : Config Goal Answer α → Option (Task Goal)
  | .outer (call goal _) => some ⟨_, goal⟩
  | .inner (call goal _) _ => some ⟨_, goal⟩
  | .inner (done (.become goal)) _ => some ⟨_, goal⟩
  | _ => none

/-- A goal is handed over, perhaps again and again, to another one. -/
inductive Turns (body : (k : κ) → Goal k → Routine Goal Answer (Reply Goal Answer k))
    (goal : Goal k) : Goal k → Prop
  | refl : Turns body goal goal
  | become {goal' goal'' : Goal k} (before : Turns body goal goal')
      (rest : Rest body (body k goal') (done (.become goal''))) : Turns body goal goal''

theorem Turns.answers {goal goal' : Goal k} (h : Turns body goal goal') {a : Answer k}
    (answered : Answers body goal' a) : Answers body goal a := by
  induction h with
  | refl => exact answered
  | become before rest ih => exact ih (answered.of_become rest)

/-- The waiting routines of a run stand where the run has taken them, and wait for the answer to a
goal. -/
inductive Waiting (body : (k : κ) → Goal k → Routine Goal Answer (Reply Goal Answer k))
    (r : Routine Goal Answer α) : {k : κ} → Goal k → Stack Goal Answer α k → Prop
  | last {k : κ} {asked goal : Goal k} {next : Answer k → Routine Goal Answer α}
      (turned : Turns body asked goal) (rest : Rest body r (call asked next)) :
      Waiting body r goal (.last next)
  | push {k k' : κ} {asked goal : Goal k} {outer : Goal k'}
      {next : Answer k → Routine Goal Answer (Reply Goal Answer k')}
      {waiting : Stack Goal Answer α k'} (turned : Turns body asked goal)
      (rest : Rest body (body k' outer) (call asked next)) (arises : Arises body r ⟨k', outer⟩)
      (below : Waiting body r outer waiting) : Waiting body r goal (.push next waiting)

theorem Waiting.become {r : Routine Goal Answer α} {goal goal' : Goal k}
    {waiting : Stack Goal Answer α k} (h : Waiting body r goal waiting)
    (rest : Rest body (body k goal) (done (.become goal'))) : Waiting body r goal' waiting := by
  cases h with
  | last turned asked => exact .last (.become turned rest) asked
  | push turned asked arises below => exact .push (.become turned rest) asked arises below

/-- A moment belongs to the run of a routine. -/
inductive Occurs (body : (k : κ) → Goal k → Routine Goal Answer (Reply Goal Answer k))
    (r : Routine Goal Answer α) : Config Goal Answer α → Prop
  | outer {active : Routine Goal Answer α} (rest : Rest body r active) :
      Occurs body r (.outer active)
  | inner {k : κ} {goal : Goal k} {active : Routine Goal Answer (Reply Goal Answer k)}
      {waiting : Stack Goal Answer α k} (rest : Rest body (body k goal) active)
      (arises : Arises body r ⟨k, goal⟩) (below : Waiting body r goal waiting) :
      Occurs body r (.inner active waiting)

theorem Occurs.arises {r : Routine Goal Answer α} {moment : Config Goal Answer α}
    (h : Occurs body r moment) {task : Task Goal} (taken : moment.task? = some task) :
    Arises body r task := by
  cases h with
  | @outer active rest =>
    cases active with
    | done a => cases taken
    | call goal next =>
      cases taken
      exact ⟨_, ⟨next, rest⟩, .refl⟩
  | @inner k goal active waiting rest arises below =>
    cases active with
    | call goal' next =>
      cases taken
      exact arises.begets (.inl ⟨next, rest⟩)
    | done reply =>
      cases reply with
      | answer a => cases taken
      | become goal' =>
        cases taken
        exact arises.begets (.inr ⟨goal', rest, rfl⟩)

/-- Every moment that the loop comes to belongs to the run. -/
theorem Occurs.advance {r : Routine Goal Answer α} {moves : Nat}
    {moment later : Config Goal Answer α} (h : Occurs body r moment)
    (reached : advance body moves moment = .error later) : Occurs body r later := by
  induction moves generalizing moment with
  | zero =>
    cases reached
    exact h
  | succ moves ih =>
    cases h with
    | @outer active rest =>
      cases active with
      | done a => cases reached
      | call goal next =>
        exact ih (.inner .refl ⟨_, ⟨next, rest⟩, .refl⟩ (.last .refl rest)) reached
    | @inner k goal active waiting rest arises below =>
      cases active with
      | call goal' next =>
        have arises' := arises.begets (.inl ⟨next, rest⟩ : Begets body ⟨k, goal⟩ ⟨_, goal'⟩)
        exact ih (.inner .refl arises' (.push .refl rest arises below)) reached
      | done reply =>
        cases reply with
        | become goal' =>
          have arises' := arises.begets
            (.inr ⟨goal', rest, rfl⟩ : Begets body ⟨k, goal⟩ ⟨k, goal'⟩)
          exact ih (.inner .refl arises' (below.become rest)) reached
        | answer a =>
          have answered := answers_of_rest_answer rest
          cases below with
          | last turned asked => exact ih (.outer (.step asked (turned.answers answered))) reached
          | push turned asked arises below =>
            exact ih (.inner (.step asked (turned.answers answered)) arises below) reached

/-- The loop comes from a routine that waits for nobody to what is left of it. -/
theorem Rest.exists_advance_outer {r r' : Routine Goal Answer α} (h : Rest body r r') :
    ∃ m, ∀ moves, Routine.advance body (m + moves) (.outer r) =
      Routine.advance body moves (.outer r') := by
  induction h with
  | refl => exact ⟨0, fun moves => by rw [Nat.zero_add]⟩
  | @step k goal next answer before answered ih =>
    obtain ⟨m, hm⟩ := ih
    obtain ⟨n, answered⟩ := answered
    obtain ⟨l, hl⟩ := exists_advance_body body answered (.last next)
    refine ⟨m + (1 + l + 1), fun moves => ?_⟩
    rw [Nat.add_assoc, hm, show 1 + l + 1 + moves = (l + (moves + 1)) + 1 by omega,
      Routine.advance, hl, Routine.advance]

theorem Rest.exists_advance_inner {r r' : Routine Goal Answer (Reply Goal Answer k)}
    (h : Rest body r r') (waiting : Stack Goal Answer α k) :
    ∃ m, ∀ moves, Routine.advance body (m + moves) (.inner r waiting) =
      Routine.advance body moves (.inner r' waiting) := by
  induction h with
  | refl => exact ⟨0, fun moves => by rw [Nat.zero_add]⟩
  | @step k' goal next answer before answered ih =>
    obtain ⟨m, hm⟩ := ih
    obtain ⟨n, answered⟩ := answered
    obtain ⟨l, hl⟩ := exists_advance_body body answered (.push next waiting)
    refine ⟨m + (1 + l + 1), fun moves => ?_⟩
    rw [Nat.add_assoc, hm, show 1 + l + 1 + moves = (l + (moves + 1)) + 1 by omega,
      Routine.advance, hl, Routine.advance]

/-- The loop comes to the treatment of every goal that comes up. -/
theorem Arises.exists_advance {r : Routine Goal Answer α} {task : Task Goal}
    (h : Arises body r task) :
    ∃ (m : Nat) (before : Config Goal Answer α) (waiting : Stack Goal Answer α task.1),
      before.task? = some task ∧
        (∀ moves, advance body (m + moves) (.outer r) = advance body moves before) ∧
        ∀ moves, advance body (moves + 1) before =
          advance body moves (.inner (body _ task.2) waiting) := by
  obtain ⟨first, ⟨next, requested⟩, course⟩ := h
  induction course with
  | refl =>
    obtain ⟨m, hm⟩ := requested.exists_advance_outer
    exact ⟨m, .outer (call first.2 next), .last next, rfl, hm, fun moves => rfl⟩
  | @tail task task' course begets ih =>
    obtain ⟨m, before, waiting, taken, hm, treated⟩ := ih
    rcases begets with ⟨next', rest⟩ | ⟨goal, rest, rfl⟩
    · obtain ⟨l, hl⟩ := rest.exists_advance_inner waiting
      refine ⟨m + (l + 1), .inner (call task'.2 next') waiting, .push next' waiting, rfl,
        fun moves => ?_, fun moves => rfl⟩
      rw [Nat.add_assoc, hm, show l + 1 + moves = (l + moves) + 1 by omega, treated, hl]
    · obtain ⟨l, hl⟩ := rest.exists_advance_inner waiting
      refine ⟨m + (l + 1), .inner (done (.become goal)) waiting, waiting, rfl,
        fun moves => ?_, fun moves => rfl⟩
      rw [Nat.add_assoc, hm, show l + 1 + moves = (l + moves) + 1 by omega, treated, hl]

/-- A goal comes up in the run of a routine exactly if the loop takes it up at some moment. -/
theorem exists_moment_iff {r : Routine Goal Answer α} {task : Task Goal} :
    (∃ moves moment, advance body moves (.outer r) = .error moment ∧
      moment.task? = some task) ↔ Arises body r task := by
  constructor
  · rintro ⟨moves, moment, reached, taken⟩
    exact ((Occurs.outer .refl).advance reached).arises taken
  · intro h
    obtain ⟨m, before, waiting, taken, hm, -⟩ := h.exists_advance
    exact ⟨m, before, hm 0, taken⟩

end Lox.Routine
