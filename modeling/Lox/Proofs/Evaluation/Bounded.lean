import Lox.Proofs.Evaluation.Confined
import Lox.Proofs.Routine.Nesting

/-!
# Only loops can run for ever

The number of calls in progress is that of the calls whose treatments wait, and at most a thousand
and twenty-four. Without loops, the goals that come up in the treatment of a goal are either about a
smaller part of the program, or they are in a call, with fewer calls left to be made. So every goal
has an answer.

## Main definitions

* `Realm.loopFree`: the realm of all code that is free of loops.
* `Evaluation.calls`: the number of calls among some goals.
* `Evaluation.Bounded`: a computation ends, and its calls are counted and bounded.

## Main results

* `Evaluation.depth_of_nested`: the depth of a state is the number of calls in progress.
* `Evaluation.exists_answers_of_loopFree`: goals about code without loops have answers.
* `Evaluation.bounded_of_keeps`: computations that keep to code without loops are bounded.
-/

namespace Lox

/-- All frames and instances, with the code that is free of loops. -/
def Realm.loopFree : Realm where
  frame _ := True
  instance_ _ := True
  code := Stmt.LoopFree
  globals := trivial
  contents _ _ inner code := code.contents inner

namespace Evaluation

/-! ### Calls in progress -/

/-- Whether a goal is a call. -/
def isCall : Task → Bool
  | ⟨_, .call .., _⟩ => true
  | _ => false

/-- The number of calls among some goals. -/
def calls (tasks : List Task) : Nat :=
  tasks.countP isCall

theorem calls_cons (task : Task) (tasks : List Task) :
    calls (task :: tasks) = calls [task] + calls tasks := by
  change List.countP isCall ([task] ++ tasks) = _
  exact List.countP_append

variable {α : Type} {p : Phase} {task task' : Task} {outer : List Task} {R : Realm}
  {i : Interpreter} {job : Eval α} {Q : α → Prop} {d : Nat}

/-- In the treatment of a call one more call is in progress, and only there. -/
theorem Descends.depth_eq (h : Descends task task') :
    task'.2.2.depth = task.2.2.depth + calls [task] := by
  cases h with
  | @part p p' r r' s t depth smaller =>
    cases r with
    | call => exact (Nat.not_lt_zero _ smaller).elim
    | evaluate e => exact depth
    | execute stmt => exact depth
  | body _ depth => exact depth
  | again depth => exact depth

/-- There is room for the calls that are in progress in a treatment. -/
theorem Descends.depth_le (h : Descends task task') (atMost : task.2.2.depth ≤ maxDepth) :
    task'.2.2.depth ≤ maxDepth := by
  cases h with
  | part depth => exact depth ▸ atMost
  | body room depth => exact depth ▸ room
  | again depth => exact depth ▸ atMost

/-- A call is not handed over. -/
theorem Descends.not_isCall {goal goal' : Goal p} (h : Descends ⟨p, goal⟩ ⟨p, goal'⟩) :
    calls [⟨p, goal⟩] = 0 := by
  generalize isTask : (⟨p, goal⟩ : Task) = task at h
  generalize isTask' : (⟨p, goal'⟩ : Task) = task' at h
  cases h with
  | @part p p' r r' s t depth smaller =>
    cases r with
    | call => exact (Nat.not_lt_zero _ smaller).elim
    | evaluate e => rfl
    | execute stmt => rfl
  | body => cases isTask; cases isTask'
  | again => rfl

/-- In a computation that keeps to the contract of a realm, the depth of a state is the number of
the calls in progress, besides those before it began; it does not exceed the greatest one. -/
theorem depth_of_nested (keeps : R.Keeps i i.frame i.depth (fun task => task.2.2.depth = d) Q job)
    (within_ : i.heap.Within R) (atMost : d ≤ maxDepth)
    (nested : Routine.Nested body (job i) outer task) :
    R.contract.Pre task.2 ∧ task.2.2.depth = d + calls outer ∧ task.2.2.depth ≤ maxDepth := by
  refine nested.of_honoured (honoured R) (keeps i (.refl within_))
    (P := fun outer task => task.2.2.depth = d + calls outer ∧ task.2.2.depth ≤ maxDepth)
    (fun task depth => ⟨depth, depth ▸ atMost⟩)
    (fun outer task task' ⟨depth, le⟩ next => ⟨?_, next.depth_le le⟩)
    (fun outer p goal goal' ⟨depth, le⟩ next => ⟨?_, next.depth_le le⟩)
  · rw [next.depth_eq, depth, Nat.add_assoc, calls_cons task outer, Nat.add_comm (calls outer)]
  · have same := next.depth_eq
    rw [next.not_isCall] at same
    exact same.trans depth

/-- A call with as many arguments as it takes that finds no room for another call ends at once, with
a stack overflow. -/
theorem body_call_overflow {callee : Value} {arguments : List Value} {line : Nat} {s : Interpreter}
    (arity : callee.arity? = some arguments.length) (full : maxDepth ≤ s.depth) :
    body .value (.call callee arguments line, s) =
      .done (.answer (.error ⟨.stackOverflow, line⟩, s)) := by
  have isFault : callValue callee arguments line s = .done (.error ⟨.stackOverflow, line⟩, s) := by
    unfold callValue
    simp only [arity, ne_eq, not_true_eq_false, if_false]
    change (if maxDepth ≤ s.depth then _ else _ : Eval Value) s = _
    rw [if_pos full]
    rfl
  change Routine.bind (Routine.bind (callValue callee arguments line s) _) _ = _
  rw [isFault]
  rfl

/-! ### Termination -/

/-- How many calls a goal may still be inside, and how large a part of a program it is about. -/
def rank (task : Task) : Nat × Nat :=
  (maxDepth - task.2.2.depth, task.2.1.size)

/-- Without loops, goals in the treatment of a goal have a lesser rank. -/
theorem Descends.rank_lt (h : Descends task task') (pre : Realm.loopFree.contract.Pre task'.2) :
    Prod.Lex (· < ·) (· < ·) (rank task') (rank task) := by
  cases h with
  | part depth smaller =>
    rw [rank, rank, depth]
    exact .right _ smaller
  | body room depth =>
    refine .left _ _ ?_
    rw [depth]
    exact Nat.sub_lt_sub_left room (Nat.lt_succ_self _)
  | again => exact (Stmt.not_loopFree_loop pre.1.2).elim

/-- A goal about code without loops has an answer. -/
theorem exists_answers_of_loopFree (pre : Realm.loopFree.contract.Pre task.2) :
    ∃ answer, Routine.Answers body task.2 answer := by
  have wf := InvImage.wf rank (Prod.lex Nat.lt_wfRel Nat.lt_wfRel).wf
  exact (honoured Realm.loopFree).exists_answers
    ((Subrelation.wf (fun next => Descends.rank_lt next.2 next.1) wf).apply task) pre

/-- A computation from a state in which no call is in progress is bounded. -/
structure Bounded (job : Eval α) (i : Interpreter) : Prop where
  /-- It ends, with a result or with a fault. -/
  ends : ∃ outcome j, Ends job i outcome j
  /-- Whenever a goal comes up, the depth is the number of the calls that wait for its answer. -/
  counted : ∀ outer task, Routine.Nested body (job i) outer task → task.2.2.depth = calls outer
  /-- It is so again when the goal has been answered, be it with a fault. -/
  restored : ∀ outer task answer, Routine.Nested body (job i) outer task →
    Routine.Answers body task.2 answer → answer.2.depth = calls outer
  atMost : ∀ outer task, Routine.Nested body (job i) outer task → calls outer ≤ maxDepth
  /-- A call that would be one too many ends at once and asks for nothing. -/
  overflow : ∀ outer callee arguments line s,
    Routine.Nested body (job i) outer (calling callee arguments line s) →
      callee.arity? = some arguments.length → calls outer = maxDepth →
        body .value (.call callee arguments line, s) =
          .done (.answer (.error ⟨.stackOverflow, line⟩, s))

/-- Computations that keep to code without loops are bounded. -/
theorem bounded_of_keeps
    (keeps : Realm.loopFree.Keeps i i.frame i.depth (fun task => task.2.2.depth = 0) Q job)
    (within_ : i.heap.Within Realm.loopFree) : Bounded job i := by
  have depth {outer : List Task} {task : Task} (nested : Routine.Nested body (job i) outer task) :
      Realm.loopFree.contract.Pre task.2 ∧ task.2.2.depth = calls outer ∧
        task.2.2.depth ≤ maxDepth := by
    obtain ⟨pre, isDepth, le⟩ := depth_of_nested keeps within_ (Nat.zero_le _) nested
    exact ⟨pre, isDepth.trans (Nat.zero_add _), le⟩
  constructor
  case ends =>
    obtain ⟨⟨outcome, j⟩, left⟩ := (honoured Realm.loopFree).exists_result
      (keeps i (.refl within_)) fun task pre _ => exists_answers_of_loopFree pre
    obtain ⟨n, result⟩ := left.denote_eq (n := 0) rfl
    exact ⟨outcome, j, ends_iff.2 ⟨n, result⟩⟩
  case counted => exact fun outer task nested => (depth nested).2.1
  case restored =>
    intro outer task answer nested answered
    obtain ⟨pre, isDepth, -⟩ := depth nested
    exact ((honoured Realm.loopFree).post pre answered).1.depth.trans isDepth
  case atMost => exact fun outer task nested => (depth nested).2.1 ▸ (depth nested).2.2
  case overflow =>
    intro outer callee arguments line s nested arity full
    exact body_call_overflow arity (Nat.le_of_eq (full.symm.trans (depth nested).2.1.symm))

end Evaluation

end Lox
