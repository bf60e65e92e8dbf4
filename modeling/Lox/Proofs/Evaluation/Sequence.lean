import Lox.Evaluation.Step
import Lox.Proofs.Evaluation.Output
import Lox.Proofs.Routine.Cost

/-!
# Executions in sequence

The execution of two programs in sequence is the execution of the first, and if that comes to its
end, the execution of the second in the state that the first has left.

## Main definitions

* `Evaluation.Ends`: a computation ends with an outcome in a state.
* `Evaluation.Completes`: the outcome of a request behind the end of its treatment.

## Main results

* `Evaluation.ends_bind_iff`, `Evaluation.ends_ask_iff`: how computations in sequence and requests
  end.
* `Evaluation.ends_append_iff`: how programs in sequence end.
-/

namespace Lox.Evaluation

variable {α β : Type} {i j k : Interpreter} {p p' : List Stmt}

/-- A computation ends with an outcome in a state, if it may make enough moves. -/
def Ends (job : Eval α) (i : Interpreter) (outcome : Except Fault α) (j : Interpreter) : Prop :=
  ∃ moves, Job.run step moves job i = some (outcome, j)

theorem ends_iff {job : Eval α} {outcome : Except Fault α} :
    Ends job i outcome j ↔ ∃ n, Job.meaning step n job i = some (outcome, j) :=
  Job.exists_run_iff step

theorem ends_pure_iff {a : α} {outcome : Except Fault α} :
    Ends (pure a) i outcome j ↔ outcome = .ok a ∧ j = i := by
  rw [ends_iff]
  simp only [Job.meaning_pure, Option.some.injEq, Prod.mk.injEq, exists_const]
  exact ⟨fun ⟨h, h'⟩ => ⟨h.symm, h'.symm⟩, fun ⟨h, h'⟩ => ⟨h.symm, h'.symm⟩⟩

theorem ends_throw_iff {e : Fault} {outcome : Except Fault α} :
    Ends (throw e : Eval α) i outcome j ↔ outcome = .error e ∧ j = i := by
  rw [ends_iff]
  simp only [Job.meaning_throw, Option.some.injEq, Prod.mk.injEq, exists_const]
  exact ⟨fun ⟨h, h'⟩ => ⟨h.symm, h'.symm⟩, fun ⟨h, h'⟩ => ⟨h.symm, h'.symm⟩⟩

/-- Computations in sequence end with the fault of the first, or as the second does behind the
first. -/
theorem ends_bind_iff {job : Eval α} {next : α → Eval β} {outcome : Except Fault β} :
    Ends (job >>= next) i outcome j ↔
      (∃ e, outcome = .error e ∧ Ends job i (.error e) j) ∨
        ∃ a k, Ends job i (.ok a) k ∧ Ends (next a) k outcome j := by
  simp only [ends_iff, Job.meaning_bind]
  constructor
  · rintro ⟨n, result⟩
    obtain ⟨⟨first, k⟩, isFirst, isRest⟩ := Option.bind_eq_some_iff.1 result
    cases first with
    | error e =>
      cases isRest
      exact .inl ⟨e, rfl, n, isFirst⟩
    | ok a => exact .inr ⟨a, k, ⟨n, isFirst⟩, n, isRest⟩
  · rintro (⟨e, rfl, n, isFirst⟩ | ⟨a, k, ⟨n, isFirst⟩, m, isRest⟩)
    · exact ⟨n, Option.bind_eq_some_iff.2 ⟨_, isFirst, rfl⟩⟩
    · refine ⟨max n m, Option.bind_eq_some_iff.2 ⟨(.ok a, k), ?_, ?_⟩⟩
      · exact Job.meaning_mono step (Nat.le_max_left n m) isFirst
      · exact Job.meaning_mono step (Nat.le_max_right n m) isRest

section

variable {p : Phase} {r : Request p} {outcome : Except Fault p.Result} {n : Nat}

/-- The outcome of a request behind the end of its treatment: the same, or that of the request to
which it is handed over. -/
inductive Completes (n : Nat) (k : Interpreter) :
    Except Fault (Step p) → Except Fault p.Result → Interpreter → Prop
  | failed (e : Fault) : Completes n k (.error e) (.error e) k
  | finished (result : p.Result) : Completes n k (.ok (.finished result)) (.ok result) k
  | handedOver {r : Request p} {outcome : Except Fault p.Result} {j : Interpreter}
      (answered : Job.answer step n r k = some (outcome, j)) :
      Completes n k (.ok (.handOver r)) outcome j

/-- A request has the outcome of its treatment. -/
theorem answer_succ_iff : Job.answer step (n + 1) r i = some (outcome, j) ↔
    ∃ ended k, Job.meaning step n (step p r) i = some (ended, k) ∧
      Completes n k ended outcome j := by
  rw [Job.answer_succ]
  constructor
  · intro answered
    obtain ⟨⟨ended, k⟩, isEnded, isRest⟩ := Option.bind_eq_some_iff.1 answered
    refine ⟨ended, k, isEnded, ?_⟩
    rcases ended with e | a | r'
    · cases isRest
      exact .failed e
    · cases isRest
      exact .finished a
    · exact .handedOver isRest
  · rintro ⟨ended, k, isEnded, completes⟩
    rw [isEnded]
    cases completes with
    | failed => rfl
    | finished => rfl
    | handedOver answered => exact answered

/-- A request ends as its treatment does, or as the request to which it is handed over. -/
theorem ends_ask_iff : Ends (Job.ask r) i outcome j ↔
    (∃ e, outcome = .error e ∧ Ends (step p r) i (.error e) j) ∨
      (∃ a, outcome = .ok a ∧ Ends (step p r) i (.ok (.finished a)) j) ∨
        ∃ r' k, Ends (step p r) i (.ok (.handOver r')) k ∧ Ends (Job.ask r') k outcome j := by
  simp only [ends_iff, Job.meaning_ask]
  constructor
  · rintro ⟨n, answered⟩
    cases n with
    | zero => cases answered
    | succ n =>
      obtain ⟨ended, k, isEnded, completes⟩ := answer_succ_iff.1 answered
      cases completes with
      | failed e => exact .inl ⟨e, rfl, n, isEnded⟩
      | finished a => exact .inr (.inl ⟨a, rfl, n, isEnded⟩)
      | handedOver answered => exact .inr (.inr ⟨_, k, ⟨n, isEnded⟩, n, answered⟩)
  · rintro (⟨e, rfl, n, isEnded⟩ | ⟨a, rfl, n, isEnded⟩ | ⟨r', k, ⟨n, isEnded⟩, m, answered⟩)
    · exact ⟨n + 1, answer_succ_iff.2 ⟨_, _, isEnded, .failed e⟩⟩
    · exact ⟨n + 1, answer_succ_iff.2 ⟨_, _, isEnded, .finished a⟩⟩
    · refine ⟨max n m + 1, answer_succ_iff.2 ⟨.ok (.handOver r'), k, ?_, .handedOver ?_⟩⟩
      · exact Job.meaning_mono step (Nat.le_max_left n m) isEnded
      · exact Job.answer_mono step (Nat.le_max_right n m) answered

end

/-- Statements in sequence are executed up to the first that returns. -/
theorem executeAll_append (p p' : List Stmt) :
    executeAll (p ++ p') = executeAll p >>= fun flow =>
      match flow with
      | .normal => executeAll p'
      | .returned value => pure (.returned value) := by
  induction p with
  | nil => exact (pure_bind _ _).symm
  | cons s p ih =>
    rw [List.cons_append, executeAll, executeAll, bind_assoc, ih]
    refine congrArg (execute s >>= ·) (funext fun flow => ?_)
    cases flow with
    | normal => rfl
    | returned value => exact (pure_bind _ _).symm

theorem executeAll_singleton (s : Stmt) : executeAll [s] = execute s := by
  have isPure : (fun flow => match flow with
      | .normal => executeAll []
      | .returned value => pure (.returned value) : Flow → Eval Flow) = pure :=
    funext fun flow => by cases flow <;> rfl
  change execute s >>= (fun flow => match flow with
      | .normal => executeAll []
      | .returned value => pure (.returned value)) = execute s
  rw [isPure, bind_pure]

/-- What is done after the statements of a program. -/
def close : Flow → Eval Unit
  | .returned _ => fail .escapedReturn 0
  | .normal => do
    checkOutput (← modifyGet Interpreter.flush) 0

theorem interpret_eq (p : List Stmt) : interpret p = executeAll p >>= close := by
  unfold interpret
  refine congrArg (executeAll p >>= ·) (funext fun flow => ?_)
  cases flow <;> rfl

/-- A program ends well only if its statements do, and if the sink can be flushed then. -/
theorem ends_close_iff {outcome : Except Fault Unit} (flushes : i.sink.device.Flushes) :
    Ends (close .normal) i outcome j ↔ outcome = .ok () ∧ j = i := by
  rw [ends_iff]
  have isMeaning (n : Nat) : Job.meaning step n (close .normal) i = some (.ok (), i) := by
    simp only [close, Job.meaning_bind, Job.meaning_modifyGet, Option.bind_some,
      Interpreter.flush_of_flushes flushes]
    rfl
  simp only [isMeaning, Option.some.injEq, Prod.mk.injEq, exists_const]
  exact ⟨fun ⟨h, h'⟩ => ⟨h.symm, h'.symm⟩, fun ⟨h, h'⟩ => ⟨h.symm, h'.symm⟩⟩

theorem ends_close_returned_iff {value : Value} {outcome : Except Fault Unit} :
    Ends (close (.returned value)) i outcome j ↔ outcome = .error ⟨.escapedReturn, 0⟩ ∧ j = i :=
  ends_throw_iff

/-- The statements of a program end with a fault, or with a value that there is no call to return
from. -/
def Fails (p : List Stmt) (i : Interpreter) (e : Fault) (j : Interpreter) : Prop :=
  Ends (executeAll p) i (.error e) j ∨
    ∃ value, Ends (executeAll p) i (.ok (.returned value)) j ∧ e = ⟨.escapedReturn, 0⟩

/-- The sink can be flushed when the statements of a program have come to their end. -/
def Flushes (p : List Stmt) (i : Interpreter) : Prop :=
  ∀ j, Ends (executeAll p) i (.ok .normal) j → j.sink.device.Flushes

theorem ends_interpret_iff (flushes : Flushes p i) {outcome : Except Fault Unit} :
    Ends (interpret p) i outcome j ↔
      (∃ e, outcome = .error e ∧ Fails p i e j) ∨
        outcome = .ok () ∧ Ends (executeAll p) i (.ok .normal) j := by
  rw [interpret_eq, ends_bind_iff]
  constructor
  · rintro (⟨e, rfl, ended⟩ | ⟨flow, k, ended, rest⟩)
    · exact .inl ⟨e, rfl, .inl ended⟩
    · cases flow with
      | normal =>
        obtain ⟨rfl, rfl⟩ := (ends_close_iff (flushes k ended)).1 rest
        exact .inr ⟨rfl, ended⟩
      | returned value =>
        obtain ⟨rfl, rfl⟩ := ends_close_returned_iff.1 rest
        exact .inl ⟨_, rfl, .inr ⟨value, ended, rfl⟩⟩
  · rintro (⟨e, rfl, ended | ⟨value, ended, rfl⟩⟩ | ⟨rfl, ended⟩)
    · exact .inl ⟨e, rfl, ended⟩
    · exact .inr ⟨_, j, ended, ends_close_returned_iff.2 ⟨rfl, rfl⟩⟩
    · exact .inr ⟨_, j, ended, (ends_close_iff (flushes j ended)).2 ⟨rfl, rfl⟩⟩

/-- Programs in sequence fail as the first does, or end as the second does behind the first. -/
theorem ends_append_iff (flushes : Flushes p i) {outcome : Except Fault Unit} :
    Ends (interpret (p ++ p')) i outcome j ↔
      (∃ e, outcome = .error e ∧ Ends (interpret p) i (.error e) j) ∨
        ∃ k, Ends (interpret p) i (.ok ()) k ∧ Ends (interpret p') k outcome j := by
  rw [interpret_eq, executeAll_append, bind_assoc, ends_bind_iff]
  simp only [ends_interpret_iff flushes]
  constructor
  · rintro (⟨e, rfl, ended⟩ | ⟨flow, k, ended, rest⟩)
    · exact .inl ⟨e, rfl, .inl ⟨e, rfl, .inl ended⟩⟩
    · cases flow with
      | normal =>
        rw [interpret_eq]
        exact .inr ⟨k, .inr ⟨trivial, ended⟩, rest⟩
      | returned value =>
        rw [pure_bind] at rest
        obtain ⟨rfl, rfl⟩ := ends_close_returned_iff.1 rest
        exact .inl ⟨_, rfl, .inl ⟨_, rfl, .inr ⟨value, ended, rfl⟩⟩⟩
  · rintro (⟨e, rfl, ⟨e', isSame, failed⟩ | ⟨isOk, -⟩⟩ | ⟨k, ⟨e, isError, -⟩ | ⟨-, ended⟩, rest⟩)
    · cases isSame
      obtain ended | ⟨value, ended, rfl⟩ := failed
      · exact .inl ⟨e, rfl, ended⟩
      · refine .inr ⟨.returned value, j, ended, ?_⟩
        rw [pure_bind]
        exact ends_close_returned_iff.2 ⟨rfl, rfl⟩
    · cases isOk
    · cases isError
    · rw [interpret_eq] at rest
      exact .inr ⟨.normal, k, ended, rest⟩

/-- If a program fails, it does so whatever follows. -/
theorem Ends.append {e : Fault} (flushes : Flushes p i) (failed : Ends (interpret p) i (.error e) j)
    (rest : List Stmt) : Ends (interpret (p ++ rest)) i (.error e) j :=
  (ends_append_iff flushes).2 (.inl ⟨e, rfl, failed⟩)

theorem Ends.unique {job : Eval α} {outcome outcome' : Except Fault α}
    (h : Ends job i outcome j) (h' : Ends job i outcome' k) : outcome = outcome' ∧ j = k := by
  obtain ⟨moves, h⟩ := h
  obtain ⟨moves', h'⟩ := h'
  cases Job.run_unique h h'
  exact ⟨rfl, rfl⟩

end Lox.Evaluation
