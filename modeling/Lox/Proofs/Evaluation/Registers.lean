import Lox.Proofs.Evaluation.Confined
import Lox.Proofs.Routine.Conclusion

/-!
# The registers of an interpreter

Besides what it keeps for good, an interpreter has two registers for the code that runs: the current
frame, and the number of calls in progress. Statements, expressions and calls change them on the
way, and have put them back when they end, with whatever outcome.

## Main definitions

* `Interpreter.SameRegisters`: the registers of two states are the same.

## Main results

* `Evaluation.Ends.sameRegisters`: every request puts back the registers.
* `Evaluation.sameRegisters_of_requests`: statements in sequence all begin with the same registers.
-/

namespace Lox

open Evaluation

/-- The current frame and the number of calls in progress are the same in two states. -/
structure Interpreter.SameRegisters (i j : Interpreter) : Prop where
  frame : j.frame = i.frame
  depth : j.depth = i.depth

theorem Interpreter.SameRegisters.trans {i j k : Interpreter} (h : i.SameRegisters j)
    (h' : j.SameRegisters k) : i.SameRegisters k :=
  ⟨h'.frame.trans h.frame, h'.depth.trans h.depth⟩

namespace Evaluation

variable {i j : Interpreter} {p : Phase} {task : Task}

theorem admits_whole (f : FrameId) (r : Request p) : Realm.whole.Admits f r := by
  cases r with
  | evaluate => exact trivial
  | execute => exact ⟨trivial, trivial⟩
  | call callee arguments => exact ⟨callee.within_whole, fun v _ => v.within_whole⟩

/-- A request puts back the registers. -/
theorem Ends.sameRegisters {r : Request p} {outcome : Except Fault p.Result}
    (ended : Ends (Job.ask r) i outcome j) : i.SameRegisters j := by
  have keeps : Realm.whole.Keeps i i.frame i.depth (fun _ => True) (Realm.whole.Yields p)
      (Job.ask r) :=
    keeps_ask (admits_whole i.frame r) fun _ _ => trivial
  obtain ⟨since, -⟩ := keeps.since i.heap.within_whole ended
  exact ⟨since.frame, since.depth⟩

/-- Statements in sequence are executed with the registers with which they begin. -/
theorem sameRegisters_of_requests {ss : List Stmt}
    (requested : Routine.Requests body (executeAll ss i) task) :
    ∃ s ∈ ss, ∃ t, task = executing s t ∧ i.SameRegisters t := by
  induction ss generalizing i with
  | nil => exact (Routine.not_requests_done requested).elim
  | cons s ss ih =>
    rcases requested.of_call with rfl | ⟨⟨outcome, k⟩, answered, rest⟩
    · exact ⟨s, List.mem_cons_self, i, rfl, rfl, rfl⟩
    · have same : i.SameRegisters k :=
        Ends.sameRegisters (r := .execute s) (ends_ask_iff_answers.2 answered)
      rcases outcome with e | _ | value
      · exact (Routine.not_requests_done rest).elim
      · obtain ⟨s', mem, t, isTask, later⟩ := ih rest
        exact ⟨s', List.mem_cons_of_mem s mem, t, isTask, same.trans later⟩
      · exact (Routine.not_requests_done rest).elim

end Evaluation

end Lox
