import Lox.Proofs.Session.History

/-!
# The defect that acceptance does not rule out

A fault that only a defect of the evaluator can cause has the kind `internal`. The static reading is
there to rule such faults out, and it does for all but one of their causes: a local variable that is
assigned in its own initializer. The static reading takes the variable for the target, and when the
assigned value is there, the variable is not bound yet.

## Main definitions

* `Execution.Misassigns`: a local variable is assigned in its own initializer.

## Main results

* `Session.internal_iff_misassigns`: the runs of any session that end with such a fault.
-/

namespace Lox

open Scope Evaluation World

/-- In the course of an execution a variable is to be assigned, the value is there, and the static
reading of the program that has the assignment visited it while the variable was being declared. -/
def Execution.Misassigns (e : Execution) (past : List Execution) (o : Occurrence) : Prop :=
  ∃ value s, e.Arises (evaluating (.assign o value) s) ∧
    (∃ v t, Routine.Answers body ((.evaluate value, s) : Goal .value) (.ok v, t)) ∧
    ∃ e' ∈ past, ∃ r, Visit e'.program ⟨.assignment, o⟩ r ∧
      r.analysis.local? o.name.lexeme = some false

variable {past : List Execution} {i i' j : Interpreter} {program : List Stmt} {source : String}
  {moves : Nat} {errors : List Diagnostic}

/-- Whatever a session has executed before, an accepted program ends with a fault of the kind
`internal` exactly if a local variable is assigned in its own initializer, and then the fault says
that the variable is not bound where it was declared. -/
theorem Session.internal_iff_misassigns (session : Session past i)
    (ended : i.run moves source = some (errors, i')) :
    ((∃ fault, .fault fault ∈ errors ∧ fault.kind = .internal) ↔
        ∃ e ∈ i.executions source, ∃ o, e.Misassigns (i.executions source ++ past) o) ∧
      ∀ fault, .fault fault ∈ errors → fault.kind = .internal →
        ∃ e ∈ i.executions source, ∃ o, e.Misassigns (i.executions source ++ past) o ∧
          fault = Heap.misplaced o.name.lexeme 0 o.name.line := by
  rcases i.run_cases ended with ⟨isLoaded, noExecution⟩ |
    ⟨program, j, outcome, isLoaded, isExecution, isRun, isErrors⟩
  · have noFault := Interpreter.fault_notMem_of_load isLoaded
    rw [noExecution]
    exact ⟨⟨fun ⟨fault, mem, _⟩ => absurd mem (noFault fault), nofun⟩,
      fun fault mem => absurd mem (noFault fault)⟩
  have loads := Interpreter.loads_of_load isLoaded
  obtain ⟨frames, cells, k, ready⟩ := session.exists_ready
  have ready := ready.load loads ∅
  have visited (task : Task) (arises : Execution.Arises ⟨program, j⟩ task) :
      Arose (⟨program, j⟩ :: past) task := ⟨_, List.mem_cons_self, arises⟩
  have session' := session.run ended
  rw [isExecution] at session' ⊢
  -- Where an assignment was read, its target was not ready exactly if it was being declared.
  have misassigns {o : Occurrence} {value : Expr} {s : Interpreter}
      (comes : Execution.Arises ⟨program, j⟩ (evaluating (.assign o value) s))
      (isPending : ∃ p, Read (⟨program, j⟩ :: past) p .assignment o ∧
        p.pending = some o.name.lexeme)
      (answered : ∃ v t, Routine.Answers body ((.evaluate value, s) : Goal .value) (.ok v, t)) :
      Execution.Misassigns ⟨program, j⟩ (⟨program, j⟩ :: past) o := by
    obtain ⟨p, read, pending⟩ := isPending
    obtain ⟨e, mem, -, r, visit, -⟩ := id read
    exact ⟨value, s, comes, answered, e, mem, r, visit,
      (session'.pending_iff mem visit read).1 pending⟩
  have pending {o : Occurrence}
      (h : Execution.Misassigns ⟨program, j⟩ (⟨program, j⟩ :: past) o) :
      Misassigned (of frames cells j.nextId (⟨program, j⟩ :: past))
        (Execution.Arises ⟨program, j⟩) := by
    obtain ⟨value, s, comes, answered, e, mem, r, visit, notReady⟩ := h
    obtain ⟨w, p, goal', known, -, related, -⟩ := ready.arises visited loads.wellScoped comes
    cases related with
    | evaluate _ _ _ wellScoped =>
      cases wellScoped with
      | assign isKnown =>
        rw [known] at isKnown
        exact ⟨o, value, s, comes,
          ⟨p, isKnown, (session'.pending_iff mem visit isKnown).2 notReady⟩, answered⟩
  have isInternal := ready.internal_iff visited loads.wellScoped
    (fun p p' o => session'.pending_of_pending) isRun
  have isFault (fault : Fault) : .fault fault ∈ errors ↔ outcome = .error fault := by
    subst isErrors
    cases outcome <;> simp [eq_comm]
  refine ⟨⟨?_, ?_⟩, fun fault mem internal => ?_⟩
  · rintro ⟨fault, mem, internal⟩
    obtain ⟨o, value, s, comes, isPending, answered⟩ :=
      isInternal.1 ⟨fault, (isFault fault).1 mem, internal⟩
    exact ⟨_, List.mem_singleton_self _, o, misassigns comes isPending answered⟩
  · rintro ⟨e, mem, o, h⟩
    obtain rfl := List.mem_singleton.1 mem
    obtain ⟨fault, isOutcome, internal⟩ := isInternal.2 (pending h)
    exact ⟨fault, (isFault fault).2 isOutcome, internal⟩
  · have isOutcome := (isFault fault).1 mem
    rcases ready.interpret visited loads.wellScoped isRun with
      ⟨fault', isFault', ⟨o, value, s, comes, isPending, isMisplaced, answered⟩, -⟩ | ⟨proper, -⟩
    · obtain rfl : fault' = fault := Except.error.inj (isFault'.symm.trans isOutcome)
      exact ⟨_, List.mem_singleton_self _, o, misassigns comes isPending answered, isMisplaced⟩
    · exact absurd internal (proper fault isOutcome)

/-- A program that assigns a variable in its own initializer is accepted and ends with such a
fault. -/
theorem internal_iff_misassigns_initializer :
    let i := Interpreter.start .unlimited fun _ => .ok 0
    let source := "\x7b var a = a = nil; \x7d"
    (∃ i', i.run 20 source = some ([.fault (Heap.misplaced "a" 0 1)], i')) ∧
      ∃ e ∈ i.executions source, ∃ o, e.Misassigns (i.executions source ++ []) o := by
  intro i source
  have isTokens : tokenize source = .ok [⟨.symbol .leftBrace, "\x7b", 1⟩,
      ⟨.keyword .var_, "var", 1⟩, ⟨.identifier, "a", 1⟩, ⟨.symbol .equal, "=", 1⟩,
      ⟨.identifier, "a", 1⟩, ⟨.symbol .equal, "=", 1⟩, ⟨.keyword .nil_, "nil", 1⟩,
      ⟨.symbol .semicolon, ";", 1⟩, ⟨.symbol .rightBrace, "\x7d", 1⟩, ⟨.endOfInput, "", 1⟩] := by
    cbv
  let program : List Stmt := [.block [.varDecl ⟨.identifier, "a", 1⟩
    (some (.assign ⟨1, ⟨.identifier, "a", 1⟩⟩ (.literal .nil 1)))]]
  have isVerdict : analyse (programEvents program) = ⟨[], [(1, 0)]⟩ := by
    cbv
  have isLoaded : i.load source = (.ok program, (i.retabled 2 ∅).recordDistances [(1, 0)]) :=
    Interpreter.load_eq isTokens rfl isVerdict
  obtain ⟨i', ended⟩ :
      ∃ i', i.run 20 source = some ([.fault (Heap.misplaced "a" 0 1)], i') := by
    rw [Interpreter.run, isLoaded]
    exact ⟨_, rfl⟩
  exact ⟨⟨i', ended⟩, (Session.internal_iff_misassigns (.start _ _) ended).1.1
    ⟨_, List.mem_singleton_self _, rfl⟩⟩

end Lox
