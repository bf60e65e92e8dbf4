import Lox.Proofs.Evaluation.Bounded
import Lox.Proofs.Evaluation.Registers
import Lox.Proofs.Session.Host

/-!
# The registers between the steps of a session

Between the steps of a session no code runs, so the current frame is that of the global names, and
no call is in progress. A step that fails leaves nothing behind that a later one would run in.

## Main definitions

* `Interpreter.TakesUp`: a goal comes up in a step of a session.

## Main results

* `HostSession.frame_and_depth`: the registers between the steps of a session.
* `HostSession.registers_restored`: the registers are put back by all that runs.
-/

namespace Lox

open Evaluation

namespace Interpreter

variable {i j : Interpreter}

/-- A goal comes up in a step that begins in a state, while the treatments of others wait. -/
inductive TakesUp (i : Interpreter) (outer : List Task) (task : Task) : Prop
  | run {source : String} {program : List Stmt} {j : Interpreter}
      (isLoaded : i.load source = (.ok program, j))
      (nested : Routine.Nested body (interpret program j) outer task) : TakesUp i outer task
  | evaluate {source : String} {e : Expr} {j : Interpreter}
      (isLoaded : i.loadExpr source = (.ok e, j))
      (nested : Routine.Nested body (Evaluation.evaluate e j) outer task) : TakesUp i outer task
  | call {callee : Value} {arguments : List Value} {line : Nat}
      (nested : Routine.Nested body (Evaluation.call callee arguments line i) outer task) :
      TakesUp i outer task

/-- Reading a source leaves the registers as they are. -/
theorem sameRegisters_load (i : Interpreter) (source : String) :
    i.SameRegisters (i.load source).2 := by
  obtain ⟨n, table, -, isState, -⟩ := i.exists_load source
  rw [isState]
  exact ⟨rfl, rfl⟩

theorem sameRegisters_loadExpr (i : Interpreter) (source : String) :
    i.SameRegisters (i.loadExpr source).2 := by
  obtain ⟨n, table, isState⟩ := i.exists_loadExpr source
  rw [isState]
  exact ⟨rfl, rfl⟩

/-- The run of a source puts back the registers. -/
theorem sameRegisters_run {moves : Nat} {source : String} {errors : List Diagnostic}
    (ended : i.run moves source = some (errors, j)) : i.SameRegisters j := by
  have loads := i.sameRegisters_load source
  rcases i.run_cases ended with ⟨isLoaded, -⟩ | ⟨program, k, outcome, isLoaded, -, isRun, -⟩
  · rwa [isLoaded] at loads
  · rw [isLoaded] at loads
    have since := since_interpret ⟨moves, isRun⟩
    exact loads.trans ⟨since.frame, since.depth⟩

/-- The evaluation of a source puts back the registers. -/
theorem sameRegisters_evaluate {moves : Nat} {source : String}
    {result : Except (List Diagnostic) Value} (ended : i.evaluate moves source = some (result, j)) :
    i.SameRegisters j := by
  have loads := i.sameRegisters_loadExpr source
  unfold Interpreter.evaluate at ended
  rcases isLoaded : i.loadExpr source with ⟨loaded, k⟩
  rw [isLoaded] at ended loads
  cases loaded with
  | error errors =>
    cases ended
    exact loads
  | ok e =>
    obtain ⟨⟨outcome, t⟩, isRun, isOutcome⟩ := Option.map_eq_some_iff.1 ended
    cases isOutcome
    exact loads.trans (Ends.sameRegisters (r := .evaluate e) ⟨moves, isRun⟩)

/-- Reading a property makes a bound method at most. -/
theorem sameRegisters_property (i : Interpreter) (address : Nat) (c : Class) (name : Token) :
    i.SameRegisters (i.property address c name).2 := by
  unfold property
  split
  · exact ⟨rfl, rfl⟩
  · split <;> exact ⟨rfl, rfl⟩

end Interpreter

namespace HostSession

variable {allowed : String → Prop} {values : List Value} {i : Interpreter}

/-- Between the steps of a session the current frame is that of the global names, and no call is in
progress. -/
theorem frame_and_depth (session : HostSession allowed values i) :
    i.frame = globalFrame ∧ i.depth = 0 := by
  induction session with
  | start => exact ⟨rfl, rfl⟩
  | run _ _ ended ih =>
    have same := Interpreter.sameRegisters_run ended
    exact ⟨same.frame.trans ih.1, same.depth.trans ih.2⟩
  | evaluate _ ended ih =>
    have same := Interpreter.sameRegisters_evaluate ended
    exact ⟨same.frame.trans ih.1, same.depth.trans ih.2⟩
  | @call _ _ _ moves callee arguments line _ _ _ _ ended ih =>
    have same := Ends.sameRegisters (r := .call callee arguments line) ⟨moves, ended⟩
    exact ⟨same.frame.trans ih.1, same.depth.trans ih.2⟩
  | @assign _ i name line _ _ _ ih =>
    unfold Interpreter.assignGlobal
    split <;> exact ih
  | @property _ i address line c name _ _ ih =>
    have same := i.sameRegisters_property address c (Interpreter.nameAt name line)
    exact ⟨same.frame.trans ih.1, same.depth.trans ih.2⟩
  | plain _ _ ih | global _ _ ih | define _ _ ih | setField _ _ _ ih | redirect _ _ ih
  | skip _ _ ih => exact ih

/-- In every step of a session the number of calls in progress is that of the calls that wait, and
it does not exceed the greatest one. -/
theorem depth_of_takesUp (session : HostSession allowed values i) {outer : List Task} {task : Task}
    (takesUp : i.TakesUp outer task) :
    task.2.2.depth = calls outer ∧ calls outer ≤ maxDepth := by
  have counted {α : Type} {Q : α → Prop} {job : Eval α} {k : Interpreter} (rest : k.depth = 0)
      (keeps : Realm.whole.Keeps k k.frame k.depth (fun task => task.2.2.depth = 0) Q job)
      (nested : Routine.Nested body (job k) outer task) :
      task.2.2.depth = calls outer ∧ calls outer ≤ maxDepth := by
    obtain ⟨-, isDepth, le⟩ :=
      depth_of_nested keeps k.heap.within_whole (Nat.zero_le maxDepth) nested
    rw [Nat.zero_add] at isDepth
    exact ⟨isDepth, isDepth ▸ le⟩
  obtain ⟨-, rest⟩ := session.frame_and_depth
  cases takesUp with
  | @run source program j isLoaded nested =>
    have loads := i.sameRegisters_load source
    rw [isLoaded] at loads
    have rest := loads.depth.trans rest
    exact counted rest (keeps_interpret trivial (fun _ _ => trivial)
      fun _ _ _ depth => depth.trans rest) nested
  | @evaluate source e j isLoaded nested =>
    have loads := i.sameRegisters_loadExpr source
    rw [isLoaded] at loads
    have rest := loads.depth.trans rest
    exact counted rest (keeps_evaluate trivial fun _ depth => depth.trans rest) nested
  | call nested =>
    exact counted rest (keeps_ask (admits_whole i.frame _) fun _ depth => depth.trans rest) nested

/-- Every request puts back the registers, in whatever state it is made and whatever comes of it. So
between the steps of a session the current frame is that of the global names and no call is in
progress, whatever became of the steps before; each statement of the next program is executed in
that frame, and the number of calls in progress is always that of the calls that wait. -/
theorem registers_restored :
    (∀ (p : Phase) (r : Request p) (i j : Interpreter) (outcome : Except Fault p.Result),
      Ends (Job.ask r) i outcome j → j.frame = i.frame ∧ j.depth = i.depth) ∧
    ∀ (values : List Value) (i : Interpreter), HostSession (fun _ => True) values i →
      (i.frame = globalFrame ∧ i.depth = 0) ∧
      (∀ (source : String) (program : List Stmt) (j : Interpreter) (task : Task),
        i.load source = (.ok program, j) → Routine.Requests body (executeAll program j) task →
          ∃ s ∈ program, ∃ t, task = executing s t ∧ t.frame = globalFrame ∧ t.depth = 0) ∧
      ∀ (outer : List Task) (task : Task), i.TakesUp outer task →
        task.2.2.depth = calls outer ∧ calls outer ≤ maxDepth := by
  refine ⟨fun p r i j outcome ended => ?_, fun values i session => ?_⟩
  · exact ⟨ended.sameRegisters.frame, ended.sameRegisters.depth⟩
  obtain ⟨isFrame, isDepth⟩ := session.frame_and_depth
  refine ⟨⟨isFrame, isDepth⟩, fun source program j task isLoaded requested => ?_,
    fun outer task takesUp => session.depth_of_takesUp takesUp⟩
  have loads := i.sameRegisters_load source
  rw [isLoaded] at loads
  obtain ⟨s, mem, t, isTask, same⟩ := sameRegisters_of_requests requested
  exact ⟨s, mem, t, isTask, (loads.trans same).frame.trans isFrame,
    (loads.trans same).depth.trans isDepth⟩

/-- A call that fails inside another one, in the first step of a session. -/
theorem registers_restored_fault :
    let paren : Token := ⟨.symbol .rightParen, ")", 1⟩
    let f : Value := .function 0 ⟨⟨⟨.identifier, "f", 1⟩, [],
      [.expression (.call (.literal .nil 1) paren [])]⟩, globalFrame, false⟩
    let i := Interpreter.start .unlimited fun _ => .ok 0
    ∃ j, Ends (Evaluation.call f [] 1) i (.error ⟨.notCallable, 1⟩) j ∧ j.heap.frames.size = 2 ∧
      j.frame = globalFrame ∧ j.depth = 0 := by
  intro paren f i
  obtain ⟨j, ended, size⟩ : ∃ j, Ends (Evaluation.call f [] 1) i (.error ⟨.notCallable, 1⟩) j ∧
      j.heap.frames.size = 2 :=
    ⟨_, ⟨30, rfl⟩, rfl⟩
  have restored := registers_restored.1 .value (.call f [] 1) i j _ ended
  have rest := (registers_restored.2 [] i (.start .unlimited fun _ => .ok 0)).1
  exact ⟨j, ended, size, restored.1.trans rest.1, restored.2.trans rest.2⟩

end HostSession

end Lox
