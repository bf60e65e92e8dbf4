import Lox.Proofs.Session.History
import Lox.Proofs.Session.View

/-!
# Sessions by lexical scoping

The lexical evaluator runs sources as the evaluator with distances does: loading is the same, and
the program is executed without the table of distances. Two sessions that run the same sources, one
with each evaluator, stay alike as long as no run of the first ends with a defect of the evaluator.

## Main definitions

* `Interpreter.runLexically`: read a program and run it by lexical scoping.
* `Twins`: the states of two sessions with the same sources.

## Main results

* `Twins.lexical_of_run`: runs end in the same way, and show the same.
-/

namespace Lox

open Scope Evaluation World

/-- Read a program and run it by lexical scoping. The result is the list of its errors. -/
def Interpreter.runLexically (moves : Nat) (source : String) (i : Interpreter) :
    Option (List Diagnostic × Interpreter) :=
  match i.load source with
  | (.error errors, i) => some (errors, i)
  | (.ok program, i) =>
    (Job.run Lexical.step moves (interpret program) i).map fun (outcome, i) =>
      match outcome with
      | .ok () => ([], i)
      | .error fault => ([.fault fault], i)

/-- No fault that only a defect of the evaluator can cause is among some errors. -/
def Proper (errors : List Diagnostic) : Prop :=
  ∀ fault, .fault fault ∈ errors → fault.kind ≠ .internal

/-- The states of two sessions that have run the same sources and left out the same numbers, the
first one with distances and the second one by lexical scoping. No run of the first has ended with a
defect. -/
inductive Twins : Interpreter → Interpreter → Prop
  | start (sink : Sink) (clock : Clock) : Twins (.start sink clock) (.start sink clock)
  | run {i i' j j' : Interpreter} {source : String} {moves moves' : Nat}
      {errors errors' : List Diagnostic} (before : Twins i i')
      (ended : i.run moves source = some (errors, j)) (proper : Proper errors)
      (ended' : i'.runLexically moves' source = some (errors', j')) : Twins j j'
  | skip {i i' : Interpreter} (before : Twins i i') (count : Nat) :
      Twins (i.skip count) (i'.skip count)

variable {past : List Execution} {i i' j j' : Interpreter} {program : List Stmt}
  {source : String} {moves moves' : Nat} {errors errors' : List Diagnostic}

/-- Loading depends on nothing but the number of the next occurrence. -/
theorem Interpreter.load_congr (source : String) (isNext : i'.nextId = i.nextId) :
    ∃ table, i'.load source = ((i.load source).1, i'.retabled (i.load source).2.nextId table) := by
  unfold load parse
  cases tokenize source with
  | error errors => exact ⟨i'.distances, by rw [← isNext]; rfl⟩
  | ok tokens =>
    dsimp only [parseTokens]
    rw [isNext]
    rcases parseProgram tokens i.nextId with ⟨errors | program, n⟩
    · exact ⟨i'.distances, rfl⟩
    · dsimp only [Except.mapError, bindProgram, adopt]
      cases (analyse (programEvents program)).errors with
      | nil => exact ⟨_, rfl⟩
      | cons e es => exact ⟨_, rfl⟩

/-- A run by lexical scoping has one outcome. -/
theorem Interpreter.runLexically_unique (ended : i.runLexically moves source = some (errors, j))
    (ended' : i.runLexically moves' source = some (errors', j')) : errors = errors' ∧ j = j' := by
  unfold runLexically at ended ended'
  rcases isLoaded : i.load source with ⟨result, k⟩
  rw [isLoaded] at ended ended'
  cases result with
  | error errors₀ =>
    cases ended
    cases ended'
    exact ⟨rfl, rfl⟩
  | ok program =>
    obtain ⟨⟨outcome, t⟩, isRun, isOutcome⟩ := Option.map_eq_some_iff.1 ended
    obtain ⟨⟨outcome', t'⟩, isRun', isOutcome'⟩ := Option.map_eq_some_iff.1 ended'
    cases Job.run_unique isRun isRun'
    exact Prod.mk.inj (isOutcome.symm.trans isOutcome')

/-- From related states of a session, a source runs alike. -/
theorem Session.exists_runLexically {frames : List Origin} {cells : List Cell}
    (ready : Ready (of frames cells i.nextId past) i i')
    (ended : i.run moves source = some (errors, j)) (proper : Proper errors) :
    ∃ frames' cells' moves' j', i'.runLexically moves' source = some (errors, j') ∧
      Ready (of frames' cells' j.nextId (i.executions source ++ past)) j j' := by
  obtain ⟨table, isLoaded'⟩ := Interpreter.load_congr source
    (ready.coherent.nextId'.trans ready.coherent.nextId.symm)
  rcases i.run_cases ended with ⟨isLoaded, noExecution⟩ |
    ⟨program, k, outcome, isLoaded, isExecution, isRun, isErrors⟩
  · obtain ⟨n, table', le, isState, stays⟩ := i.exists_load source
    rw [isLoaded] at isState isLoaded'
    obtain rfl : j = _ := isState
    rw [noExecution]
    refine ⟨frames, cells, 0, _, ?_, ready.retable table le stays⟩
    rw [Interpreter.runLexically, isLoaded']
  · rw [isLoaded] at isLoaded'
    have loads := Interpreter.loads_of_load isLoaded
    rcases (ready.load loads table).interpret (fun task arises => ⟨_, List.mem_cons_self, arises⟩)
        loads.wellScoped isRun with
        ⟨fault, rfl, culprit, -⟩ | ⟨-, moves', w, t, grown, later, isRun'⟩
    · obtain ⟨_, _, _, _, _, rfl, _⟩ := culprit
      subst isErrors
      exact absurd rfl (proper _ (List.mem_singleton_self _))
    · rw [isExecution]
      refine ⟨_, _, moves', t, ?_,
        eq_of later.coherent.nextId.symm grown.known grown.visited ▸ later⟩
      rw [Interpreter.runLexically, isLoaded']
      dsimp only
      rw [isRun', Option.map_some, isErrors]
      cases outcome <;> rfl

/-- Twins are related. -/
theorem Twins.exists_ready (twins : Twins i i') :
    ∃ past frames cells, Session past i ∧ Ready (of frames cells i.nextId past) i i' := by
  induction twins with
  | start sink clock => exact ⟨[], _, _, .start sink clock, ready_start sink clock⟩
  | run _ ended proper ended' ih =>
    obtain ⟨past, frames, cells, session, ready⟩ := ih
    obtain ⟨frames', cells', moves, k, isRun, ready'⟩ :=
      Session.exists_runLexically ready ended proper
    obtain ⟨-, rfl⟩ := Interpreter.runLexically_unique ended' isRun
    exact ⟨_, frames', cells', session.run ended, ready'⟩
  | skip _ count ih =>
    obtain ⟨past, frames, cells, session, ready⟩ := ih
    exact ⟨past, frames, cells, session.skip count, ready.skip count⟩

/-- Distances implement lexical scoping: a source that is run with distances, and does not end with
a defect, ends by lexical scoping in the same way. It has written the same, it reports the same
errors, and it leaves the same global names. -/
theorem Twins.lexical_of_run (twins : Twins i i') (ended : i.run moves source = some (errors, j))
    (proper : Proper errors) : ∃ moves' j', i'.runLexically moves' source = some (errors, j') ∧
      j'.sink = j.sink ∧ j'.view = j.view := by
  obtain ⟨past, frames, cells, -, ready⟩ := twins.exists_ready
  obtain ⟨frames', cells', moves', j', isRun, ready'⟩ :=
    Session.exists_runLexically ready ended proper
  refine ⟨moves', j', isRun, ready'.coherent.sink, ?_⟩
  exact Interpreter.view_eq (fun _ _ same => ⟨same.sort, same.text⟩) ready'.coherent.heap.globals

/-- A function is declared in a block, and then a variable with the name that it prints. As the
first source of a session. -/
theorem Interpreter.load_shadowed (sink : Sink) (clock : Clock) :
    let word (text : String) : Token := ⟨.identifier, text, 1⟩
    let paren : Token := ⟨.symbol .rightParen, ")", 1⟩
    (start sink clock).load ("var a = \"global\"; \x7b fun show() \x7b print a; \x7d show(); " ++
        "var a = \"block\"; show(); \x7d") =
      (.ok [.varDecl (word "a") (some (.literal (.string "global") 1)),
          .block [.functionDecl ⟨word "show", [], [.print (.reference ⟨0, word "a"⟩)]⟩,
            .expression (.call (.reference ⟨1, word "show"⟩) paren []),
            .varDecl (word "a") (some (.literal (.string "block") 1)),
            .expression (.call (.reference ⟨2, word "show"⟩) paren [])]],
        ((start sink clock).retabled 3 ∅).recordDistances [(1, 0), (2, 0)]) := by
  intro word paren
  have isTokens : tokenize ("var a = \"global\"; \x7b fun show() \x7b print a; \x7d show(); " ++
      "var a = \"block\"; show(); \x7d") =
      .ok [⟨.keyword .var_, "var", 1⟩, word "a", ⟨.symbol .equal, "=", 1⟩,
        ⟨.string "global", "\"global\"", 1⟩, ⟨.symbol .semicolon, ";", 1⟩,
        ⟨.symbol .leftBrace, "\x7b", 1⟩, ⟨.keyword .fun_, "fun", 1⟩, word "show",
        ⟨.symbol .leftParen, "(", 1⟩, paren, ⟨.symbol .leftBrace, "\x7b", 1⟩,
        ⟨.keyword .print_, "print", 1⟩, word "a", ⟨.symbol .semicolon, ";", 1⟩,
        ⟨.symbol .rightBrace, "\x7d", 1⟩, word "show", ⟨.symbol .leftParen, "(", 1⟩, paren,
        ⟨.symbol .semicolon, ";", 1⟩, ⟨.keyword .var_, "var", 1⟩, word "a",
        ⟨.symbol .equal, "=", 1⟩, ⟨.string "block", "\"block\"", 1⟩, ⟨.symbol .semicolon, ";", 1⟩,
        word "show", ⟨.symbol .leftParen, "(", 1⟩, paren, ⟨.symbol .semicolon, ";", 1⟩,
        ⟨.symbol .rightBrace, "\x7d", 1⟩, ⟨.endOfInput, "", 1⟩] := by
    cbv
  exact load_eq isTokens rfl (by cbv)

/-- A variable that is declared after a function does not shadow the one that the function reads. -/
theorem lexical_of_run_shadowed :
    let i := Interpreter.start .unlimited fun _ => .ok 0
    let source := "var a = \"global\"; \x7b fun show() \x7b print a; \x7d show(); " ++
      "var a = \"block\"; show(); \x7d"
    ∃ moves j, i.runLexically moves source = some ([], j) ∧
      j.sink.written = "global\nglobal\n".toUTF8 := by
  intro i source
  have isLoaded := Interpreter.load_shadowed .unlimited fun _ => .ok 0
  dsimp only at isLoaded
  generalize isProgram : ([_, _] : List Stmt) = program at isLoaded
  generalize isState : Interpreter.recordDistances _ _ = k at isLoaded
  have shown : (Interpreter.perform 60 (interpret program) k).map
      (fun left => (left.1.isOk, left.2.sink.written.data)) =
        some (true, "global\nglobal\n".toUTF8.data) := by
    subst isProgram isState
    decide +kernel
  obtain ⟨⟨outcome, j⟩, isRun, isSame⟩ := Option.map_eq_some_iff.1 shown
  obtain ⟨isOk, isWritten⟩ := Prod.mk.inj isSame
  cases outcome with
  | error => cases isOk
  | ok =>
    have ended : i.run 60 source = some ([], j) := by
      rw [Interpreter.run, show i.load source = _ from isLoaded]
      exact congrArg (Option.map _) isRun
    obtain ⟨moves, j', ended', isSink, -⟩ := Twins.lexical_of_run (.start _ _) ended nofun
    exact ⟨moves, j', ended', (congrArg Sink.written isSink).trans (ByteArray.ext isWritten)⟩

end Lox
