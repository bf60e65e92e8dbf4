import Lox.Proofs.Evaluation.Confined
import Lox.Proofs.Evaluation.Limited
import Lox.Proofs.Session.Sequence

/-!
# Sessions whose sink overflows

A source is run in two sessions that are in the same state, but that the sink of one has no limit
and that of the other one takes so many more bytes only. The second run writes the first bytes of
what the first one writes. If all of it fits, both end alike; else the second one ends at the print
statement whose line does not fit.

## Main definitions

* `Evaluation.CutShort`: a program ends at a print statement, as its line does not fit.

## Main results

* `Interpreter.load_limited`: sources are read without regard to the sink.
* `Interpreter.run_limited`: how a source is run with a sink that takes so many bytes.
-/

namespace Lox

open Evaluation

/-- The run of a program with a sink that holds `b` bytes ends at a print statement, in a state. -/
structure Evaluation.CutShort (b : Nat) (reason : String) (program : List Stmt)
    (j t : Interpreter) (e : Expr) (v : Value) (s k : Interpreter) : Prop where
  /-- The statement comes up in the run with a sink without a limit; -/
  arises : Routine.Arises body (interpret program j) (executing (.print e) s)
  /-- and its line is that with which the output there comes to have more than `b` bytes. -/
  crosses : Crosses b e v s k
  /-- It is the last one that comes up in the run with the limited sink, which is over, with a
  fault, when it has been executed. -/
  concludes : Routine.Concludes body (interpret program (j.limited b reason))
    (.error ⟨.outputFailed reason, e.line⟩, t) (executing (.print e) (s.limited b reason))
  /-- Nothing has been changed since then. -/
  left : t = { (k.appended (v.text ++ "\n")).filled b reason with
    frame := j.frame, depth := j.depth }

/-- If a program ends with a sink without a limit, it ends with a limited one, and writes as much of
the same bytes as fits. -/
theorem Evaluation.ends_limited {b : Nat} {reason : String} {program : List Stmt}
    {j t : Interpreter} {outcome : Except Fault Unit} (ended : Ends (interpret program) j outcome t)
    (limitless : j.sink.Limitless) (fits : j.sink.written.size ≤ b) :
    ∃ outcome' t', Ends (interpret program) (j.limited b reason) outcome' t' ∧
      t'.sink.written = t.sink.written.extract 0 b ∧
      (t.sink.written.size ≤ b → outcome' = outcome ∧ t' = t.limited b reason) ∧
      (b < t.sink.written.size → ∃ e v s k,
        outcome' = .error ⟨.outputFailed reason, e.line⟩ ∧
          CutShort b reason program j t' e v s k) := by
  obtain ⟨n, result⟩ := ends_iff.1 ended
  obtain ⟨outcome', t', result', follows⟩ :=
    (cuts_interpret b reason n program).follows result limitless fits
  have ended' := ends_iff.2 ⟨n, result'⟩
  refine ⟨outcome', t', ended', ?_⟩
  cases follows with
  | same fits' =>
    exact ⟨(extract_of_size_le fits').symm, fun _ => ⟨rfl, rfl⟩,
      fun exceeds => absurd fits' (Nat.not_le_of_lt exceeds)⟩
  | cut crosses first last left goesOn =>
    have exceeds := Nat.lt_of_lt_of_le crosses.exceeds goesOn.size_le
    have isWritten := goesOn.extract_eq (Nat.le_of_lt crosses.exceeds)
    have since := since_interpret ended'
    rw [since.frame, since.depth] at left
    exact ⟨(congrArg (·.sink.written) left).trans isWritten.symm,
      fun fits' => absurd fits' (Nat.not_le_of_lt exceeds),
      fun _ => ⟨_, _, _, _, rfl, first, crosses, last, left⟩⟩

namespace Interpreter

variable {i j t : Interpreter} {b n moves : Nat} {source : String} {program : List Stmt}
  {errors : List Diagnostic}

/-- Sources are read without regard to the sink. -/
theorem load_limited (b : Nat) (reason : String) (i : Interpreter) (source : String) :
    (i.limited b reason).load source = ((i.load source).1, (i.load source).2.limited b reason) := by
  unfold load parse
  cases tokenize source with
  | error errors => rfl
  | ok tokens =>
    have isNext : (i.limited b reason).nextId = i.nextId := rfl
    dsimp only [parseTokens]
    rw [isNext]
    rcases parseProgram tokens i.nextId with ⟨errors | program, m⟩
    · rfl
    · dsimp only [Except.mapError, bindProgram, adopt]
      cases (Scope.analyse (Scope.programEvents program)).errors <;> rfl

/-- How a source runs that is read as a program. -/
theorem exists_run_iff (isLoaded : i.load source = (.ok program, j)) :
    (∃ moves, i.run moves source = some (errors, t)) ↔
      ∃ outcome, Ends (interpret program) j outcome t ∧ errors = faults outcome := by
  simp only [run_eq_runFrom]
  exact runFrom_iff (i.load_eq_readFrom source ▸ isLoaded)

/-- **Overflow.** Let a source run to its end in a session whose sink has no limit, and write some
bytes. In the same session with a sink that takes `n` bytes it runs to its end as well, and writes
the first `n` of them, or all if there are fewer. If there are no more than `n`, the errors and the
state that is left are the same, but for the limit. Otherwise the run ends at the print statement
whose line does not fit, with one error for its output, on the line of its expression. -/
theorem run_limited (limitless : i.sink.Limitless)
    (isRun : i.run moves source = some (errors, t)) (n : Nat) (reason : String) :
    ∃ written moves' errors' t', t.sink.device = i.sink.device ∧
      t.sink.written = i.sink.written ++ written ∧
      (i.limited (i.sink.written.size + n) reason).run moves' source = some (errors', t') ∧
      t'.sink.written = i.sink.written ++ written.extract 0 (min n written.size) ∧
      (written.size ≤ n → errors' = errors ∧ t' = t.limited (i.sink.written.size + n) reason) ∧
      (n < written.size → ∃ program j e v s k fault, i.load source = (.ok program, j) ∧
        errors' = [.fault fault] ∧ fault.kind = .io ∧ fault.line = e.line ∧
        CutShort (i.sink.written.size + n) reason program j t' e v s k) := by
  let b := i.sink.written.size + n
  obtain ⟨m, table, -, isState, -⟩ := i.exists_load source
  have isLimited := load_limited b reason i source
  rcases isLoaded : i.load source with ⟨errors₀ | program, j⟩
  · rw [isLoaded] at isState isLimited
    rw [run, isLoaded] at isRun
    cases isRun
    obtain rfl : t = _ := isState
    have isEmpty : ByteArray.empty.extract 0 (min n ByteArray.empty.size) = .empty :=
      extract_of_size_le (Nat.zero_le _)
    refine ⟨.empty, 0, errors, _, rfl, ?_, by rw [run, isLimited], ?_, fun _ => ⟨rfl, rfl⟩,
      fun exceeds => absurd exceeds (Nat.not_lt_zero n)⟩
    · rw [ByteArray.append_empty]
      rfl
    · rw [isEmpty, ByteArray.append_empty]
      rfl
  · rw [isLoaded] at isState isLimited
    obtain rfl : j = _ := isState
    obtain ⟨outcome, ended, isErrors⟩ := (exists_run_iff isLoaded).1 ⟨moves, isRun⟩
    obtain ⟨isDevice, written, isWritten⟩ := (since_interpret ended).sink
    replace isWritten : t.sink.written = i.sink.written ++ written := isWritten
    have isSize : t.sink.written.size = i.sink.written.size + written.size := by
      rw [isWritten, ByteArray.size_append]
    obtain ⟨outcome', t', ended', isCut, whole, cut⟩ :=
      ends_limited (b := b) ended limitless (Nat.le_add_right _ _)
    obtain ⟨moves', isRun'⟩ := (exists_run_iff isLimited).2 ⟨outcome', ended', rfl⟩
    refine ⟨written, moves', _, t', isDevice, isWritten, isRun', ?_, fun fits => ?_,
      fun exceeds => ?_⟩
    · rw [isCut, isWritten, extract_append_of_ge (Nat.le_add_right _ _), Nat.add_sub_cancel_left,
        extract_min_size]
    · obtain ⟨rfl, isState⟩ := whole (isSize ▸ Nat.add_le_add_left fits _)
      exact ⟨isErrors.symm, isState⟩
    · obtain ⟨e, v, s, k, rfl, cutShort⟩ := cut (isSize ▸ Nat.add_lt_add_left exceeds _)
      exact ⟨program, _, e, v, s, k, _, rfl, rfl, rfl, rfl, cutShort⟩

/-- Two statements that print, on two lines, as the first source of a session. -/
theorem load_prints (sink : Sink) (clock : Clock) :
    (start sink clock).load "print nil;\nprint true;" =
      (.ok [.print (.literal .nil 1), .print (.literal (.boolean true) 2)],
        ((start sink clock).retabled 0 ∅).recordDistances []) := by
  have isTokens : tokenize "print nil;\nprint true;" = .ok [⟨.keyword .print_, "print", 1⟩,
      ⟨.keyword .nil_, "nil", 1⟩, ⟨.symbol .semicolon, ";", 1⟩, ⟨.keyword .print_, "print", 2⟩,
      ⟨.keyword .true_, "true", 2⟩, ⟨.symbol .semicolon, ";", 2⟩, ⟨.endOfInput, "", 2⟩] := by
    cbv
  exact load_eq isTokens rfl (by cbv)

/-- The second line does not fit if there is room for two bytes of it. -/
theorem run_limited_prints :
    let i := start .unlimited fun _ => .ok 0
    let source := "print nil;\nprint true;"
    i.sink.Limitless ∧ ∃ t, i.run 20 source = some ([], t) ∧
      ∃ moves' fault t', (i.limited 6 "closed").run moves' source = some ([.fault fault], t') ∧
        fault.kind = .io ∧ t'.sink.written = "nil\ntr".toUTF8 := by
  intro i source
  have isRun : ∃ t, i.run 20 source = some ([], t) ∧ t.sink.written = "nil\ntrue\n".toUTF8 := by
    rw [run, load_prints]
    exact ⟨_, rfl, rfl⟩
  obtain ⟨t, isRun, isOutput⟩ := isRun
  have limitless : i.sink.Limitless :=
    Sink.limitless_of_flushes (fun _ _ => ⟨_, rfl⟩) fun _ => rfl
  obtain ⟨written, moves', errors', t', -, isWritten, isRun', isCut, -, cut⟩ :=
    run_limited limitless isRun 6 "closed"
  obtain rfl : written = "nil\ntrue\n".toUTF8 := by
    rw [isOutput] at isWritten
    exact (isWritten.trans ByteArray.empty_append).symm
  obtain ⟨_, _, _, _, _, _, fault, -, rfl, isIo, -⟩ := cut (by decide)
  exact ⟨limitless, t, isRun, moves', fault, t', isRun', isIo, isCut.trans (by decide)⟩

end Interpreter

end Lox
