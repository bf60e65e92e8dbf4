import Lox.Proofs.Evaluation.Sequence
import Lox.Proofs.Session.Joined

/-!
# Splitting a text over the steps of a session

To run two sources that are joined by a newline is to run the first, and if it ends without an
error, to run the second in the session that the first has left. Nothing of the second source is
executed if the first fails.

## Main definitions

* `Interpreter.Shows`, `Interpreter.ShowsFrom`: what a run of a source shows.
* `StepReport.Recounted`: reports that are the same but for the lines of errors.

## Main results

* `Session.shows_joined`: what the joined text shows is what both sources show in turn.
-/

namespace Lox

open Scope Evaluation

variable {c : Relabelling} {i i' j j' : Interpreter} {p p' : List Stmt} {a b : String}

/-! ### Alike states, with the same lines -/

theorem Fault.Alike.eq_of_lines {e e' : Fault} (h : e.Alike c e') (isLines : c.lines = Eq) :
    e' = e := by
  obtain ⟨cause, line⟩ := e
  obtain ⟨cause', line'⟩ := e'
  obtain ⟨isCause, isLine⟩ := h
  rw [isLines] at isLine
  cases isCause
  cases isLine
  rfl

/-- Programs that end alike, with the same lines, end with the same outcome. -/
theorem Checked.eq_of_lines {outcome outcome' : Except Fault Unit}
    (h : Checked c (fun _ _ => True) outcome outcome') (isLines : c.lines = Eq) :
    outcome' = outcome := by
  cases h with
  | ok => rfl
  | error faults => rw [faults.eq_of_lines isLines]

namespace Interpreter.Alike

variable {w : Interpreter × Interpreter} {outcome : Except Fault Unit}

theorem view (alike : i.Alike c w i') : i'.view = i.view :=
  view_eq (fun _ _ value => ⟨value.sort, value.text⟩) (alike.heap.binding globalFrame)

theorem report (alike : i.Alike c w i') (errors : List Diagnostic) :
    StepReport.of (errors, i') = .of (errors, i) := by
  rw [StepReport.of, StepReport.of, alike.sink, alike.view]

variable (alike : i.Alike c w i') (programs : List.Forall₂ (Stmt.Alike c) p p')

include alike programs

/-- A program that ends on one side ends on the other side, with the same fault if any. -/
theorem ends_right (isLines : c.lines = Eq) (ended : Ends (interpret p) i outcome j) :
    ∃ j', Ends (interpret p') i' outcome j' ∧ j.Alike c w j' := by
  obtain ⟨_, j', ended', checked, later⟩ :=
    exists_ends_right (similar_interpret programs (isLines ▸ rfl)) alike ended
  exact ⟨j', checked.eq_of_lines isLines ▸ ended', later⟩

theorem ends_left (isLines : c.lines = Eq) (ended : Ends (interpret p') i' outcome j') :
    ∃ j, Ends (interpret p) i outcome j ∧ j.Alike c w j' := by
  obtain ⟨_, j, ended', checked, later⟩ :=
    exists_ends_left (similar_interpret programs (isLines ▸ rfl)) alike ended
  exact ⟨j, (checked.eq_of_lines isLines).symm ▸ ended', later⟩

/-- The execution of statements does not change whether the sink can be flushed. -/
theorem flushes (can : w.1.sink.device.Flushes) : Flushes p i ∧ Flushes p' i' := by
  constructor
  · intro j ended
    obtain ⟨_, _, -, -, later⟩ := exists_ends_right (similar_executeAll programs) alike ended
    exact later.device ▸ can
  · intro j' ended
    obtain ⟨_, _, -, -, later⟩ := exists_ends_left (similar_executeAll programs) alike ended
    rw [later.sink]
    exact later.device ▸ can

end Interpreter.Alike

/-! ### Runs -/

namespace Interpreter

/-- A run of a source shows a report. -/
def Shows (i : Interpreter) (source : String) (report : StepReport) : Prop :=
  ∃ moves, (i.run moves source).map .of = some report

/-- A run of a source that begins on some line shows a report. -/
def ShowsFrom (i : Interpreter) (line : Nat) (source : String) (report : StepReport) : Prop :=
  ∃ moves, (i.runFrom moves line source).map .of = some report

/-- The errors of the execution of a program. -/
def faults : Except Fault Unit → List Diagnostic
  | .ok () => []
  | .error fault => [.fault fault]

variable {line n : Nat} {source : String} {errors : List Diagnostic} {report : StepReport}

/-- How a run of a source ends that is read as a program. -/
theorem runFrom_iff (isRead : i.readFrom line source = (.ok p, i')) :
    (∃ moves, i.runFrom moves line source = some (errors, j)) ↔
      ∃ outcome, Ends (interpret p) i' outcome j ∧ errors = faults outcome := by
  unfold runFrom
  rw [isRead]
  constructor
  · rintro ⟨moves, isRun⟩
    obtain ⟨⟨outcome, t⟩, isOutcome, isSame⟩ := Option.map_eq_some_iff.1 isRun
    cases outcome with
    | ok _ =>
      cases isSame
      exact ⟨.ok (), ⟨moves, isOutcome⟩, rfl⟩
    | error fault =>
      cases isSame
      exact ⟨.error fault, ⟨moves, isOutcome⟩, rfl⟩
  · rintro ⟨outcome, ⟨moves, isOutcome⟩, rfl⟩
    refine ⟨moves, Option.map_eq_some_iff.2 ⟨_, isOutcome, ?_⟩⟩
    cases outcome <;> rfl

/-- How a run of an accepted source ends. -/
theorem ReadsAs.ends_iff (reads : i.ReadsAs line source p n) :
    (∃ moves, i.runFrom moves line source = some (errors, j)) ↔
      ∃ outcome, Ends (interpret p) (i.adopted n p) outcome j ∧ errors = faults outcome :=
  runFrom_iff reads.isRead

theorem ReadsAs.shows_iff (reads : i.ReadsAs line source p n) :
    i.ShowsFrom line source report ↔
      ∃ outcome j, Ends (interpret p) (i.adopted n p) outcome j ∧
        report = .of (faults outcome, j) := by
  constructor
  · rintro ⟨moves, isShown⟩
    obtain ⟨⟨errors, j⟩, isRun, rfl⟩ := Option.map_eq_some_iff.1 isShown
    obtain ⟨outcome, ended, rfl⟩ := reads.ends_iff.1 ⟨moves, isRun⟩
    exact ⟨outcome, j, ended, rfl⟩
  · rintro ⟨outcome, j, ended, rfl⟩
    obtain ⟨moves, isRun⟩ := reads.ends_iff.2 ⟨outcome, ended, rfl⟩
    exact ⟨moves, Option.map_eq_some_iff.2 ⟨_, isRun, rfl⟩⟩

theorem shows_iff_showsFrom : i.Shows source report ↔ i.ShowsFrom 1 source report := by
  unfold Shows ShowsFrom
  simp only [run_eq_runFrom]

end Interpreter

/-! ### Joined sources -/

namespace Interpreter.Joins

variable {q q' : List Stmt} {n n' : NodeId} {report : StepReport}
  (joins : i.Joins a b p q q' n n') (self : Matching c i i) (isLines : c.lines = Eq)

include joins isLines

/-- The first source, and its part of the joined text. -/
theorem alike_extend : List.Forall₂ (Stmt.Alike (c.extend p q)) p q :=
  Relabelling.extend_alike (isLines ▸ joins.alike)

variable (can : i.sink.device.Flushes)

include self can

theorem flushes_first : Flushes q (i.adopted n' (q ++ q')) :=
  ((joins.alike_first self isLines).flushes (joins.alike_extend isLines) can).2

/-- What the joined text shows, the sources show in turn. -/
theorem shows_of_joined (shown : i.ShowsFrom 1 (a ++ "\n" ++ b) report) :
    (i.ShowsFrom 1 a report ∧ report.errors ≠ []) ∨
      ∃ moves k, i.runFrom moves 1 a = some ([], k) ∧ k.ShowsFrom (secondLine a) b report := by
  have before := joins.alike_first self isLines
  have programs := joins.alike_extend isLines
  obtain ⟨outcome, t', ended, rfl⟩ := joins.joined.shows_iff.1 shown
  rcases (ends_append_iff (joins.flushes_first self isLines can)).1 ended with
    ⟨e, rfl, failed⟩ | ⟨k', ended, rest⟩
  · obtain ⟨t, failed, later⟩ := before.ends_left programs isLines failed
    exact .inl ⟨joins.first.shows_iff.2 ⟨_, t, failed, later.report _⟩, List.cons_ne_nil _ _⟩
  · obtain ⟨k, ended, later⟩ := before.ends_left programs isLines ended
    obtain ⟨r, m, reads, alike⟩ := joins.second k
    have before' := joins.alike_second self isLines later reads alike
    obtain ⟨t, rest, later'⟩ := before'.ends_left
      (Relabelling.extend_alike (isLines ▸ alike)) isLines rest
    obtain ⟨moves, isRun⟩ := joins.first.ends_iff.2 ⟨_, ended, rfl⟩
    exact .inr ⟨moves, k, isRun, reads.shows_iff.2 ⟨outcome, t, rest, later'.report _⟩⟩

/-- What the first source shows, the joined text shows, if there is an error. -/
theorem joined_shows_first (shown : i.ShowsFrom 1 a report) (isError : report.errors ≠ []) :
    i.ShowsFrom 1 (a ++ "\n" ++ b) report := by
  obtain ⟨outcome, t, failed, rfl⟩ := joins.first.shows_iff.1 shown
  cases outcome with
  | ok _ => exact (isError rfl).elim
  | error e =>
    obtain ⟨t', failed, later⟩ :=
      (joins.alike_first self isLines).ends_right (joins.alike_extend isLines) isLines failed
    have can' := joins.flushes_first self isLines can
    exact joins.joined.shows_iff.2
      ⟨_, t', (ends_append_iff can').2 (.inl ⟨e, rfl, failed⟩), (later.report _).symm⟩

/-- What the second source shows behind the first, the joined text shows. -/
theorem joined_shows_second {moves : Nat} {k : Interpreter}
    (isRun : i.runFrom moves 1 a = some ([], k)) (shown : k.ShowsFrom (secondLine a) b report) :
    i.ShowsFrom 1 (a ++ "\n" ++ b) report := by
  obtain ⟨first, ended, isFirst⟩ := joins.first.ends_iff.1 ⟨moves, isRun⟩
  cases first with
  | error e => cases isFirst
  | ok _ =>
    obtain ⟨k', ended, later⟩ :=
      (joins.alike_first self isLines).ends_right (joins.alike_extend isLines) isLines ended
    obtain ⟨r, m, reads, alike⟩ := joins.second k
    obtain ⟨outcome, t, rest, rfl⟩ := reads.shows_iff.1 shown
    have before' := joins.alike_second self isLines later reads alike
    obtain ⟨t', rest, later'⟩ := before'.ends_right
      (Relabelling.extend_alike (isLines ▸ alike)) isLines rest
    have can' := joins.flushes_first self isLines can
    exact joins.joined.shows_iff.2 ⟨outcome, t', (ends_append_iff can').2 (.inr ⟨k', ended, rest⟩),
      (later'.report _).symm⟩

end Interpreter.Joins

/-- Reports that are the same, but that the lines of errors may be higher by `n`. -/
structure StepReport.Recounted (n : Nat) (r r' : StepReport) : Prop where
  errors : List.Forall₂ (Diagnostic.Alike fun l l' => l' = l ∨ l' = l + n) r.errors r'.errors
  sink : r'.sink = r.sink
  names : r'.names = r.names

namespace Session

variable {past : List Execution}

/-- A source that begins further down runs alike, with the lines counted from there. -/
theorem recounted (session : Session past i) (n moves : Nat) (source : String) :
    Option.Rel (StepReport.Recounted n) ((i.run moves source).map .of)
      ((i.runFrom moves (1 + n) source).map .of) := by
  have matched : i.Matched (fun l l' => l' = l ∨ l' = l + n) i :=
    session.matched.imp fun l l' isSame => .inl isSame.symm
  have scans : ScansAlike (fun l l' => l' = l ∨ l' = l + n) (tokenizeFrom 1 source)
      (tokenizeFrom (1 + n) source) :=
    (scansAlike_shift n 1 source).imp fun l l' isShifted => .inr isShifted
  have runs := matched.runFrom (.inl rfl) scans moves
  rw [Interpreter.run_eq_runFrom]
  generalize i.runFrom moves 1 source = o at runs
  generalize i.runFrom moves (1 + n) source = o' at runs
  cases runs with
  | none => exact .none
  | some run => exact .some ⟨run.1, run.2.sink, run.2.view⟩

/-- **Splitting a text.** Let two sources be accepted in a state of a session whose sink can always
be flushed. The text in which a newline joins them is accepted as well. It shows what the first
source shows, if that ends with an error, and otherwise what the second one shows, with its lines
in that text, in the state that the first one leaves; read as a text of its own, the second one
differs in the lines of its errors only. If the first source ends with an error, the joined text
comes to the same end before anything of the second one, whatever that is. -/
theorem shows_joined (session : Session past i) (flushes : i.sink.device.Flushes)
    (accepts : i.Accepts a) (accepts' : i.Accepts b) :
    i.Accepts (a ++ "\n" ++ b) ∧
    (∀ report, i.Shows (a ++ "\n" ++ b) report ↔
      (i.Shows a report ∧ report.errors ≠ []) ∨
        ∃ moves k, i.run moves a = some ([], k) ∧ k.ShowsFrom (secondLine a) b report) ∧
    (∀ moves k, i.run moves a = some ([], k) → ∀ moves',
      Option.Rel (StepReport.Recounted (a.toList.count '\n' + 1)) ((k.run moves' b).map .of)
        ((k.runFrom moves' (secondLine a) b).map .of)) ∧
    ∀ moves errors k, i.run moves a = some (errors, k) → errors ≠ [] →
      ∃ p j q q' j' fault t, i.load a = (.ok p, j) ∧ i.load (a ++ "\n" ++ b) = (.ok (q ++ q'), j') ∧
        List.Forall₂ (Stmt.Alike .renumbering) p q ∧ errors = [.fault fault] ∧
        StepReport.of (errors, t) = .of (errors, k) ∧
        ∀ rest, ∃ moves', Job.run step moves' (interpret (q ++ rest)) j' =
          some (.error fault, t) := by
  obtain ⟨c, isLines, self⟩ := session.matched
  obtain ⟨p, q, q', n, n', joins⟩ := accepts.exists_joins accepts'
  refine ⟨⟨_, _, (i.load_eq_readFrom _).trans joins.joined.isRead⟩, fun report => ?_, ?_, ?_⟩
  · simp only [Interpreter.shows_iff_showsFrom, Interpreter.run_eq_runFrom]
    refine ⟨joins.shows_of_joined self isLines flushes, ?_⟩
    rintro (⟨shown, isError⟩ | ⟨moves, k, isRun, shown⟩)
    · exact joins.joined_shows_first self isLines flushes shown isError
    · exact joins.joined_shows_second self isLines flushes isRun shown
  · intro moves k isRun moves'
    have isLine : secondLine a = 1 + (a.toList.count '\n' + 1) := rfl
    rw [isLine]
    exact (session.run isRun).recounted _ moves' b
  · intro moves errors k isRun isError
    rw [Interpreter.run_eq_runFrom] at isRun
    obtain ⟨outcome, failed, rfl⟩ := joins.first.ends_iff.1 ⟨moves, isRun⟩
    cases outcome with
    | ok _ => exact (isError rfl).elim
    | error fault =>
      obtain ⟨t, failed, later⟩ :=
        (joins.alike_first self isLines).ends_right (joins.alike_extend isLines) isLines failed
      exact ⟨p, _, q, q', _, fault, t, (i.load_eq_readFrom _).trans joins.first.isRead,
        (i.load_eq_readFrom _).trans joins.joined.isRead, joins.alike, rfl, later.report _,
        fun rest => failed.append (joins.flushes_first self isLines flushes) rest⟩

end Session

/-- A comment at the end of the first source ends there, and the fault of the second source is on
the third line of the joined text. -/
theorem shows_joined_fault :
    let i := Interpreter.start .unlimited fun _ => .ok 0
    let a := "var a = nil; // a"
    let b := "\x7b var b = nil;\n-b; \x7d"
    i.Accepts a ∧ i.Accepts b ∧ ∃ report, i.Shows (a ++ "\n" ++ b) report ∧
      report.errors = [.fault ⟨.operandNotNumber, 3⟩] ∧
      report.names = [("a", .nil, "nil"), ("clock", .function, "<native fn>")] := by
  intro i a b
  have isTokens : tokenize a = .ok [⟨.keyword .var_, "var", 1⟩, ⟨.identifier, "a", 1⟩,
      ⟨.symbol .equal, "=", 1⟩, ⟨.keyword .nil_, "nil", 1⟩, ⟨.symbol .semicolon, ";", 1⟩,
      ⟨.endOfInput, "", 1⟩] := by
    cbv
  have isTokens' (line : Nat) : tokenizeFrom line b = .ok [⟨.symbol .leftBrace, "\x7b", line⟩,
      ⟨.keyword .var_, "var", line⟩, ⟨.identifier, "b", line⟩, ⟨.symbol .equal, "=", line⟩,
      ⟨.keyword .nil_, "nil", line⟩, ⟨.symbol .semicolon, ";", line⟩,
      ⟨.symbol .minus, "-", line + 1⟩, ⟨.identifier, "b", line + 1⟩,
      ⟨.symbol .semicolon, ";", line + 1⟩, ⟨.symbol .rightBrace, "\x7d", line + 1⟩,
      ⟨.endOfInput, "", line + 1⟩] := by
    cbv
  let second (line : Nat) : List Stmt :=
    [.block [.varDecl ⟨.identifier, "b", line⟩ (some (.literal .nil line)),
      .expression (.unary ⟨.symbol .minus, "-", line + 1⟩
        (.reference ⟨0, ⟨.identifier, "b", line + 1⟩⟩))]]
  have isVerdict (line : Nat) : analyse (programEvents (second line)) = ⟨[], [(0, 0)]⟩ := by
    cbv
  have isFirst : i.load a = (.ok [.varDecl ⟨.identifier, "a", 1⟩ (some (.literal .nil 1))],
      (i.retabled 0 ∅).recordDistances []) :=
    Interpreter.load_eq isTokens rfl (by cbv)
  have isSecond : i.load b = (.ok (second 1), (i.retabled 1 ∅).recordDistances [(0, 0)]) :=
    Interpreter.load_eq (isTokens' 1) rfl (isVerdict 1)
  let k := ((i.retabled 0 ∅).recordDistances []).define globalFrame "a" .nil
  have ended : i.run 20 a = some ([], k) := by
    rw [Interpreter.run, isFirst]
    rfl
  obtain ⟨t, failed, isView⟩ : ∃ t, k.runFrom 30 (secondLine a) b =
      some ([.fault ⟨.operandNotNumber, 3⟩], t) ∧
        t.view = [("a", .nil, "nil"), ("clock", .function, "<native fn>")] := by
    have isLine : secondLine a = 2 := by cbv
    have isRead : k.readFrom 2 b = (.ok (second 2), (k.retabled 1 ∅).recordDistances [(0, 0)]) :=
      Interpreter.readFrom_eq (isTokens' 2) rfl (isVerdict 2)
    rw [isLine, Interpreter.runFrom, isRead]
    exact ⟨_, rfl, rfl⟩
  have joined := Session.shows_joined (.start _ _) (fun _ => rfl) ⟨_, _, isFirst⟩ ⟨_, _, isSecond⟩
  exact ⟨⟨_, _, isFirst⟩, ⟨_, _, isSecond⟩, _, (joined.2.1 _).2
    (.inr ⟨20, k, ended, 30, congrArg (Option.map StepReport.of) failed⟩), rfl, isView⟩

end Lox
