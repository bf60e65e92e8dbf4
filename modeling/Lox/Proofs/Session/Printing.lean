import Lox.Proofs.Evaluation.Confined
import Lox.Proofs.Evaluation.Output
import Lox.Proofs.Session.Host
import Lox.Proofs.Session.Sequence

/-!
# Expressions and programs that print them

To evaluate an expression and print its value is to run the program that consists of one statement,
which prints the expression. The semicolon of that program is on a line of its own, so that it is
not part of a comment at the end of the expression.

## Main definitions

* `printProgram`: the program that prints an expression.
* `Interpreter.printed`: a state after the result of an evaluation is printed.

## Main results

* `parseProgram_print`: an expression is read in a statement as it is read alone.
* `Evaluation.ends_interpret_print_iff`: how the execution of the statement ends.
* `HostSession.shows_printing`: the program shows what the evaluation shows, and then the value.
-/

namespace Lox

open Evaluation

/-! ### Reading -/

/-- The program that prints an expression. -/
def printProgram (source : String) : String :=
  "print " ++ source ++ "\n;"

/-- The tokens of the program are those of the expression between the keyword and a semicolon, which
is on the line behind the expression. -/
theorem tokenize_printProgram {source : String} {ts : List Token} {last : Nat}
    (isTokens : tokenize source = .ok (ts ++ [⟨.endOfInput, "", last⟩])) :
    tokenize (printProgram source) = .ok (⟨.keyword .print_, "print", 1⟩ :: ts ++
      [⟨.symbol .semicolon, ";", last + 1⟩, ⟨.endOfInput, "", last + 1⟩]) := by
  have isSource : printProgram source =
      Keyword.print_.spelling ++ " " ++ source ++ "\n" ++ ";" := by
    refine String.toList_inj.1 ?_
    simp [printProgram, Keyword.spelling]
  have isSemicolon : tokenizeFrom (last + 1) ";" =
      .ok [⟨.symbol .semicolon, ";", last + 1⟩, ⟨.endOfInput, "", last + 1⟩] := by
    cbv
  rw [isSource, ← tokenizeFrom_one]
  exact tokenizeFrom_joined (tokenizeFrom_keyword .print_ isTokens) isSemicolon

/-- An expression that is read up to the end of the input is read in the same way up to a semicolon,
but for the numbers of its occurrences. -/
theorem parseProgram_print {ts : List Token} {print semicolon eof eof' : Token} {e : Expr}
    {n : NodeId} (isPrint : print.isKeyword .print_) (isSemicolon : semicolon.isSymbol .semicolon)
    (inside : ∀ t ∈ ts, t.kind.isEnd = false) (isEnd : eof.kind.isEnd = true)
    (isEnd' : eof'.kind.isEnd = true) (isTree : (parseExpression (ts ++ [eof]) n).1 = .ok e)
    (m : NodeId) :
    ∃ e', (parseProgram (print :: ts ++ [semicolon, eof']) m).1 = .ok [.print e'] ∧
      List.Forall₂ (Stmt.Alike .renumbering) [.print e] [.print e'] := by
  have derives := derives_of_parseExpression isTree
  rw [readable_append inside isEnd] at derives
  have inside' : ∀ t ∈ print :: ts ++ [semicolon], t.kind.isEnd = false := by
    intro t mem
    rcases List.mem_append.1 mem with mem | mem
    · rcases List.mem_cons.1 mem with rfl | mem
      · rw [Token.isKeyword_iff.1 isPrint]
        rfl
      · exact inside t mem
    · rw [List.mem_singleton.1 mem, Token.isSymbol_iff.1 isSemicolon]
      rfl
  have whole : Grammar.Derives .declarations (print :: ts ++ [semicolon] ++ []) [.print e] :=
    .declarations (.statement (.print isPrint derives isSemicolon)) .noDeclarations
  rw [List.append_nil] at whole
  obtain ⟨p, isProgram, isSame⟩ := parseProgram_of_derives inside' isEnd' (.program whole isEnd') m
  rw [List.append_assoc] at isProgram
  have alike := Stmt.alikeAll_of_unnumbered isSame.symm
  cases alike with
  | cons first rest =>
    cases rest
    cases first with
    | print value => exact ⟨_, isProgram, .cons (.print value) .nil⟩

/-! ### Execution -/

namespace Interpreter

/-- A state after the value of an evaluation is printed, if there is one. -/
def printed {ε : Type} (i : Interpreter) : Except ε Value → Interpreter
  | .ok v => i.appended (v.text ++ "\n")
  | .error _ => i

end Interpreter

namespace Evaluation

variable {i j : Interpreter} {e : Expr} {v : Value} {line : Nat}

/-- A value is printed to a sink that takes it. -/
theorem ends_print_iff (takesAll : i.sink.device.TakesAll) {outcome : Except Fault Unit} :
    Ends (print v line) i outcome j ↔ outcome = .ok () ∧ j = i.appended (v.text ++ "\n") := by
  have isMeaning (n : Nat) : Job.meaning step n (print v line) i =
      some (.ok (), i.appended (v.text ++ "\n")) := by
    simp [print, checkOutput, Interpreter.write_of_takesAll takesAll]
  simp only [ends_iff, isMeaning, Option.some.injEq, Prod.mk.injEq, exists_const]
  exact ⟨fun ⟨h, h'⟩ => ⟨h.symm, h'.symm⟩, fun ⟨h, h'⟩ => ⟨h.symm, h'.symm⟩⟩

/-- The evaluation of an expression does not change the device of the sink. -/
theorem device_of_evaluate {outcome : Except Fault Value} (ended : Ends (evaluate e) i outcome j) :
    j.sink.device = i.sink.device :=
  (since_evaluate ended).sink.device

/-- The treatment of a statement that prints ends as the evaluation of its expression does, and then
the value is printed. -/
theorem ends_printStep_iff (takesAll : i.sink.device.TakesAll)
    {outcome : Except Fault (Step .flow)} : Ends (executeStep (.print e)) i outcome j ↔
      ∃ result k, Ends (evaluate e) i result k ∧
        outcome = result.map (fun _ => .finished .normal) ∧ j = k.printed result := by
  change Ends (evaluate e >>= fun v => print v e.line >>= fun _ => finish (p := .flow) .normal) i
    outcome j ↔ _
  rw [ends_bind_iff]
  constructor
  · rintro (⟨fault, rfl, failed⟩ | ⟨v, k, evaluated, rest⟩)
    · exact ⟨.error fault, j, failed, rfl, rfl⟩
    · have takesAll' : k.sink.device.TakesAll := (device_of_evaluate evaluated) ▸ takesAll
      rcases ends_bind_iff.1 rest with ⟨fault, -, failed⟩ | ⟨_, l, isPrinted, finished⟩
      · cases ((ends_print_iff takesAll').1 failed).1
      · obtain ⟨-, rfl⟩ := (ends_print_iff takesAll').1 isPrinted
        obtain ⟨rfl, rfl⟩ := ends_pure_iff.1 finished
        exact ⟨.ok v, k, evaluated, rfl, rfl⟩
  · rintro ⟨fault | v, k, evaluated, rfl, rfl⟩
    · exact .inl ⟨fault, rfl, evaluated⟩
    · have takesAll' : k.sink.device.TakesAll := (device_of_evaluate evaluated) ▸ takesAll
      have isPrinted : Ends (print v e.line) k (.ok ()) (k.appended (v.text ++ "\n")) :=
        (ends_print_iff takesAll').2 ⟨rfl, rfl⟩
      exact .inr ⟨v, k, evaluated, ends_bind_iff.2 (.inr ⟨(), _, isPrinted,
        ends_pure_iff.2 ⟨rfl, rfl⟩⟩)⟩

theorem ends_execute_print_iff (takesAll : i.sink.device.TakesAll) {outcome : Except Fault Flow} :
    Ends (execute (.print e)) i outcome j ↔
      ∃ result k, Ends (evaluate e) i result k ∧ outcome = result.map (fun _ => .normal) ∧
        j = k.printed result := by
  have isStep {ended : Except Fault (Step .flow)} {l : Interpreter} :=
    @ends_printStep_iff i l e takesAll ended
  refine (ends_ask_iff (r := .execute (.print e))).trans ?_
  simp only [step, isStep]
  constructor
  · rintro (⟨fault, rfl, result, k, evaluated, isFault, rfl⟩ |
      ⟨flow, rfl, result, k, evaluated, isFlow, rfl⟩ | ⟨r, k, ⟨result, l, -, isRequest, -⟩, -⟩)
    · cases result <;> cases isFault
      exact ⟨_, k, evaluated, rfl, rfl⟩
    · cases result <;> cases isFlow
      exact ⟨_, k, evaluated, rfl, rfl⟩
    · cases result <;> cases isRequest
  · rintro ⟨fault | v, k, evaluated, rfl, rfl⟩
    · exact .inl ⟨fault, rfl, _, j, evaluated, rfl, rfl⟩
    · exact .inr (.inl ⟨.normal, rfl, _, k, evaluated, rfl, rfl⟩)

/-- The program that prints an expression ends as the evaluation of the expression does, and then
the value is printed. -/
theorem ends_interpret_print_iff (takesAll : i.sink.device.TakesAll)
    (flushes : i.sink.device.Flushes) {outcome : Except Fault Unit} :
    Ends (interpret [.print e]) i outcome j ↔
      ∃ result k, Ends (evaluate e) i result k ∧ outcome = result.map (fun _ => ()) ∧
        j = k.printed result := by
  have isExecution {flow : Except Fault Flow} {l : Interpreter} :=
    @ends_execute_print_iff i l e takesAll flow
  have flushes' : Flushes [.print e] i := by
    intro k ended
    rw [executeAll_singleton, isExecution] at ended
    obtain ⟨fault | v, l, evaluated, isFlow, rfl⟩ := ended
    · cases isFlow
    · exact (device_of_evaluate evaluated) ▸ flushes
  simp only [ends_interpret_iff flushes', Fails, executeAll_singleton, isExecution]
  constructor
  · rintro (⟨fault, rfl, ⟨result, k, evaluated, isFault, rfl⟩ |
      ⟨value, ⟨result, k, -, isFlow, -⟩, -⟩⟩ | ⟨rfl, result, k, evaluated, isFlow, rfl⟩)
    · cases result <;> cases isFault
      exact ⟨_, k, evaluated, rfl, rfl⟩
    · cases result <;> cases isFlow
    · cases result <;> cases isFlow
      exact ⟨_, k, evaluated, rfl, rfl⟩
  · rintro ⟨fault | v, k, evaluated, rfl, rfl⟩
    · exact .inl ⟨fault, rfl, .inl ⟨_, j, evaluated, rfl, rfl⟩⟩
    · exact .inr ⟨rfl, _, k, evaluated, rfl, rfl⟩

end Evaluation

/-! ### Both ways -/

namespace Interpreter

open Scope

variable {c : Relabelling} {values : List Value} {i j i' j' : Interpreter} {source : String}
  {tokens : List Token} {e e' : Expr}

/-- The same errors of binding names to scopes. -/
theorem map_scoping_eq {es es' : List ScopeError}
    (h : List.Forall₂ (ErrorAlike (.ofLines Eq)) es es') :
    es'.map Diagnostic.scoping = es.map .scoping := by
  induction h with
  | nil => rfl
  | cons first _ ih => exact congrArg₂ List.cons (Diagnostic.Alike.scoping first).eq_of_lines ih

/-- The readings of an expression and of the program that prints it end alike: with the same errors,
or with the expression and the statement that prints it. -/
theorem Host.exists_readings (host : Host c values i) (isTokens : tokenize source = .ok tokens)
    (isTree : (parseExpression tokens i.nextId).1 = .ok e) :
    ∃ d e' k k', d.lines = Eq ∧ Matching d k k' ∧ e.Alike d e' ∧ k.sink = i.sink ∧
      ((∃ errors, i.loadExpr source = (.error errors, k) ∧
          i.readFrom 1 (printProgram source) = (.error errors, k')) ∨
        i.loadExpr source = (.ok e, k) ∧
          i.readFrom 1 (printProgram source) = (.ok [.print e'], k')) := by
  obtain ⟨ts, rfl, inside⟩ := exists_tokenizeFrom isTokens
  have isTokens' := tokenize_printProgram isTokens
  let last := 1 + source.toList.count '\n' + 1
  obtain ⟨e', isProgram, alike⟩ := @parseProgram_print ts ⟨.keyword .print_, "print", 1⟩
    ⟨.symbol .semicolon, ";", last⟩ _ ⟨.endOfInput, "", last⟩ e i.nextId rfl rfl inside rfl rfl
    isTree i.nextId
  have programs : List.Forall₂ (Stmt.Alike (.ofLines c.lines)) [.print e] [.print e'] :=
    host.isLines ▸ alike
  obtain ⟨-, apart⟩ := numbered_of_parseExpression isTree
  rw [← siteIds_print] at apart
  have matching := host.self.adopt programs (nextId_le_parseExpression _ _)
    (nextId_le_parseProgram _ _) apart (derives_of_parseProgram isProgram).2
  have value : e.Alike (c.extend [.print e] [.print e']) e' := by
    cases Relabelling.extend_alike programs with
    | cons first _ =>
      cases first with
      | print value => exact value
  have errors := (analyse_alike (programEvents_alike alike)).1
  refine ⟨c.extend [.print e] [.print e'], e', _, _, host.isLines, matching, value, rfl, ?_⟩
  rw [loadExpr_of_ok isTokens isTree, readFrom, tokenizeFrom_one, isTokens']
  dsimp only
  rw [readTokens_of_ok isProgram, ← programEvents_print]
  generalize (analyse (programEvents [.print e])).errors = es at errors
  generalize (analyse (programEvents [.print e'])).errors = es' at errors
  cases errors with
  | nil => exact .inr ⟨rfl, rfl⟩
  | cons first rest => exact .inl ⟨_, rfl, congrArg (·, _) (congrArg Except.error
      (map_scoping_eq (.cons first rest)))⟩

/-- How the evaluation of an expression ends that is read without an error. -/
theorem evaluate_iff (isLoaded : i.loadExpr source = (.ok e, i'))
    {result : Except (List Diagnostic) Value} :
    (∃ moves, i.evaluate moves source = some (result, j)) ↔
      ∃ outcome, Ends (Evaluation.evaluate e) i' outcome j ∧
        result = outcome.mapError fun fault => [.fault fault] := by
  unfold Interpreter.evaluate
  rw [isLoaded]
  constructor
  · rintro ⟨moves, isRun⟩
    obtain ⟨⟨outcome, t⟩, isOutcome, isSame⟩ := Option.map_eq_some_iff.1 isRun
    cases isSame
    exact ⟨outcome, ⟨moves, isOutcome⟩, rfl⟩
  · rintro ⟨outcome, ⟨moves, isOutcome⟩, rfl⟩
    exact ⟨moves, Option.map_eq_some_iff.2 ⟨_, isOutcome, rfl⟩⟩

/-- The errors of an evaluation. -/
def errorsOf : Except (List Diagnostic) Value → List Diagnostic
  | .ok _ => []
  | .error errors => errors

theorem errorsOf_mapError (outcome : Except Fault Value) :
    errorsOf (outcome.mapError fun fault => [.fault fault]) =
      faults (outcome.map fun _ => ()) := by
  cases outcome <;> rfl

theorem printed_mapError (outcome : Except Fault Value) :
    j.printed (outcome.mapError fun fault => [Diagnostic.fault fault]) = j.printed outcome := by
  cases outcome <;> rfl

/-- Matched states match when alike values are printed. -/
theorem Matching.printed {outcome outcome' : Except Fault Value} (matching : Matching c j j')
    (checked : Checked c (Value.Alike c) outcome outcome') :
    Matching c (j.printed outcome) (j'.printed outcome') := by
  cases checked with
  | error _ => exact matching
  | ok value =>
    rw [Interpreter.printed, Interpreter.printed, value.text, appended, appended,
      matching.alike.sink]
    exact matching.redirect _

theorem faults_eq {outcome outcome' : Except Fault Value} (isLines : c.lines = Eq)
    (checked : Checked c (Value.Alike c) outcome outcome') :
    faults (outcome'.map fun _ => ()) = faults (outcome.map fun _ => ()) := by
  cases checked with
  | error fault =>
    cases fault.eq_of_lines isLines
    rfl
  | ok _ => rfl

/-- How the evaluation of an expression and the run of the program that prints it end: with the same
errors, and in the same state, up to the numbers of occurrences, once the value is printed. -/
def PrintsAs (ended : Except (List Diagnostic) Value × Interpreter)
    (ended' : List Diagnostic × Interpreter) : Prop :=
  ended'.1 = errorsOf ended.1 ∧ (ended.2.printed ended.1).Matched Eq ended'.2

theorem PrintsAs.report {ended : Except (List Diagnostic) Value × Interpreter}
    {ended' : List Diagnostic × Interpreter} (h : PrintsAs ended ended') :
    StepReport.of ended' = .of (errorsOf ended.1, ended.2.printed ended.1) := by
  rw [StepReport.of, StepReport.of, h.1, h.2.sink, h.2.view]

variable (host : Host c values i) (takesAll : i.sink.device.TakesAll)
  (flushes : i.sink.device.Flushes) (isTokens : tokenize source = .ok tokens)
  (isTree : (parseExpression tokens i.nextId).1 = .ok e)

include host takesAll flushes isTokens isTree

/-- If the evaluation of an expression ends, so does the program that prints it. -/
theorem Host.exists_run {ended : Except (List Diagnostic) Value × Interpreter}
    (evaluated : ∃ moves, i.evaluate moves source = some ended) :
    ∃ moves ended', i.run moves (printProgram source) = some ended' ∧ PrintsAs ended ended' := by
  obtain ⟨d, e', k, k', isLines, matching, alike, isSink, readings⟩ :=
    host.exists_readings isTokens isTree
  simp only [run_eq_runFrom]
  rcases readings with ⟨errors, isLoaded, isRead⟩ | ⟨isLoaded, isRead⟩
  · obtain ⟨moves, evaluated⟩ := evaluated
    rw [Interpreter.evaluate, isLoaded] at evaluated
    cases evaluated
    exact ⟨0, (errors, k'), by rw [runFrom, isRead], rfl, d, isLines, matching⟩
  · obtain ⟨result, j⟩ := ended
    obtain ⟨outcome, isEnd, rfl⟩ := (evaluate_iff isLoaded).1 evaluated
    obtain ⟨outcome', j', isEnd', later, checked⟩ :=
      matching.exists_ends (similar_evaluate alike) isEnd
    have isSink' : k'.sink = i.sink := matching.alike.sink.trans isSink
    obtain ⟨moves, isRun⟩ := (runFrom_iff isRead).2 ⟨_, (ends_interpret_print_iff
      (isSink' ▸ takesAll) (isSink' ▸ flushes)).2 ⟨outcome', j', isEnd', rfl, rfl⟩, rfl⟩
    refine ⟨moves, _, isRun, ?_, d, isLines, ?_⟩
    · exact (faults_eq isLines checked).trans (errorsOf_mapError outcome).symm
    · dsimp only
      rw [printed_mapError]
      exact later.printed checked

/-- If the program that prints an expression ends, so does the evaluation of the expression. -/
theorem Host.exists_evaluate {ended' : List Diagnostic × Interpreter}
    (isRun : ∃ moves, i.run moves (printProgram source) = some ended') :
    ∃ moves ended, i.evaluate moves source = some ended ∧ PrintsAs ended ended' := by
  obtain ⟨d, e', k, k', isLines, matching, alike, isSink, readings⟩ :=
    host.exists_readings isTokens isTree
  simp only [run_eq_runFrom] at isRun
  rcases readings with ⟨errors, isLoaded, isRead⟩ | ⟨isLoaded, isRead⟩
  · obtain ⟨moves, isRun⟩ := isRun
    rw [runFrom, isRead] at isRun
    cases isRun
    exact ⟨0, (.error errors, k), by rw [Interpreter.evaluate, isLoaded], rfl, d, isLines, matching⟩
  · obtain ⟨errors, j'⟩ := ended'
    have isSink' : k'.sink = i.sink := matching.alike.sink.trans isSink
    obtain ⟨_, isEnd, rfl⟩ := (runFrom_iff isRead).1 isRun
    obtain ⟨outcome', l', evaluated', rfl, rfl⟩ :=
      (ends_interpret_print_iff (isSink' ▸ takesAll) (isSink' ▸ flushes)).1 isEnd
    obtain ⟨outcome, l, evaluated, later, checked⟩ :=
      matching.exists_ends_left (similar_evaluate alike) evaluated'
    obtain ⟨moves, isEvaluated⟩ := (evaluate_iff isLoaded).2 ⟨_, evaluated, rfl⟩
    refine ⟨moves, _, isEvaluated, ?_, d, isLines, ?_⟩
    · exact (faults_eq isLines checked).trans (errorsOf_mapError outcome).symm
    · dsimp only
      rw [printed_mapError]
      exact later.printed checked

end Interpreter

open Interpreter in
/-- **Evaluating and printing.** In a session whose sink does not fail, the program that prints an
expression shows what the evaluation of the expression shows: the same errors of binding names to
scopes; or the same fault after the same output; or, if there is a value, the same output and then
the text of the value on a line of its own, and the same global names. The states that both leave
are the same up to the numbers of occurrences. -/
theorem HostSession.shows_printing {allowed : String → Prop} {values : List Value}
    {i : Interpreter} {source : String} {tokens : List Token} {e : Expr}
    (session : HostSession allowed values i) (takesAll : i.sink.device.TakesAll)
    (flushes : i.sink.device.Flushes) (isTokens : tokenize source = .ok tokens)
    (isTree : (parseExpression tokens i.nextId).1 = .ok e) :
    (∀ report, i.Shows (printProgram source) report ↔
      ∃ moves result j, i.evaluate moves source = some (result, j) ∧
        report = .of (errorsOf result, j.printed result)) ∧
    ∀ moves result j, i.evaluate moves source = some (result, j) →
      ∃ moves' j', i.run moves' (printProgram source) = some (errorsOf result, j') ∧
        (j.printed result).Matched Eq j' := by
  obtain ⟨c, host⟩ := session.exists_host
  refine ⟨fun report => ⟨?_, ?_⟩, fun moves result j evaluated => ?_⟩
  · rintro ⟨moves, shown⟩
    obtain ⟨ended', isRun, rfl⟩ := Option.map_eq_some_iff.1 shown
    obtain ⟨moves', ⟨result, j⟩, evaluated, printsAs⟩ :=
      host.exists_evaluate takesAll flushes isTokens isTree ⟨moves, isRun⟩
    exact ⟨moves', result, j, evaluated, printsAs.report⟩
  · rintro ⟨moves, result, j, evaluated, rfl⟩
    obtain ⟨moves', ended', isRun, printsAs⟩ :=
      host.exists_run takesAll flushes isTokens isTree ⟨moves, evaluated⟩
    exact ⟨moves', Option.map_eq_some_iff.2 ⟨ended', isRun, printsAs.report⟩⟩
  · obtain ⟨moves', ⟨errors, j'⟩, isRun, isErrors, matched⟩ :=
      host.exists_run takesAll flushes isTokens isTree ⟨moves, evaluated⟩
    cases isErrors
    exact ⟨moves', j', isRun, matched⟩

/-- The comment at the end of an expression does not reach the semicolon, and the value is
printed. -/
theorem shows_printing_comment :
    let i := Interpreter.start .unlimited fun _ => .ok 0
    let source := "nil // nothing"
    let tokens : List Token := [⟨.keyword .nil_, "nil", 1⟩, ⟨.endOfInput, "", 1⟩]
    HostSession (fun _ => True) [] i ∧ i.sink.device.TakesAll ∧ i.sink.device.Flushes ∧
      tokenize source = .ok tokens ∧
      (parseExpression tokens i.nextId).1 = .ok (.literal .nil 1) ∧
      ∃ report, i.Shows (printProgram source) report ∧ report.errors = [] ∧
        report.sink.written = ByteArray.empty ++ ("nil" ++ "\n").toUTF8 := by
  intro i source tokens
  have isTokens : tokenize source = .ok tokens := by cbv
  have isTree : (parseExpression tokens i.nextId).1 = .ok (.literal .nil 1) := rfl
  have isAccepted : (Scope.analyse (Scope.expressionEvents (.literal .nil 1))).errors = [] := by cbv
  have session : HostSession (fun _ => True) [] i := .start _ _
  have evaluated : i.evaluate 10 source =
      some (.ok .nil, i.adopted (parseExpression tokens i.nextId).2
        [.print (.literal .nil 1)]) := by
    rw [Interpreter.evaluate, Interpreter.loadExpr_of_ok isTokens isTree, isAccepted]
    rfl
  have takesAll : i.sink.device.TakesAll := fun _ _ => ⟨_, rfl⟩
  have flushes : i.sink.device.Flushes := fun _ => rfl
  exact ⟨session, takesAll, flushes, isTokens, isTree, _,
    ((session.shows_printing takesAll flushes isTokens isTree).1 _).2
      ⟨10, .ok .nil, _, evaluated, rfl⟩, rfl, rfl⟩

end Lox
