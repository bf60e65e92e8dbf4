import Lox.Proofs.Routine.Contract
import Lox.Routine.Meaning
import Lox.Tree.Parser.Basic

/-!
# Moves of the cursor

While it reads, the parser changes its cursor in four ways only: it passes the next token, it goes
to where the next statement may begin, it numbers an occurrence, and it notes an error. From every
cursor at which something is asked for, such moves lead to the cursor at which the answer is left,
and to each cursor at which something else is asked for on the way. What every move keeps is
therefore kept by every run.

## Main definitions

* `Cursor.Move`: one change of the cursor.
* `Parser.steering`: the contract by which goals and answers are reached by moves.

## Main results

* `Parser.steered`: the treatments of all requests keep to the contract.
* `Parser.moves_of_arises`, `Parser.moves_of_answers`, `Parser.moves_of_run`: every cursor of a run
  is reached by moves.
-/

namespace Lox

/-- One change of the cursor. -/
inductive Cursor.Move (c : Cursor) : Cursor → Prop
  | advance : Move c c.advance
  | synchronize : Move c c.synchronize
  | number : Move c { c with nextId := c.nextId + 1 }
  | note (e : SyntaxError) : Move c { c with errors := e :: c.errors }

/-- Some changes of the cursor, one after the other. -/
abbrev Cursor.Moves : Cursor → Cursor → Prop :=
  Relation.ReflTransGen Cursor.Move

namespace Parser

/-- A question that comes up in the reading. -/
abbrev Task : Type :=
  Routine.Task (Job.Goal Cursor Request)

/-- Answers are left, and further questions asked, where moves lead to. -/
def steering (start : Cursor) : Contract (Job.Goal Cursor Request)
    (Job.Answer Cursor SyntaxError Phrase.Tree) where
  Pre goal := start.Moves goal.2
  Post goal answer := goal.2.Moves answer.2
  Next task task' := task.2.2.Moves task'.2.2

/-- A computation that began at a cursor moves on from there. -/
abbrev Steers {α : Type} (start c : Cursor) (job : Parse α) : Prop :=
  Job.Keeps (steering start) (fun task => c.Moves task.2.2) c.Moves (fun _ => True) job

section

variable {α β : Type} {p : Phrase} {start c : Cursor}

theorem Steers.pure {a : α} : Steers start c (pure a) :=
  Job.Keeps.pure trivial

theorem Steers.throw {e : SyntaxError} : Steers start c (throw e : Parse α) :=
  Job.Keeps.throw

theorem Steers.get : Steers start c (get : Parse Cursor) :=
  fun _ reached => .done (.ok reached trivial)

/-- A move of the cursor moves it on. -/
theorem Steers.modify {f : Cursor → Cursor} (h : ∀ t : Cursor, t.Move (f t)) :
    Steers start c (modify f : Parse PUnit) :=
  Job.Keeps.modify fun t reached => reached.tail (h t)

theorem Steers.bind {job : Parse α} {next : α → Parse β} (h : Steers start c job)
    (h' : ∀ a, Steers start c (next a)) : Steers start c (job >>= next) :=
  Job.Keeps.seq h h'

theorem Steers.map {f : α → β} {job : Parse α} (h : Steers start c job) :
    Steers start c (f <$> job) :=
  Job.Keeps.map h fun _ _ => trivial

theorem Steers.either {b : Prop} [Decidable b] {job job' : Parse α} (h : Steers start c job)
    (h' : Steers start c job') : Steers start c (if b then job else job') := by
  split
  · exact h
  · exact h'

theorem Steers.tryCatch {job : Parse α} {handler : SyntaxError → Parse α}
    (h : Steers start c job) (h' : ∀ e, Steers start c (handler e)) :
    Steers start c (tryCatch job handler) := by
  intro s reached
  refine Routine.Keeps.bind (h s reached) ?_
  rintro ⟨e | a, t⟩ ⟨reached', -⟩
  · exact h' e t reached'
  · exact .done (.ok reached' trivial)

theorem steers_ask (reached : start.Moves c) (request : Request p) :
    Steers start c (Parse.ask request) :=
  Job.Keeps.ask (fun _ further => ⟨reached.trans further, further⟩)
    fun _ _ _ left => ⟨.trans ‹_› left, fun _ _ => trivial⟩

/-! ### Single tokens -/

theorem steers_peek : Steers start c Parse.peek :=
  .bind .get fun _ => .pure

theorem steers_atEnd : Steers start c Parse.atEnd :=
  .bind .get fun _ => .pure

theorem steers_sees (s : Symbol) : Steers start c (Parse.sees s) :=
  .bind .get fun _ => .pure

theorem steers_advance : Steers start c Parse.advance :=
  .modify fun _ => .advance

theorem steers_accept (s : Symbol) : Steers start c (Parse.accept s) :=
  .bind (steers_sees s) fun _ => .either (.bind steers_advance fun _ => .pure) .pure

theorem steers_missing (expected : Expectation) :
    Steers start c (Parse.missing expected : Parse α) :=
  .bind steers_peek fun _ => .throw

theorem steers_expectSymbol (s : Symbol) (place : Place) :
    Steers start c (Parse.expectSymbol s place) :=
  .bind steers_peek fun _ =>
    .either (.bind steers_advance fun _ => .pure) (steers_missing _)

theorem steers_expectName (role : NameRole) : Steers start c (Parse.expectName role) := by
  refine .bind steers_peek fun t => ?_
  split
  · exact .bind steers_advance fun _ => .pure
  · exact steers_missing _

theorem steers_record (token : Token) (cause : SyntaxError.Cause) :
    Steers start c (Parse.record token cause) :=
  .modify fun _ => .note _

theorem steers_occurrence (name : Token) : Steers start c (Parse.occurrence name) :=
  Job.Keeps.modifyGet fun _ reached => ⟨trivial, reached.tail .number⟩

end

/-! ### Phrases -/

section

variable {start c : Cursor} (reached : start.Moves c)
include reached

theorem steers_primary : Steers start c primary := by
  refine .bind steers_peek fun t => ?_
  split
  case h_6 => exact .bind steers_advance fun _ => .bind (steers_occurrence t) fun _ => .pure
  case h_7 => exact .bind steers_advance fun _ => .bind (steers_occurrence t) fun _ => .pure
  case h_8 =>
    exact .bind steers_advance fun _ => .bind (steers_expectSymbol _ _) fun _ =>
      .bind (steers_expectName _) fun _ => .bind (steers_occurrence t) fun _ => .pure
  case h_9 =>
    exact .bind steers_advance fun _ => .bind (steers_ask reached _) fun _ =>
      .bind (steers_expectSymbol _ _) fun _ => .pure
  case h_10 => exact steers_missing _
  all_goals exact .bind steers_advance fun _ => .pure

omit reached in
theorem steers_assignment (target : Expr) (equals : Token) (value : Expr) :
    Steers start c (assignment target equals value) := by
  unfold assignment
  split
  · exact .bind (steers_occurrence _) fun _ => .pure
  · exact .pure
  · exact .bind (steers_record _ _) fun _ => .pure

theorem steers_expression : Steers start c expression :=
  .bind (steers_ask reached _) fun _ => .bind steers_peek fun _ =>
    .either
      (.bind steers_advance fun _ => .bind (steers_ask reached _) fun _ =>
        .bind (steers_assignment _ _ _) fun _ => .pure)
      .pure

theorem steers_operators (l : Level) (left : Expr) : Steers start c (operators l left) :=
  .bind steers_peek fun _ =>
    .either (.bind steers_advance fun _ => .bind (steers_ask reached _) fun _ => .pure) .pure

theorem steers_unary : Steers start c unary :=
  .bind steers_peek fun _ =>
    .either (.bind steers_advance fun _ => .bind (steers_ask reached _) fun _ => .pure) .pure

omit reached in
theorem steers_checkArity (sort : ListSort) (before : Nat) :
    Steers start c (checkArity sort before) :=
  .either (.bind steers_peek fun _ => steers_record _ _) .pure

theorem steers_arguments (before : Nat) : Steers start c (arguments before) :=
  .bind (steers_checkArity _ _) fun _ => .bind (steers_ask reached _) fun _ =>
    .bind (steers_accept _) fun _ =>
      .either (.bind (steers_ask reached _) fun _ => .pure) .pure

theorem steers_suffixes (callee : Expr) : Steers start c (suffixes callee) :=
  .bind (steers_accept _) fun _ => .either
    (.bind (steers_sees _) fun _ =>
      .either (.bind .pure fun _ => .bind (steers_expectSymbol _ _) fun _ => .pure)
        (.bind (steers_ask reached _) fun _ => .bind (steers_expectSymbol _ _) fun _ => .pure))
    (.bind (steers_accept _) fun _ =>
      .either (.bind (steers_expectName _) fun _ => .pure) .pure)

theorem steers_parameters (before : Nat) : Steers start c (parameters before) :=
  .bind (steers_checkArity _ _) fun _ => .bind (steers_expectName _) fun _ =>
    .bind (steers_accept _) fun _ =>
      .either (.bind (steers_ask reached _) fun _ => .pure) .pure

theorem steers_function (sort : FunctionSort) : Steers start c (function sort) := by
  refine .bind (steers_expectName _) fun _ => .bind (steers_expectSymbol _ _) fun _ =>
    .bind (steers_sees _) fun _ => ?_
  have body (params : List Token) (name : Token) : Steers start c (do
      let _ ← Parse.expectSymbol .rightParen (.afterList .parameters)
      let _ ← Parse.expectSymbol .leftBrace (.beforeFunctionBody sort)
      let body ← Parse.ask .block
      finish (p := .function) ⟨name, params, body⟩) :=
    .bind (steers_expectSymbol _ _) fun _ => .bind (steers_expectSymbol _ _) fun _ =>
      .bind (steers_ask reached _) fun _ => .pure
  exact .either (.bind .pure fun _ => body _ _) (.bind (steers_ask reached _) fun _ => body _ _)

omit reached in
theorem steers_atClosing : Steers start c atClosing :=
  .bind (steers_sees _) fun _ => .either .pure steers_atEnd

theorem steers_methods : Steers start c methods :=
  .bind steers_atClosing fun _ => .either .pure
    (.bind (steers_ask reached _) fun _ => .bind (steers_ask reached _) fun _ => .pure)

theorem steers_classDeclaration : Steers start c classDeclaration := by
  have body (name : Token) (superclass : Option Occurrence) : Steers start c (do
      let _ ← Parse.expectSymbol .leftBrace .beforeClassBody
      let ds ← Parse.ask .methods
      let _ ← Parse.expectSymbol .rightBrace .afterClassBody
      return Stmt.classDecl name superclass ds) :=
    .bind (steers_expectSymbol _ _) fun _ => .bind (steers_ask reached _) fun _ =>
      .bind (steers_expectSymbol _ _) fun _ => .pure
  exact .bind (steers_expectName _) fun _ => .bind (steers_accept _) fun _ =>
    .either
      (.bind (steers_expectName _) fun _ => .bind (.map (steers_occurrence _)) fun _ => body _ _)
      (.bind .pure fun _ => body _ _)

theorem steers_varDeclaration : Steers start c varDeclaration := by
  have body (name : Token) (initializer : Option Expr) : Steers start c (do
      let _ ← Parse.expectSymbol .semicolon .afterVariable
      return Stmt.varDecl name initializer) :=
    .bind (steers_expectSymbol _ _) fun _ => .pure
  exact .bind (steers_expectName _) fun _ => .bind (steers_accept _) fun _ =>
    .either (.bind (.map (steers_ask reached _)) fun _ => body _ _) (.bind .pure fun _ => body _ _)

theorem steers_declaration : Steers start c declaration := by
  refine .bind steers_peek fun t => ?_
  split
  · exact .bind steers_advance fun _ => .bind (steers_classDeclaration reached) fun _ => .pure
  · exact .bind steers_advance fun _ => .bind (steers_ask reached _) fun _ => .pure
  · exact .bind steers_advance fun _ => .bind (steers_varDeclaration reached) fun _ => .pure
  · exact .pure

theorem steers_condition (k : Keyword) : Steers start c (condition k) :=
  .bind (steers_expectSymbol _ _) fun _ => .bind (steers_ask reached _) fun _ =>
    .bind (steers_expectSymbol _ _) fun _ => .pure

theorem steers_optionalExpression (terminator : Symbol) :
    Steers start c (optionalExpression terminator) :=
  .bind (steers_sees _) fun _ => .either .pure (.map (steers_ask reached _))

theorem steers_expressionStatement : Steers start c expressionStatement :=
  .bind (steers_ask reached _) fun _ => .bind (steers_expectSymbol _ _) fun _ => .pure

theorem steers_forStatement (keyword : Token) : Steers start c (forStatement keyword) := by
  refine .bind (steers_expectSymbol _ _) fun _ => .bind steers_peek fun t => ?_
  have rest (initializer : Option Stmt) : Steers start c (do
      let condition ← optionalExpression .semicolon
      let _ ← Parse.expectSymbol .semicolon .afterLoopCondition
      let increment ← optionalExpression .rightParen
      let _ ← Parse.expectSymbol .rightParen .afterForClauses
      let body ← Parse.ask .statement
      let condition := condition.getD (.literal (.boolean true) keyword.line)
      return lowerFor initializer condition increment body) :=
    .bind (steers_optionalExpression reached _) fun _ => .bind (steers_expectSymbol _ _) fun _ =>
      .bind (steers_optionalExpression reached _) fun _ => .bind (steers_expectSymbol _ _) fun _ =>
        .bind (steers_ask reached _) fun _ => .pure
  split
  · exact .bind steers_advance fun _ => .bind .pure fun _ => rest _
  · exact .bind steers_advance fun _ => .bind (.map (steers_varDeclaration reached)) fun _ => rest _
  · exact .bind (.map (steers_expressionStatement reached)) fun _ => rest _

theorem steers_ifStatement : Steers start c ifStatement :=
  .bind (steers_condition reached _) fun _ => .bind (steers_ask reached _) fun _ =>
    .bind steers_peek fun _ =>
      .either (.bind steers_advance fun _ => .bind (steers_ask reached _) fun _ => .pure) .pure

theorem steers_statement : Steers start c statement := by
  refine .bind steers_peek fun t => ?_
  split
  · exact .bind steers_advance fun _ => .bind (steers_forStatement reached _) fun _ => .pure
  · exact .bind steers_advance fun _ => .bind (steers_ifStatement reached) fun _ => .pure
  · exact .bind steers_advance fun _ => .bind (steers_ask reached _) fun _ =>
      .bind (steers_expectSymbol _ _) fun _ => .pure
  · exact .bind steers_advance fun _ => .bind (steers_optionalExpression reached _) fun _ =>
      .bind (steers_expectSymbol _ _) fun _ => .pure
  · exact .bind steers_advance fun _ => .bind (steers_condition reached _) fun _ =>
      .bind (steers_ask reached _) fun _ => .pure
  · exact .bind steers_advance fun _ => .bind (steers_ask reached _) fun _ => .pure
  · exact .bind (steers_expressionStatement reached) fun _ => .pure

theorem steers_block : Steers start c block :=
  .bind steers_atClosing fun _ => .either (.bind (steers_expectSymbol _ _) fun _ => .pure)
    (.bind (steers_ask reached _) fun _ => .bind (steers_ask reached _) fun _ => .pure)

theorem steers_program : Steers start c program :=
  .bind steers_atEnd fun _ => .either .pure
    (.bind
      (.tryCatch (.map (steers_ask reached _)) fun _ => .bind (steers_record _ _) fun _ =>
        .bind (.modify fun _ => .synchronize) fun _ => .pure)
      fun _ => .bind (steers_ask reached _) fun _ => .pure)

theorem steers_step {p : Phrase} (request : Request p) : Steers start c (step p request) := by
  cases request with
  | program => exact steers_program reached
  | declaration => exact steers_declaration reached
  | statement => exact steers_statement reached
  | block => exact steers_block reached
  | methods => exact steers_methods reached
  | function sort => exact steers_function reached sort
  | parameters before => exact steers_parameters reached before
  | arguments before => exact steers_arguments reached before
  | expression => exact steers_expression reached
  | level l => exact .bind (steers_ask reached _) fun _ => .pure
  | operators l left => exact steers_operators reached l left
  | unary => exact steers_unary reached
  | operand => exact .bind (steers_primary reached) fun _ => .pure
  | suffixes callee => exact steers_suffixes reached callee

theorem steers_wholeExpression : Steers start c wholeExpression := by
  refine .bind (steers_ask reached _) fun _ => .bind .get fun _ => ?_
  split
  · exact .throw
  · exact .bind steers_atEnd fun _ => .either .pure (steers_missing _)

end

/-! ### Runs -/

variable {start : Cursor}

/-- The treatments of all requests keep to the contract. -/
theorem steered (start : Cursor) : (steering start).Honoured (Job.body step) := by
  refine Job.honoured_of_keeps fun p request c reached => ?_
  refine (steers_step reached request c .refl).mono ?_
  rintro ⟨e | tree | request', t⟩ ⟨further, -⟩
  · exact further
  · exact further
  · exact ⟨reached.trans further, further, fun _ left => further.trans left⟩

/-- Every question that comes up is asked at a cursor to which moves lead. -/
theorem moves_of_arises {α : Type} {job : Parse α} (steers : Steers start start job) {task : Task}
    (arises : Routine.Arises (Job.body step) (job start) task) : start.Moves task.2.2 := by
  obtain ⟨first, requested, course⟩ := arises
  have isFirst := (steered start).requests (steers start .refl) requested
  induction course with
  | refl => exact isFirst.1
  | tail _ begets ih => exact ((steered start).begets ih begets).1

/-- A run ends at a cursor to which moves lead. -/
theorem moves_of_run {α : Type} {job : Parse α} (steers : Steers start start job) {moves : Nat}
    {outcome : Except SyntaxError α} {t : Cursor}
    (isRun : Job.run step moves job start = some (outcome, t)) : start.Moves t := by
  obtain ⟨n, result⟩ := (Job.exists_run_iff step).1 ⟨moves, isRun⟩
  exact ((steered start).result (steers start .refl) (Routine.Rest.of_denote result)).1

/-- Moves lead from the cursor of a question to that of its answer. -/
theorem moves_of_answers {p : Phrase} {request : Request p} {c t : Cursor}
    {outcome : Except SyntaxError p.Tree}
    (answered : Routine.Answers (Job.body step) (request, c) (outcome, t)) : c.Moves t := by
  have reached : (steering c).Pre (request, c) := Relation.ReflTransGen.refl
  exact (steered c).post reached answered

end Parser

end Lox
