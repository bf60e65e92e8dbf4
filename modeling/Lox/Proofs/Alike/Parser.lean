import Lox.Proofs.Alike.Relabel
import Lox.Proofs.Routine.Similar
import Lox.Tree.Parser.Basic

/-!
# The reading of alike tokens

The parser looks at the kinds of tokens and keeps their lines for messages; numbers are only given
out. On tokens that differ in their lines only, and with any numbers next, it therefore goes through
the same motions, and ends with alike trees or with the same errors on corresponding lines.

## Main definitions

* `Parser.likeness`: related cursors, errors, requests and trees.

## Main results

* `Parser.respects_step`: the treatments of alike requests are similar.
* `parseProgram_alike`: alike tokens are read as alike programs, or with alike errors.
-/

namespace Lox

open Lox.Parser (Phrase Request Level)

section

variable (c : Relabelling)

/-- Two syntax errors of one cause at alike tokens. -/
structure SyntaxError.Alike (e e' : SyntaxError) : Prop where
  token : e.token.Alike c e'.token
  cause : e'.cause = e.cause

/-- Two positions among alike tokens, behind alike errors. -/
structure Cursor.Alike (t t' : Cursor) : Prop where
  rest : List.Forall₂ (Token.Alike c) t.rest t'.rest
  last : t.last.Alike c t'.last
  errors : List.Forall₂ (SyntaxError.Alike c) t.errors t'.errors

namespace Parser

/-- Alike trees of a sort of phrases. -/
def TreeAlike : (p : Phrase) → p.Tree → p.Tree → Prop
  | .expression => Expr.Alike c
  | .expressions => List.Forall₂ (Expr.Alike c)
  | .statement => Stmt.Alike c
  | .statements => List.Forall₂ (Stmt.Alike c)
  | .function => FunctionDecl.Alike c
  | .functions => List.Forall₂ (FunctionDecl.Alike c)
  | .names => List.Forall₂ (Token.Alike c)

/-- Requests for the same phrase, to the right of alike expressions. -/
inductive RequestAlike : (p : Phrase) → Request p → Request p → Prop
  | program : RequestAlike _ .program .program
  | declaration : RequestAlike _ .declaration .declaration
  | statement : RequestAlike _ .statement .statement
  | block : RequestAlike _ .block .block
  | methods : RequestAlike _ .methods .methods
  | function (sort : FunctionSort) : RequestAlike _ (.function sort) (.function sort)
  | parameters (before : Nat) : RequestAlike _ (.parameters before) (.parameters before)
  | arguments (before : Nat) : RequestAlike _ (.arguments before) (.arguments before)
  | expression : RequestAlike _ .expression .expression
  | level (l : Level) : RequestAlike _ (.level l) (.level l)
  | operators (l : Level) {e e' : Expr} (left : e.Alike c e') :
      RequestAlike _ (.operators l e) (.operators l e')
  | unary : RequestAlike _ .unary .unary
  | operand : RequestAlike _ .operand .operand
  | suffixes {e e' : Expr} (callee : e.Alike c e') :
      RequestAlike _ (.suffixes e) (.suffixes e')

/-- What is alike for the parser. -/
def likeness : Job.Likeness Cursor SyntaxError Request Phrase.Tree where
  state := Cursor.Alike c
  failure := SyntaxError.Alike c
  request := RequestAlike c
  result := TreeAlike c

end Parser

end

variable {c : Relabelling} {t t' : Token} {k k' : Cursor}

theorem Token.Alike.isSymbol (h : t.Alike c t') (s : Symbol) : t'.isSymbol s = t.isSymbol s := by
  rw [Token.isSymbol, Token.isSymbol, h.kind]

theorem Token.Alike.isKeyword (h : t.Alike c t') (w : Keyword) :
    t'.isKeyword w = t.isKeyword w := by
  rw [Token.isKeyword, Token.isKeyword, h.kind]

theorem SyntaxError.Alike.eq_of_lines {e e' : SyntaxError} (h : e.Alike .renumbering e') :
    e' = e := by
  obtain ⟨token, cause⟩ := e
  obtain ⟨token', cause'⟩ := e'
  obtain ⟨isToken, isCause⟩ := h
  cases isCause
  cases isToken.eq_of_lines
  rfl

namespace Cursor.Alike

theorem peek (h : k.Alike c k') : k.peek.Alike c k'.peek := by
  obtain ⟨rest, last, nextId, errors⟩ := k
  obtain ⟨rest', last', nextId', errors'⟩ := k'
  cases h.rest with
  | nil => exact h.last
  | cons first _ => exact first

theorem atEnd (h : k.Alike c k') : k'.atEnd = k.atEnd := by
  obtain ⟨rest, last, nextId, errors⟩ := k
  obtain ⟨rest', last', nextId', errors'⟩ := k'
  cases h.rest <;> rfl

theorem advance (h : k.Alike c k') : k.advance.Alike c k'.advance :=
  { h with
    rest := by
      have rest := List.forall₂_drop 1 h.rest
      rwa [List.drop_one, List.drop_one] at rest }

theorem nextStart {ts ts' : List Token} (previous : t.Alike c t')
    (h : List.Forall₂ (Token.Alike c) ts ts') :
    List.Forall₂ (Token.Alike c) (Cursor.nextStart t ts) (Cursor.nextStart t' ts') := by
  induction h generalizing t t' with
  | nil => exact .nil
  | cons first rest ih =>
    rw [Cursor.nextStart, Cursor.nextStart, previous.isSymbol, first.kind]
    split
    all_goals
      split
      · exact .cons first rest
      · exact ih first

theorem synchronize (h : k.Alike c k') : k.synchronize.Alike c k'.synchronize := by
  obtain ⟨rest, last, nextId, errors⟩ := k
  obtain ⟨rest', last', nextId', errors'⟩ := k'
  cases isRest : h.rest with
  | nil => exact h
  | cons failed rest => exact { h with rest := nextStart failed rest }

end Cursor.Alike

namespace Parser

open Parse

variable {R : Nat → Nat → Prop} {α β α' β' : Type} {Q : α → β → Prop} {Q' : α' → β' → Prop}

/-- Two computations go through the same motions on alike tokens. -/
abbrev Similar (R : Nat → Nat → Prop) {α β : Type} (Q : α → β → Prop) (job : Parse α)
    (job' : Parse β) : Prop :=
  Job.Similar (likeness (.ofLines R)) Q job job'

/-! ### Tokens -/

theorem similar_ask {p : Phrase} {r r' : Request p} (requests : RequestAlike (.ofLines R) p r r') :
    Similar R (TreeAlike (.ofLines R) p) (ask r) (ask r') := by
  have requests : (likeness (.ofLines R)).request p r r' := requests
  exact Job.Similar.ask requests

theorem similar_peek : Similar R (Token.Alike (.ofLines R)) peek peek :=
  .bind .get fun _ _ alike => .pure (Cursor.Alike.peek alike)

theorem similar_atEnd : Similar R Eq atEnd atEnd :=
  .bind .get fun _ _ alike => .pure (Cursor.Alike.atEnd alike).symm

theorem similar_sees (s : Symbol) : Similar R Eq (sees s) (sees s) :=
  .bind .get fun _ _ alike => .pure ((Cursor.Alike.peek alike).isSymbol s).symm

theorem similar_advance : Similar R (fun _ _ => True) advance advance :=
  .modify fun _ _ alike => Cursor.Alike.advance alike

/-- Both computations take the same side of a choice. -/
theorem similar_ite {b : Bool} {x y : Parse α} {x' y' : Parse β} (h : Similar R Q x x')
    (h' : Similar R Q y y') : Similar R Q (if b then x else y) (if b then x' else y') := by
  split
  · exact h
  · exact h'

/-- What follows a choice follows both of its sides. -/
theorem similar_either {b : Bool} {x y : Parse α'} {x' y' : Parse β'} {next : α' → Parse α}
    {next' : β' → Parse β}
    (h : Similar R Q ((if b then x else y) >>= next) ((if b then x' else y') >>= next')) :
    Similar R Q (if b then x >>= next else y >>= next)
      (if b then x' >>= next' else y' >>= next') := by
  cases b <;> exact h

theorem similar_accept (s : Symbol) : Similar R Eq (accept s) (accept s) := by
  refine .bind (similar_sees s) fun seen _ isSeen => ?_
  cases isSeen
  exact similar_ite (.seq similar_advance (.pure rfl)) (.pure rfl)

theorem similar_missing (expected : Expectation) :
    Similar R Q (missing expected) (missing expected) :=
  .bind similar_peek fun _ _ token => .throw ⟨token, rfl⟩

theorem similar_expectSymbol (s : Symbol) (place : Place) :
    Similar R (Token.Alike (.ofLines R)) (expectSymbol s place) (expectSymbol s place) := by
  refine .bind similar_peek fun _ _ token => ?_
  rw [token.isSymbol]
  exact similar_ite (.seq similar_advance (.pure token)) (similar_missing _)

theorem similar_expectName (role : NameRole) :
    Similar R (Token.Alike (.ofLines R)) (expectName role) (expectName role) := by
  refine .bind similar_peek fun _ _ token => ?_
  rw [token.kind]
  split
  · exact .seq similar_advance (.pure token)
  · exact similar_missing _

theorem similar_record (token : t.Alike (.ofLines R) t') (cause : SyntaxError.Cause) :
    Similar R (fun _ _ => True) (record t cause) (record t' cause) :=
  .modify fun _ _ (alike : Cursor.Alike (.ofLines R) _ _) =>
    { alike with errors := .cons ⟨token, rfl⟩ alike.errors }

theorem similar_occurrence (name : t.Alike (.ofLines R) t') :
    Similar R (Occurrence.Alike (.ofLines R)) (occurrence t) (occurrence t') :=
  .modifyGet fun _ _ (alike : Cursor.Alike (.ofLines R) _ _) =>
    ⟨⟨trivial, name⟩, { alike with rest := alike.rest }⟩

theorem similar_expr {e e' : Expr} (h : e.Alike (.ofLines R) e') :
    Similar R ((likeness (.ofLines R)).Ends .expression) (finish e) (finish e') :=
  .pure (.finished h)

theorem similar_stmt {s s' : Stmt} (h : s.Alike (.ofLines R) s') :
    Similar R ((likeness (.ofLines R)).Ends .statement) (finish s) (finish s') :=
  .pure (.finished h)

theorem similar_stmts {ss ss' : List Stmt} (h : List.Forall₂ (Stmt.Alike (.ofLines R)) ss ss') :
    Similar R ((likeness (.ofLines R)).Ends .statements) (finish ss) (finish ss') :=
  .pure (.finished h)

theorem similar_handOver {p : Phrase} {r r' : Request p}
    (requests : RequestAlike (.ofLines R) p r r') :
    Similar R ((likeness (.ofLines R)).Ends p) (handOver r) (handOver r') :=
  .pure (.handOver requests)

/-! ### Expressions -/

theorem similar_askExpr {r r' : Request .expression}
    (requests : RequestAlike (.ofLines R) .expression r r') :
    Similar R (Expr.Alike (.ofLines R)) (ask r) (ask r') :=
  similar_ask requests

theorem similar_primary : Similar R (Expr.Alike (.ofLines R)) primary primary := by
  refine .bind similar_peek fun _ _ token => ?_
  rw [token.kind]
  split
  case h_6 =>
    exact .seq similar_advance (.bind (similar_occurrence token) fun _ _ o => .pure (.this o))
  case h_7 =>
    exact .seq similar_advance (.bind (similar_occurrence token) fun _ _ o => .pure (.reference o))
  case h_8 =>
    refine .seq similar_advance (.bind (similar_expectSymbol _ _) fun _ _ _ => ?_)
    refine .bind (similar_expectName _) fun _ _ method => ?_
    exact .bind (similar_occurrence token) fun _ _ o => .pure (.super o method)
  case h_9 =>
    refine .seq similar_advance (.bind (similar_askExpr .expression) fun _ _ inner => ?_)
    exact .bind (similar_expectSymbol _ _) fun _ _ _ => .pure (.grouping inner)
  case h_10 => exact similar_missing _
  all_goals exact .seq similar_advance (.pure (.literal _ token.line))

theorem similar_assignment {e e' v v' : Expr} (target : e.Alike (.ofLines R) e')
    (equals : t.Alike (.ofLines R) t') (value : v.Alike (.ofLines R) v') :
    Similar R (Expr.Alike (.ofLines R)) (assignment e t v) (assignment e' t' v') := by
  cases id target with
  | reference name =>
    exact .bind (similar_occurrence name.name) fun _ _ o => .pure (.assign o value)
  | get object property => exact .pure (.set object property value)
  | _ => exact .seq (similar_record equals _) (.pure target)

theorem similar_expression :
    Similar R ((likeness (.ofLines R)).Ends .expression) expression expression := by
  refine .bind (similar_askExpr (.level .disjunction)) fun _ _ target => ?_
  refine .bind similar_peek fun _ _ equals => ?_
  rw [equals.isSymbol]
  refine similar_ite (.seq similar_advance ?_) (similar_expr target)
  refine .bind (similar_askExpr .expression) fun _ _ value => ?_
  exact .bind (similar_assignment target equals value) fun _ _ => similar_expr

theorem accepts_eq (l : Level) (h : t.Alike c t') : l.accepts t' = l.accepts t := by
  unfold Level.accepts
  rw [h.kind]

theorem combine_alike (l : Level) {e e' u u' : Expr} (left : e.Alike c e')
    (operator : t.Alike c t') (right : u.Alike c u') :
    (l.combine e t u).Alike c (l.combine e' t' u') := by
  cases l with
  | disjunction | conjunction => exact .logical left operator right
  | _ => exact .binary left operator right

theorem requestAlike_operand (l : Level) : RequestAlike c .expression l.operand l.operand := by
  cases l with
  | factor => exact .unary
  | _ => exact .level _

theorem similar_operators (l : Level) {e e' : Expr} (left : e.Alike (.ofLines R) e') :
    Similar R ((likeness (.ofLines R)).Ends .expression) (operators l e) (operators l e') := by
  refine .bind similar_peek fun _ _ operator => ?_
  rw [accepts_eq l operator]
  refine similar_ite (.seq similar_advance ?_) (similar_expr left)
  refine .bind (similar_askExpr (requestAlike_operand l)) fun _ _ right => ?_
  exact similar_handOver (.operators l (combine_alike l left operator right))

theorem similar_unary : Similar R ((likeness (.ofLines R)).Ends .expression) unary unary := by
  refine .bind similar_peek fun _ _ operator => ?_
  rw [operator.isSymbol, operator.isSymbol]
  refine similar_ite (.seq similar_advance ?_) (similar_handOver .operand)
  exact .bind (similar_askExpr .unary) fun _ _ right => similar_expr (.unary operator right)

theorem similar_checkArity (sort : ListSort) (before : Nat) :
    Similar R (fun _ _ => True) (checkArity sort before) (checkArity sort before) := by
  unfold checkArity
  split
  · exact .bind similar_peek fun _ _ token => similar_record token _
  · exact .pure trivial

theorem similar_arguments (before : Nat) :
    Similar R ((likeness (.ofLines R)).Ends .expressions) (arguments before)
      (arguments before) := by
  refine .seq (similar_checkArity _ _) (.bind (similar_askExpr .expression) fun _ _ first => ?_)
  refine .bind (similar_accept .comma) fun isNext _ same => ?_
  cases same
  refine similar_ite ?_ (.pure (.finished (.cons first .nil)))
  exact .bind (similar_ask (.arguments (before + 1))) fun _ _ rest =>
    .pure (.finished (.cons first rest))

theorem similar_suffixes {e e' : Expr} (callee : e.Alike (.ofLines R) e') :
    Similar R ((likeness (.ofLines R)).Ends .expression) (suffixes e) (suffixes e') := by
  refine .bind (similar_accept .leftParen) fun isCall _ same => ?_
  cases same
  refine similar_ite (.bind (similar_sees _) fun isEmpty _ same => ?_) ?_
  · cases same
    refine similar_either (.bind (Q := List.Forall₂ (Expr.Alike (.ofLines R)))
      (similar_ite (.pure .nil) (similar_ask (.arguments 0))) fun _ _ arguments => ?_)
    refine .bind (similar_expectSymbol _ _) fun _ _ paren => ?_
    exact similar_handOver (.suffixes (.call callee paren arguments))
  · refine .bind (similar_accept .dot) fun isProperty _ same => ?_
    cases same
    refine similar_ite (.bind (similar_expectName _) fun _ _ property => ?_) (similar_expr callee)
    exact similar_handOver (.suffixes (.get callee property))

/-! ### Declarations -/

theorem similar_parameters (before : Nat) :
    Similar R ((likeness (.ofLines R)).Ends .names) (parameters before) (parameters before) := by
  refine .seq (similar_checkArity _ _) (.bind (similar_expectName _) fun _ _ first => ?_)
  refine .bind (similar_accept .comma) fun isNext _ same => ?_
  cases same
  refine similar_ite ?_ (.pure (.finished (.cons first .nil)))
  exact .bind (similar_ask (.parameters (before + 1))) fun _ _ rest =>
    .pure (.finished (.cons first rest))

theorem similar_function (sort : FunctionSort) :
    Similar R ((likeness (.ofLines R)).Ends .function) (function sort) (function sort) := by
  refine .bind (similar_expectName _) fun _ _ name => ?_
  refine .bind (similar_expectSymbol _ _) fun _ _ _ => ?_
  refine .bind (similar_sees _) fun isEmpty _ same => ?_
  cases same
  refine similar_either (.bind (Q := List.Forall₂ (Token.Alike (.ofLines R)))
    (similar_ite (.pure .nil) (similar_ask (.parameters 0))) fun _ _ params => ?_)
  refine .bind (similar_expectSymbol _ _) fun _ _ _ => ?_
  refine .bind (similar_expectSymbol _ _) fun _ _ _ => ?_
  exact .bind (similar_ask .block) fun _ _ body => .pure (.finished (.mk name params body))

theorem similar_atClosing : Similar R Eq atClosing atClosing := by
  refine .bind (similar_sees _) fun isClosing _ same => ?_
  cases same
  exact similar_ite (.pure rfl) similar_atEnd

theorem similar_methods : Similar R ((likeness (.ofLines R)).Ends .functions) methods methods := by
  refine .bind similar_atClosing fun isOver _ same => ?_
  cases same
  refine similar_ite (.pure (.finished .nil)) ?_
  refine .bind (similar_ask (.function .method)) fun _ _ first => ?_
  exact .bind (similar_ask .methods) fun _ _ rest => .pure (.finished (.cons first rest))

theorem similar_classDeclaration :
    Similar R (Stmt.Alike (.ofLines R)) classDeclaration classDeclaration := by
  refine .bind (similar_expectName _) fun t t' name => ?_
  have rest {o o' : Option Occurrence}
      (superclass : Option.Rel (Occurrence.Alike (.ofLines R)) o o') :
      Similar R (Stmt.Alike (.ofLines R))
        (do
          let _ ← expectSymbol .leftBrace .beforeClassBody
          let ds ← ask .methods
          let _ ← expectSymbol .rightBrace .afterClassBody
          return .classDecl t o ds)
        (do
          let _ ← expectSymbol .leftBrace .beforeClassBody
          let ds ← ask .methods
          let _ ← expectSymbol .rightBrace .afterClassBody
          return .classDecl t' o' ds) := by
    refine .bind (similar_expectSymbol _ _) fun _ _ _ => ?_
    refine .bind (similar_ask .methods) fun _ _ methods => ?_
    exact .bind (similar_expectSymbol _ _) fun _ _ _ => .pure (.classDecl name superclass methods)
  refine .bind (similar_accept .less) fun inherits _ same => ?_
  cases same
  refine similar_ite (.bind (similar_expectName _) fun _ _ parent => ?_) (rest .none)
  exact .bind (Q := Option.Rel (Occurrence.Alike (.ofLines R)))
    (.map (similar_occurrence parent) fun _ _ => .some) fun _ _ => rest

theorem similar_varDeclaration :
    Similar R (Stmt.Alike (.ofLines R)) varDeclaration varDeclaration := by
  refine .bind (similar_expectName _) fun _ _ name => ?_
  refine .bind (similar_accept .equal) fun isInitialized _ same => ?_
  cases same
  refine similar_either (.bind (Q := Option.Rel (Expr.Alike (.ofLines R)))
    (similar_ite (.map (similar_askExpr .expression) fun _ _ => .some) (.pure .none))
    fun _ _ initializer => ?_)
  exact .bind (similar_expectSymbol _ _) fun _ _ _ => .pure (.varDecl name initializer)

theorem similar_declaration :
    Similar R ((likeness (.ofLines R)).Ends .statement) declaration declaration := by
  refine .bind similar_peek fun _ _ token => ?_
  rw [token.kind]
  split
  · exact .seq similar_advance (.bind similar_classDeclaration fun _ _ => similar_stmt)
  · exact .seq similar_advance (.bind (similar_ask (.function .function)) fun _ _ declaration =>
      similar_stmt (.functionDecl declaration))
  · exact .seq similar_advance (.bind similar_varDeclaration fun _ _ => similar_stmt)
  · exact similar_handOver .statement

/-! ### Statements -/

theorem similar_condition (w : Keyword) :
    Similar R (Expr.Alike (.ofLines R)) (condition w) (condition w) := by
  refine .bind (similar_expectSymbol _ _) fun _ _ _ => ?_
  refine .bind (similar_askExpr .expression) fun _ _ e => ?_
  exact .bind (similar_expectSymbol _ _) fun _ _ _ => .pure e

theorem similar_optionalExpression (terminator : Symbol) :
    Similar R (Option.Rel (Expr.Alike (.ofLines R))) (optionalExpression terminator)
      (optionalExpression terminator) := by
  refine .bind (similar_sees _) fun isEmpty _ same => ?_
  cases same
  exact similar_ite (.pure .none) (.map (similar_askExpr .expression) fun _ _ => .some)

theorem similar_expressionStatement :
    Similar R (Stmt.Alike (.ofLines R)) expressionStatement expressionStatement := by
  refine .bind (similar_askExpr .expression) fun _ _ e => ?_
  exact .bind (similar_expectSymbol _ _) fun _ _ _ => .pure (.expression e)

theorem lowerFor_alike {initializer initializer' : Option Stmt} {e e' : Expr}
    {increment increment' : Option Expr} {body body' : Stmt}
    (first : Option.Rel (Stmt.Alike c) initializer initializer') (condition : e.Alike c e')
    (last : Option.Rel (Expr.Alike c) increment increment') (h : body.Alike c body') :
    (lowerFor initializer e increment body).Alike c
    (lowerFor initializer' e' increment' body') := by
  have round {u u' : Expr} (value : u.Alike c u') :
      (Stmt.block [body, .expression u]).Alike c (.block [body', .expression u']) :=
    .block (.cons h (.cons (.expression value) .nil))
  have framed {s s' loop loop' : Stmt} (first : s.Alike c s') (last : loop.Alike c loop') :
      (Stmt.block [s, loop]).Alike c (.block [s', loop']) :=
    .block (.cons first (.cons last .nil))
  cases first with
  | none =>
    cases last with
    | none => exact .loop condition h
    | some value => exact .loop condition (round value)
  | some first =>
    cases last with
    | none => exact framed first (.loop condition h)
    | some value => exact framed first (.loop condition (round value))

theorem similar_forStatement (keyword : t.Alike (.ofLines R) t') :
    Similar R (Stmt.Alike (.ofLines R)) (forStatement t) (forStatement t') := by
  refine .bind (similar_expectSymbol _ _) fun _ _ _ => .bind similar_peek fun _ _ token => ?_
  have rest {s s' : Option Stmt} (first : Option.Rel (Stmt.Alike (.ofLines R)) s s') :
      Similar R (Stmt.Alike (.ofLines R))
        (do
          let condition ← optionalExpression .semicolon
          let _ ← expectSymbol .semicolon .afterLoopCondition
          let increment ← optionalExpression .rightParen
          let _ ← expectSymbol .rightParen .afterForClauses
          let body ← ask .statement
          let condition := condition.getD (.literal (.boolean true) t.line)
          return lowerFor s condition increment body)
        (do
          let condition ← optionalExpression .semicolon
          let _ ← expectSymbol .semicolon .afterLoopCondition
          let increment ← optionalExpression .rightParen
          let _ ← expectSymbol .rightParen .afterForClauses
          let body ← ask .statement
          let condition := condition.getD (.literal (.boolean true) t'.line)
          return lowerFor s' condition increment body) := by
    refine .bind (similar_optionalExpression _) fun e e' condition => ?_
    refine .bind (similar_expectSymbol _ _) fun _ _ _ => ?_
    refine .bind (similar_optionalExpression _) fun _ _ increment => ?_
    refine .bind (similar_expectSymbol _ _) fun _ _ _ => ?_
    refine .bind (similar_ask .statement) fun _ _ body => ?_
    have condition : (e.getD (.literal (.boolean true) t.line)).Alike (.ofLines R)
        (e'.getD (.literal (.boolean true) t'.line)) := by
      cases condition with
      | none => exact .literal _ keyword.line
      | some h => exact h
    exact .pure (lowerFor_alike first condition increment body)
  rw [token.kind]
  split
  · exact .seq similar_advance (rest .none)
  · refine .seq similar_advance ?_
    exact .bind (Q := Option.Rel (Stmt.Alike (.ofLines R)))
      (.map similar_varDeclaration fun _ _ => .some) fun _ _ => rest
  · exact .bind (Q := Option.Rel (Stmt.Alike (.ofLines R)))
      (.map similar_expressionStatement fun _ _ => .some) fun _ _ => rest

theorem similar_ifStatement :
    Similar R (Stmt.Alike (.ofLines R)) ifStatement ifStatement := by
  refine .bind (similar_condition _) fun _ _ e => ?_
  refine .bind (similar_ask .statement) fun _ _ thenBranch => ?_
  refine .bind similar_peek fun _ _ token => ?_
  rw [token.isKeyword]
  refine similar_ite (.seq similar_advance ?_) (.pure (.conditional e thenBranch .none))
  exact .bind (similar_ask .statement) fun _ _ elseBranch =>
    .pure (.conditional e thenBranch (.some elseBranch))

theorem similar_statement :
    Similar R ((likeness (.ofLines R)).Ends .statement) statement statement := by
  refine .bind similar_peek fun _ _ token => ?_
  rw [token.kind]
  split
  · exact .seq similar_advance (.bind (similar_forStatement token) fun _ _ => similar_stmt)
  · exact .seq similar_advance (.bind similar_ifStatement fun _ _ => similar_stmt)
  · refine .seq similar_advance (.bind (similar_askExpr .expression) fun _ _ e => ?_)
    exact .bind (similar_expectSymbol _ _) fun _ _ _ => similar_stmt (.print e)
  · refine .seq similar_advance (.bind (similar_optionalExpression _) fun _ _ e => ?_)
    exact .bind (similar_expectSymbol _ _) fun _ _ _ => similar_stmt (.ret token e)
  · refine .seq similar_advance (.bind (similar_condition _) fun _ _ e => ?_)
    exact .bind (similar_ask .statement) fun _ _ body => similar_stmt (.loop e body)
  · exact .seq similar_advance (.bind (similar_ask .block) fun _ _ body =>
      similar_stmt (.block body))
  · exact .bind similar_expressionStatement fun _ _ => similar_stmt

theorem similar_block : Similar R ((likeness (.ofLines R)).Ends .statements) block block := by
  refine .bind similar_atClosing fun isOver _ same => ?_
  cases same
  refine similar_ite (.bind (similar_expectSymbol _ _) fun _ _ _ => similar_stmts .nil) ?_
  refine .bind (similar_ask .declaration) fun _ _ first => ?_
  exact .bind (similar_ask .block) fun _ _ rest => similar_stmts (.cons first rest)

theorem similar_program : Similar R ((likeness (.ofLines R)).Ends .statements) program program := by
  refine .bind similar_atEnd fun isOver _ same => ?_
  cases same
  refine similar_ite (similar_stmts .nil) ?_
  refine .bind (Q := Option.Rel (Stmt.Alike (.ofLines R))) ?_ fun _ _ first => ?_
  · refine .tryCatch (.map (similar_ask .declaration) fun _ _ => .some) fun e e' failure => ?_
    have failure : e.Alike (.ofLines R) e' := failure
    rw [failure.cause]
    refine .seq (similar_record failure.token _) (.seq (.modify fun _ _ alike => ?_) (.pure .none))
    exact Cursor.Alike.synchronize alike
  · refine .bind (similar_ask .program) fun _ _ rest => similar_stmts (List.rel_append ?_ rest)
    cases first with
    | none => exact .nil
    | some first => exact .cons first .nil

/-- The treatments of alike requests are similar. -/
theorem respects_step : Routine.Respects (likeness (.ofLines R)).goal (likeness (.ofLines R)).answer
    (Job.body step) := by
  refine Job.Similar.respects fun p r r' requests => ?_
  cases requests with
  | program => exact similar_program
  | declaration => exact similar_declaration
  | statement => exact similar_statement
  | block => exact similar_block
  | methods => exact similar_methods
  | function sort => exact similar_function sort
  | parameters before => exact similar_parameters before
  | arguments before => exact similar_arguments before
  | expression => exact similar_expression
  | level l =>
    exact .bind (similar_askExpr (requestAlike_operand l)) fun _ _ left =>
      similar_handOver (.operators l left)
  | operators l left => exact similar_operators l left
  | unary => exact similar_unary
  | operand => exact .bind similar_primary fun _ _ e => similar_handOver (.suffixes e)
  | suffixes callee => exact similar_suffixes callee

end Parser

/-! ### Programs -/

/-- Alike programs, or alike errors. -/
inductive ParsedAlike (c : Relabelling) :
    Except (List SyntaxError) (List Stmt) → Except (List SyntaxError) (List Stmt) → Prop
  | ok {p p' : List Stmt} (programs : List.Forall₂ (Stmt.Alike c) p p') :
      ParsedAlike c (.ok p) (.ok p')
  | error {es es' : List SyntaxError} (errors : List.Forall₂ (SyntaxError.Alike c) es es') :
      ParsedAlike c (.error es) (.error es')

theorem takeWhile_alike {ts ts' : List Token} (h : List.Forall₂ (Token.Alike c) ts ts') :
    List.Forall₂ (Token.Alike c) (ts.takeWhile fun t => !t.kind.isEnd)
      (ts'.takeWhile fun t => !t.kind.isEnd) := by
  induction h with
  | nil => exact .nil
  | cons first _ ih =>
    rw [List.takeWhile_cons, List.takeWhile_cons, first.kind]
    split
    · exact .cons first ih
    · exact .nil

theorem find_alike {ts ts' : List Token} (h : List.Forall₂ (Token.Alike c) ts ts') :
    Option.Rel (Token.Alike c) (ts.find? fun t => t.kind.isEnd)
      (ts'.find? fun t => t.kind.isEnd) := by
  induction h with
  | nil => exact .none
  | cons first _ ih =>
    rw [List.find?_cons, List.find?_cons, first.kind]
    split
    · exact .some first
    · exact ih

/-- The beginnings of alike lists of tokens, which are closed by a token that ends the input. -/
theorem ofTokens_alike {ts ts' : List Token} (h : List.Forall₂ (Token.Alike c) ts ts')
    (closed : ∃ t ∈ ts, t.kind.isEnd) (n n' : NodeId) :
    (Cursor.ofTokens ts n).Alike c (Cursor.ofTokens ts' n') := by
  refine ⟨takeWhile_alike h, ?_, .nil⟩
  have found := find_alike h
  have isSome : (ts.find? fun t => t.kind.isEnd).isSome := List.find?_isSome.2 closed
  unfold Cursor.ofTokens
  dsimp only
  generalize (ts.find? fun t => t.kind.isEnd) = o at found isSome
  generalize (ts'.find? fun t => t.kind.isEnd) = o' at found
  cases found with
  | none => cases isSome
  | some eof => exact eof

/-- Alike tokens are read as alike programs, or with alike errors, whatever the next numbers are. -/
theorem parseProgram_alike {R : Nat → Nat → Prop} {ts ts' : List Token}
    (h : List.Forall₂ (Token.Alike (.ofLines R)) ts ts') (closed : ∃ t ∈ ts, t.kind.isEnd)
    (n n' : NodeId) :
    ParsedAlike (.ofLines R) (parseProgram ts n).1 (parseProgram ts' n').1 := by
  have start := ofTokens_alike h closed n n'
  have outcomes := Job.Similar.run Parser.respects_step (Parser.similar_ask .program) start
    (Parser.moves ts)
  unfold parseProgram Parser.run
  rw [show Parser.moves ts' = Parser.moves ts by rw [Parser.moves, Parser.moves, h.length_eq]]
  generalize Job.run Parser.step (Parser.moves ts) _ (Cursor.ofTokens ts n) = o at outcomes
  generalize Job.run Parser.step (Parser.moves ts) _ (Cursor.ofTokens ts' n') = o' at outcomes
  cases outcomes with
  | none => exact .error .nil
  | some outcome =>
    cases outcome with
    | error failure => exact .error (.cons failure .nil)
    | @ok p p' k k' programs cursors =>
      have errors : List.Forall₂ (SyntaxError.Alike (.ofLines R)) k.errors k'.errors :=
        Cursor.Alike.errors cursors
      dsimp only
      generalize k.errors = es at errors
      generalize k'.errors = es' at errors
      cases errors with
      | nil => exact .ok programs
      | cons first rest => exact .error (List.rel_reverse (.cons first rest))

end Lox
