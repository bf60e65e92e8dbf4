import Lox.Proofs.Grammar.Position
import Lox.Proofs.Routine.Similar

/-!
# A statement and what stands around it

A segment is a simple statement, well-formed or not, with the semicolon behind it. While the parser
reads it, it looks no further than to that semicolon: expressions end in front of it at the latest,
and only what asks for a semicolon passes it. So what stands around the segment makes no difference.
In two surroundings the parser goes through the same motions, and either ends behind the semicolon
with the same statement, or fails at the same token with the same error.

## Main definitions

* `Simple`, `Segment`: tokens in which no second statement begins, and these with a semicolon.
* `Surround`: what stands around a segment.
* `Segment.Abreast`: cursors at the same place of a segment in two surroundings.
* `Segment.Local`, `Segment.Closes`: computations that stay inside a segment, or end behind it.

## Main results

* `Segment.local_step`: expressions are read inside the segment.
* `Segment.Abreast.exists_answers`: a declaration is read alike in both surroundings.
-/

namespace Lox

open Lox.Parser (Phrase Request Level)

/-- Tokens in which no second statement begins: none is a semicolon, a brace or the end of the
input, and a keyword that starts a statement can only be the first of them, and only `var`, `print`
or `return`. -/
structure Simple (ts : List Token) : Prop where
  inside : ∀ t ∈ ts, t.kind.isEnd = false
  unbroken : ∀ t ∈ ts, ∀ s ∈ [Symbol.semicolon, .leftBrace, .rightBrace], t.isSymbol s = false
  first : ∀ t ∈ ts.head?, Tape.startsStatement t = true →
    ∃ k ∈ [Keyword.var_, .print_, .return_], t.isKeyword k = true
  rest : ∀ t ∈ ts.tail, Tape.startsStatement t = false

instance (ts : List Token) : Decidable (Simple ts) :=
  decidable_of_iff
    ((∀ t ∈ ts, t.kind.isEnd = false) ∧
      (∀ t ∈ ts, ∀ s ∈ [Symbol.semicolon, .leftBrace, .rightBrace], t.isSymbol s = false) ∧
      (∀ t ∈ ts.head?, Tape.startsStatement t = true →
        ∃ k ∈ [Keyword.var_, .print_, .return_], t.isKeyword k = true) ∧
      ∀ t ∈ ts.tail, Tape.startsStatement t = false)
    ⟨fun ⟨h, h', h'', h'''⟩ => ⟨h, h', h'', h'''⟩, fun ⟨h, h', h'', h'''⟩ => ⟨h, h', h'', h'''⟩⟩

/-- A simple statement, well-formed or not, and the semicolon behind it. -/
structure Segment where
  body : List Token
  semicolon : Token
  simple : Simple body
  isSemicolon : semicolon.isSymbol .semicolon = true

/-- What stands around some tokens: those behind them, the one that ends the input, and the errors
noted in front of them. -/
structure Surround where
  behind : List Token
  last : Token
  before : List SyntaxError

/-- The cursor in front of tokens in a surrounding, some errors having been noted since. -/
def Surround.cursor (w : Surround) (ts : List Token) (nextId : NodeId) (noted : List SyntaxError) :
    Cursor :=
  ⟨ts ++ w.behind, w.last, nextId, noted ++ w.before⟩

namespace Segment

/-- All tokens of a segment. -/
def tokens (s : Segment) : List Token :=
  s.body ++ [s.semicolon]

variable (s : Segment) (w w' : Surround)

/-! ### The tokens of a segment -/

theorem kind_semicolon : s.semicolon.kind = .symbol .semicolon :=
  Token.isSymbol_iff.1 s.isSemicolon

variable {s}

theorem isSymbol_semicolon {other : Symbol} (h : Symbol.semicolon ≠ other) :
    s.semicolon.isSymbol other = false := by
  rw [Token.isSymbol, s.kind_semicolon]
  exact beq_eq_false_iff_ne.2 h

theorem isSymbol_of_mem {t : Token} (mem : t ∈ s.body) : t.isSymbol .semicolon = false :=
  s.simple.unbroken t mem _ (by simp)

/-- The statements that have others inside them do not begin at a token of a segment. -/
theorem kind_of_mem {t : Token} (mem : t ∈ s.body) :
    t.kind ∉ [Keyword.class_, .fun_, .for_, .if_, .while_].map TokenKind.keyword ∧
      t.kind ≠ .symbol .leftBrace := by
  have isBrace := s.simple.unbroken t mem .leftBrace (by simp)
  refine ⟨fun isKeyword => ?_, fun isLeft => ?_⟩
  · obtain ⟨k, isStart, isKind⟩ := List.mem_map.1 isKeyword
    have starts : Tape.startsStatement t = true := by
      rw [Tape.startsStatement, ← isKind]
      revert isStart
      cases k <;> decide
    have first := s.simple.first
    have rest := s.simple.rest
    generalize s.body = ts at mem first rest
    rcases mem with _ | ⟨_, mem⟩
    · obtain ⟨k', isFirst, isKeyword'⟩ := first t rfl starts
      rw [Token.isKeyword_iff, ← isKind] at isKeyword'
      cases isKeyword'
      revert isStart isFirst
      cases k <;> decide
    · exact Bool.false_ne_true ((rest t mem).symm.trans starts)
  · rw [Token.isSymbol_iff.2 isLeft] at isBrace
    cases isBrace

/-! ### Cursors in two surroundings -/

variable (s)

/-- Two cursors at the same token of a segment, which may be its semicolon, with the same errors
noted in it so far. -/
inductive Abreast : Cursor → Cursor → Prop
  | at (ts : List Token) (nextId : NodeId) (noted : List SyntaxError) (within : ts <:+ s.body) :
      Abreast (w.cursor (ts ++ [s.semicolon]) nextId noted)
        (w'.cursor (ts ++ [s.semicolon]) nextId noted)

/-- The requests for expressions and lists of them. -/
inductive Inline : {p : Phrase} → Request p → Prop
  | expression : Inline .expression
  | level (l : Level) : Inline (.level l)
  | operators (l : Level) (left : Expr) : Inline (.operators l left)
  | unary : Inline .unary
  | operand : Inline .operand
  | suffixes (callee : Expr) : Inline (.suffixes callee)
  | arguments (before : Nat) : Inline (.arguments before)

/-- What is the same in two surroundings of a segment. -/
def likeness : Job.Likeness Cursor SyntaxError Request Phrase.Tree where
  state := s.Abreast w w'
  failure := Eq
  request _ r r' := r = r' ∧ Inline r
  result _ := Eq

variable {α β : Type}

/-- A computation goes through the same motions from cursors abreast, and its outcomes are related
by `Q`. -/
abbrev Alongside (Q : Except SyntaxError α × Cursor → Except SyntaxError α × Cursor → Prop)
    (job : Parse α) : Prop :=
  ∀ c c', s.Abreast w w' c c' →
    Routine.Similar (s.likeness w w').goal (s.likeness w w').answer Q (job c) (job c')

/-- A computation that is made in front of the semicolon. -/
abbrev Onward (Q : Except SyntaxError α × Cursor → Except SyntaxError α × Cursor → Prop)
    (job : Parse α) : Prop :=
  ∀ t ts nextId noted, t :: ts <:+ s.body →
    Routine.Similar (s.likeness w w').goal (s.likeness w w').answer Q
      (job (w.cursor (t :: ts ++ [s.semicolon]) nextId noted))
      (job (w'.cursor (t :: ts ++ [s.semicolon]) nextId noted))

/-- A computation stays abreast in two surroundings of a segment, and its results are related. -/
abbrev Local (Q : α → α → Prop) (job : Parse α) : Prop :=
  s.Alongside w w' ((s.likeness w w').Outcome Q) job

/-- An outcome behind the segment with the same result, or with the same error at a token of it. -/
inductive Closed : Except SyntaxError α × Cursor → Except SyntaxError α × Cursor → Prop
  | ok (a : α) (nextId : NodeId) (noted : List SyntaxError) :
      Closed (.ok a, w.cursor [] nextId noted) (.ok a, w'.cursor [] nextId noted)
  | error (e : SyntaxError) {c c' : Cursor} (abreast : s.Abreast w w' c c') :
      Closed (.error e, c) (.error e, c')

/-- A computation ends behind the segment, or fails in it. -/
abbrev Closes (job : Parse α) : Prop :=
  s.Alongside w w' (s.Closed w w') job

/-- The treatment of a declaration ends behind the segment, fails in it, or hands over to the
reading of a statement. -/
inductive Settled : Except SyntaxError (Parser.Step .statement) × Cursor →
    Except SyntaxError (Parser.Step .statement) × Cursor → Prop
  | finished (tree : Stmt) (nextId : NodeId) (noted : List SyntaxError) :
      Settled (.ok (.finished tree), w.cursor [] nextId noted)
        (.ok (.finished tree), w'.cursor [] nextId noted)
  | statement {c c' : Cursor} (abreast : s.Abreast w w' c c') :
      Settled (.ok (.handOver .statement), c) (.ok (.handOver .statement), c')
  | error (e : SyntaxError) {c c' : Cursor} (abreast : s.Abreast w w' c c') :
      Settled (.error e, c) (.error e, c')

variable {s w w'} {Q : α → α → Prop}
  {R : Except SyntaxError α × Cursor → Except SyntaxError α × Cursor → Prop}

/-! ### Computations in sequence -/

theorem local_of_similar {job : Parse α} (h : Job.Similar (s.likeness w w') Q job job) :
    s.Local w w' Q job :=
  h

theorem Alongside.bind {job : Parse β} {next : β → Parse α} (h : s.Local w w' Eq job)
    (h' : ∀ b, s.Local w w' Q (next b)) : s.Local w w' Q (job >>= next) := by
  have h : Job.Similar (s.likeness w w') Eq job job := h
  exact local_of_similar (h.bind fun b _ isSame => isSame ▸ h' b)

/-- What goes on from the same results, if the outcomes are related whenever both fail. -/
theorem Alongside.seq {job : Parse β} {next : β → Parse α} (h : s.Local w w' Eq job)
    (failed : ∀ e c c', s.Abreast w w' c c' → R (.error e, c) (.error e, c'))
    (h' : ∀ b, s.Alongside w w' R (next b)) : s.Alongside w w' R (job >>= next) := by
  intro c c' abreast
  refine Routine.Similar.bind (h c c' abreast) fun _ _ outcomes => ?_
  cases outcomes with
  | ok isSame abreast =>
    cases isSame
    exact h' _ _ _ abreast
  | error isSame abreast =>
    cases isSame
    exact .done (failed _ _ _ abreast)

theorem Onward.of_alongside {job : Parse α} (h : s.Alongside w w' R job) :
    s.Onward w w' R job :=
  fun _ _ nextId noted within => h _ _ (.at _ nextId noted within)

/-- In front of the semicolon the next token may be passed. -/
theorem Onward.advance {next : Unit → Parse α} (h : s.Alongside w w' R (next ())) :
    s.Onward w w' R (Parse.advance >>= next) :=
  fun t _ nextId noted within => h _ _ (.at _ nextId noted ((List.suffix_cons t _).trans within))

theorem Onward.ite {b : Prop} [Decidable b] {job job' : Parse α} (h : s.Onward w w' R job)
    (h' : s.Onward w w' R job') : s.Onward w w' R (if b then job else job') := by
  split
  · exact h
  · exact h'

/-- The next token is the semicolon, or one in front of it. -/
theorem Alongside.peek {next : Token → Parse α} (isLast : s.Alongside w w' R (next s.semicolon))
    (inside : ∀ t ∈ s.body, s.Onward w w' R (next t)) :
    s.Alongside w w' R (Parse.peek >>= next) := by
  rintro _ _ ⟨_ | ⟨t, ts⟩, nextId, noted, within⟩
  · exact isLast _ _ (.at [] nextId noted within)
  · exact inside t (within.subset (List.mem_cons_self ..)) t ts nextId noted within

/-! ### Single tokens -/

theorem local_ask {p : Phrase} {r : Request p} (isInline : Inline r) :
    s.Local w w' Eq (Parse.ask r) := by
  have request : (s.likeness w w').request p r r := ⟨rfl, isInline⟩
  exact Job.Similar.ask request

theorem local_pure (a : α) : s.Local w w' Eq (pure a : Parse α) :=
  local_of_similar (.pure rfl)

theorem local_peek : s.Local w w' Eq Parse.peek :=
  Alongside.peek (local_pure _) fun t _ => .of_alongside (local_pure t)

theorem local_missing (expected : Expectation) :
    s.Local w w' Q (Parse.missing expected : Parse α) :=
  .bind local_peek fun _ => local_of_similar (.throw rfl)

theorem local_sees (symbol : Symbol) : s.Local w w' Eq (Parse.sees symbol) := by
  rw [show Parse.sees symbol = Parse.peek >>= fun t => pure (t.isSymbol symbol) from rfl]
  exact .bind local_peek fun _ => local_pure _

theorem local_ite {b : Prop} [Decidable b] {job job' : Parse α} (h : s.Local w w' Q job)
    (h' : s.Local w w' Q job') : s.Local w w' Q (if b then job else job') := by
  split
  · exact h
  · exact h'

/-- A symbol other than the semicolon is passed inside the segment. -/
theorem local_accept {symbol : Symbol} (h : Symbol.semicolon ≠ symbol) :
    s.Local w w' Eq (Parse.accept symbol) := by
  rw [show Parse.accept symbol = Parse.peek >>= fun t =>
    if t.isSymbol symbol then Parse.advance >>= fun _ => pure true else pure false from rfl]
  refine Alongside.peek ?_ fun t _ => .ite (.advance (local_pure true))
    (.of_alongside (local_pure false))
  rw [isSymbol_semicolon h]
  exact local_pure false

theorem local_expectSymbol {symbol : Symbol} (h : Symbol.semicolon ≠ symbol) (place : Place) :
    s.Local w w' Eq (Parse.expectSymbol symbol place) := by
  refine Alongside.peek ?_ fun t _ => .ite (.advance (local_pure t))
    (.of_alongside (local_missing _))
  rw [isSymbol_semicolon h]
  exact local_missing _

theorem local_expectName (role : NameRole) : s.Local w w' Eq (Parse.expectName role) := by
  refine Alongside.peek ?_ fun t _ => ?_
  · rw [s.kind_semicolon]
    exact local_missing _
  · split
    · exact .advance (local_pure t)
    · exact .of_alongside (local_missing _)

theorem local_record (t : Token) (cause : SyntaxError.Cause) :
    s.Local w w' Eq (Parse.record t cause) := by
  refine local_of_similar (.modifyGet fun _ _ abreast => ⟨rfl, ?_⟩)
  obtain ⟨ts, nextId, noted, within⟩ := abreast
  exact .at ts nextId (⟨t, cause⟩ :: noted) within

theorem local_occurrence (name : Token) : s.Local w w' Eq (Parse.occurrence name) := by
  refine local_of_similar (.modifyGet fun _ _ abreast => ?_)
  obtain ⟨ts, nextId, noted, within⟩ := abreast
  exact ⟨rfl, .at ts (nextId + 1) noted within⟩

/-! ### Expressions -/

theorem local_finish {p : Phrase} (tree : p.Tree) :
    s.Local w w' ((s.likeness w w').Ends p) (Parser.finish tree) :=
  local_of_similar (.pure (.finished rfl))

theorem local_handOver {p : Phrase} {r : Request p} (isInline : Inline r) :
    s.Local w w' ((s.likeness w w').Ends p) (Parser.handOver r) :=
  local_of_similar (.pure (.handOver ⟨rfl, isInline⟩))

theorem local_primary : s.Local w w' Eq Parser.primary := by
  refine Alongside.peek ?_ fun t _ => ?_
  · rw [s.kind_semicolon]
    exact local_missing _
  · split
    case h_6 => exact .advance (.bind (local_occurrence t) fun _ => local_pure _)
    case h_7 => exact .advance (.bind (local_occurrence t) fun _ => local_pure _)
    case h_8 =>
      exact .advance (.bind (local_expectSymbol (by decide) _) fun _ =>
        .bind (local_expectName _) fun _ => .bind (local_occurrence t) fun _ => local_pure _)
    case h_9 =>
      exact .advance (.bind (local_ask .expression) fun _ =>
        .bind (local_expectSymbol (by decide) _) fun _ => local_pure _)
    case h_10 => exact .of_alongside (local_missing _)
    all_goals exact .advance (local_pure _)

theorem local_assignment (target : Expr) (equals : Token) (value : Expr) :
    s.Local w w' Eq (Parser.assignment target equals value) := by
  unfold Parser.assignment
  split
  · exact .bind (local_occurrence _) fun _ => local_pure _
  · exact local_pure _
  · exact .bind (local_record _ _) fun _ => local_pure _

theorem local_expression :
    s.Local w w' ((s.likeness w w').Ends .expression) Parser.expression := by
  refine .bind (local_ask (.level _)) fun target => Alongside.peek ?_ fun t _ => ?_
  · rw [isSymbol_semicolon (by decide)]
    exact local_finish (p := .expression) target
  · exact .ite
      (.advance (.bind (local_ask .expression) fun value =>
        .bind (local_assignment target t value) fun _ => local_finish (p := .expression) _))
      (.of_alongside (local_finish (p := .expression) target))

theorem inline_operand (l : Level) : Inline l.operand := by
  cases l with
  | factor => exact .unary
  | _ => exact .level _

theorem local_operators (l : Level) (left : Expr) :
    s.Local w w' ((s.likeness w w').Ends .expression) (Parser.operators l left) := by
  refine Alongside.peek ?_ fun t _ => ?_
  · have isNone : l.accepts s.semicolon = false := by
      unfold Level.accepts
      rw [s.kind_semicolon]
      cases l <;> rfl
    rw [isNone]
    exact local_finish (p := .expression) left
  · exact .ite
      (.advance (.bind (local_ask (inline_operand l)) fun _ => local_handOver (.operators l _)))
      (.of_alongside (local_finish (p := .expression) left))

theorem local_unary : s.Local w w' ((s.likeness w w').Ends .expression) Parser.unary := by
  refine Alongside.peek ?_ fun t _ => ?_
  · rw [isSymbol_semicolon (by decide), isSymbol_semicolon (by decide)]
    exact local_handOver .operand
  · exact .ite (.advance (.bind (local_ask .unary) fun _ => local_finish (p := .expression) _))
      (.of_alongside (local_handOver .operand))

theorem local_checkArity (sort : ListSort) (before : Nat) :
    s.Local w w' Eq (Parser.checkArity sort before) :=
  local_ite (.bind local_peek fun _ => local_record _ _) (local_pure _)

theorem local_arguments (before : Nat) :
    s.Local w w' ((s.likeness w w').Ends .expressions) (Parser.arguments before) :=
  .bind (local_checkArity _ _) fun _ => .bind (local_ask .expression) fun _ =>
    .bind (local_accept (by decide)) fun _ => local_ite
      (.bind (local_ask (.arguments _)) fun _ => local_finish (p := .expressions) _)
      (local_finish (p := .expressions) _)

theorem local_suffixes (callee : Expr) :
    s.Local w w' ((s.likeness w w').Ends .expression) (Parser.suffixes callee) := by
  have closing (es : List Expr) : s.Local w w' ((s.likeness w w').Ends .expression) (do
      let paren ← Parse.expectSymbol .rightParen (.afterList .arguments)
      Parser.handOver (.suffixes (.call callee paren es))) :=
    .bind (local_expectSymbol (by decide) _) fun _ => local_handOver (.suffixes _)
  refine .bind (local_accept (by decide)) fun _ => local_ite ?_ ?_
  · exact .bind (local_sees _) fun _ => local_ite (.bind (local_pure []) closing)
      (.bind (local_ask (.arguments 0)) closing)
  · refine .bind (local_accept (by decide)) fun _ =>
      local_ite ?_ (local_finish (p := .expression) _)
    exact .bind (local_expectName _) fun _ => local_handOver (.suffixes _)

/-- Expressions are read inside the segment. -/
theorem local_step {p : Phrase} {r : Request p} (isInline : Inline r) :
    s.Local w w' ((s.likeness w w').Ends p) (Parser.step p r) := by
  cases isInline with
  | expression => exact local_expression
  | level l => exact .bind (local_ask (inline_operand l)) fun _ => local_handOver (.operators l _)
  | operators l left => exact local_operators l left
  | unary => exact local_unary
  | operand => exact .bind local_primary fun _ => local_handOver (.suffixes _)
  | suffixes callee => exact local_suffixes callee
  | arguments before => exact local_arguments before

theorem respects_step : Routine.Respects (s.likeness w w').goal (s.likeness w w').answer
    (Job.body Parser.step) := by
  refine Job.Similar.respects ?_
  rintro p r _ ⟨rfl, isInline⟩
  exact local_step isInline

/-! ### Statements -/

theorem Closes.bind {job : Parse β} {next : β → Parse α} (h : s.Local w w' Eq job)
    (h' : ∀ b, s.Closes w w' (next b)) : s.Closes w w' (job >>= next) :=
  .seq h (fun _ _ _ => .error _) h'

theorem Closes.map {job : Parse β} (h : s.Closes w w' job) (f : β → α) :
    s.Closes w w' (job >>= fun b => pure (f b)) := by
  intro c c' abreast
  refine Routine.Similar.bind (h c c' abreast) fun _ _ closed => ?_
  cases closed with
  | ok b nextId noted => exact .done (.ok (f b) nextId noted)
  | error e abreast => exact .done (.error e abreast)

/-- The semicolon of the segment is passed, or missed in front of it. -/
theorem closes_expectSymbol (place : Place) :
    s.Closes w w' (Parse.expectSymbol .semicolon place) := by
  have passes (v : Surround) (nextId : NodeId) (noted : List SyntaxError) :
      Parse.expectSymbol .semicolon place (v.cursor [s.semicolon] nextId noted) =
        .done (.ok s.semicolon, v.cursor [] nextId noted) := by
    change (if s.semicolon.isSymbol .semicolon then Parse.advance >>= fun _ => pure s.semicolon
      else Parse.missing _) _ = _
    rw [if_pos s.isSemicolon]
    rfl
  have fails (t : Token) (mem : t ∈ s.body) (v : Surround) (ts : List Token) (nextId : NodeId)
      (noted : List SyntaxError) :
      Parse.expectSymbol .semicolon place (v.cursor (t :: ts) nextId noted) =
        .done (.error ⟨t, .missing (.symbol .semicolon place)⟩,
          v.cursor (t :: ts) nextId noted) := by
    change (if t.isSymbol .semicolon then Parse.advance >>= fun _ => pure t
      else Parse.missing _) _ = _
    rw [if_neg (by rw [isSymbol_of_mem mem]; exact Bool.false_ne_true)]
    rfl
  rintro _ _ ⟨_ | ⟨t, ts⟩, nextId, noted, within⟩
  · rw [List.nil_append, passes, passes]
    exact .done (.ok s.semicolon nextId noted)
  · have mem : t ∈ s.body := within.subset (List.mem_cons_self ..)
    rw [List.cons_append, fails t mem, fails t mem]
    exact .done (.error _ (.at (t :: ts) nextId noted within))

theorem closes_varDeclaration : s.Closes w w' Parser.varDeclaration := by
  have ends (name : Token) (initializer : Option Expr) : s.Closes w w' (do
      let _ ← Parse.expectSymbol .semicolon .afterVariable
      return Stmt.varDecl name initializer) :=
    .map (closes_expectSymbol _) fun _ => Stmt.varDecl name initializer
  refine .bind (local_expectName _) fun name => .bind (local_accept (by decide)) fun _ => ?_
  split
  · exact .bind (.bind (local_ask .expression) fun _ => local_pure _) fun _ => ends name _
  · exact .bind (local_pure _) fun _ => ends name _

theorem closes_expressionStatement : s.Closes w w' Parser.expressionStatement :=
  .bind (local_ask .expression) fun _ => .map (closes_expectSymbol _) _

theorem local_optionalExpression (terminator : Symbol) :
    s.Local w w' Eq (Parser.optionalExpression terminator) :=
  .bind (local_sees _) fun _ =>
    local_ite (local_pure _) (.bind (local_ask .expression) fun _ => local_pure _)

theorem settles_bind {job : Parse β} {next : β → Parse (Parser.Step .statement)}
    (h : s.Local w w' Eq job) (h' : ∀ b, s.Alongside w w' (s.Settled w w') (next b)) :
    s.Alongside w w' (s.Settled w w') (job >>= next) :=
  .seq h (fun _ _ _ => .error _) h'

/-- A treatment ends when the statement has been read to its end. -/
theorem settles_finish {job : Parse α} (h : s.Closes w w' job) (f : α → Stmt) :
    s.Alongside w w' (s.Settled w w') (job >>= fun a => Parser.finish (p := .statement) (f a)) := by
  intro c c' abreast
  refine Routine.Similar.bind (h c c' abreast) fun _ _ closed => ?_
  cases closed with
  | ok a nextId noted => exact .done (.finished (f a) nextId noted)
  | error e abreast => exact .done (.error e abreast)

theorem settles_statement : s.Alongside w w' (s.Settled w w') Parser.statement := by
  have plain : s.Alongside w w' (s.Settled w w')
      (Parser.expressionStatement >>= fun tree => Parser.finish (p := .statement) tree) :=
    settles_finish closes_expressionStatement id
  refine .peek ?_ fun t mem => ?_
  · rw [s.kind_semicolon]
    exact plain
  · have isPlain := kind_of_mem mem
    split
    case h_3 =>
      exact .advance (settles_bind (local_ask .expression) fun _ =>
        settles_finish (closes_expectSymbol _) _)
    case h_4 =>
      exact .advance (settles_bind (local_optionalExpression _) fun _ =>
        settles_finish (closes_expectSymbol _) _)
    case h_7 => exact .of_alongside plain
    all_goals exact absurd ‹t.kind = _› (by simp_all)

theorem settles_declaration : s.Alongside w w' (s.Settled w w') Parser.declaration := by
  have plain : s.Alongside w w' (s.Settled w w') (Parser.handOver .statement) :=
    fun _ _ abreast => .done (.statement abreast)
  refine .peek ?_ fun t mem => ?_
  · rw [s.kind_semicolon]
    exact plain
  · have isPlain := kind_of_mem mem
    split
    case h_3 => exact .advance (settles_finish closes_varDeclaration id)
    case h_4 => exact .of_alongside plain
    all_goals exact absurd ‹t.kind = _› (by simp_all)

/-! ### Declarations -/

/-- What has an outcome in one surrounding has a related one in another. -/
theorem Alongside.exists_meaning {job : Parse α} (h : s.Alongside w w' R job) {c c' : Cursor}
    (abreast : s.Abreast w w' c c') {n : Nat} {x : Except SyntaxError α × Cursor}
    (result : Job.meaning Parser.step n job c = some x) :
    ∃ m x', Job.meaning Parser.step m job c' = some x' ∧ R x x' := by
  obtain ⟨moves, isRun⟩ := (Job.exists_run_iff Parser.step).2 ⟨n, result⟩
  have related := Routine.Similar.run respects_step (h c c' abreast) moves
  rw [show Routine.run _ moves (job c) = some x from isRun] at related
  cases isRun' : Routine.run (Job.body Parser.step) moves (job c') with
  | none =>
    rw [isRun'] at related
    cases related
  | some x' =>
    rw [isRun'] at related
    cases related with
    | some isRelated =>
      obtain ⟨m, result'⟩ := (Job.exists_run_iff Parser.step).1 ⟨moves, isRun'⟩
      exact ⟨m, x', result', isRelated⟩

/-- A request is answered alike in two surroundings if its treatment settles, and that of the
statement to which it may be handed over does. -/
theorem Abreast.exists_answer {n : Nat} {r : Request .statement} {c c' : Cursor}
    (abreast : s.Abreast w w' c c')
    (settles : s.Alongside w w' (s.Settled w w') (Parser.step .statement r))
    {x : Except SyntaxError Stmt × Cursor} (answered : Job.answer Parser.step n r c = some x) :
    ∃ m x', Job.answer Parser.step m r c' = some x' ∧ s.Closed w w' x x' := by
  induction n generalizing r c c' with
  | zero => cases answered
  | succ n ih =>
    rw [Job.answer_succ] at answered
    obtain ⟨y, result, ends⟩ := Option.bind_eq_some_iff.1 answered
    obtain ⟨m, y', result', settled⟩ := settles.exists_meaning abreast result
    cases settled with
    | finished tree nextId noted =>
      cases ends
      exact ⟨m + 1, _, by rw [Job.answer_succ, result']; rfl, .ok tree nextId noted⟩
    | error e abreast' =>
      cases ends
      exact ⟨m + 1, _, by rw [Job.answer_succ, result']; rfl, .error e abreast'⟩
    | statement abreast' =>
      obtain ⟨l, x', answered', closed⟩ := ih abreast' settles_statement ends
      refine ⟨max l m + 1, x', ?_, closed⟩
      rw [Job.answer_succ, Job.meaning_mono Parser.step (Nat.le_max_right l m) result']
      exact Job.answer_mono Parser.step (Nat.le_max_left l m) answered'

/-- A declaration is read alike in two surroundings. -/
theorem Abreast.exists_answers {c c' : Cursor} (abreast : s.Abreast w w' c c')
    {x : Except SyntaxError Stmt × Cursor}
    (answered : Routine.Answers (Job.body Parser.step) ((.declaration : Request .statement), c) x) :
    ∃ x', Routine.Answers (Job.body Parser.step) ((.declaration : Request .statement), c') x' ∧
      s.Closed w w' x x' := by
  obtain ⟨n, answered⟩ := answered
  obtain ⟨m, x', answered', closed⟩ := abreast.exists_answer settles_declaration answered
  exact ⟨x', ⟨m, answered'⟩, closed⟩

end Segment

end Lox
