import Lox.Proofs.Grammar.Soundness
import Lox.Proofs.Grammar.Written
import Lox.Session

/-!
# The printed form of a source

Two sources whose trees are printed in the same way have the same trees, but for the numbers of
occurrences and the lines. Strings and infinities have to be left out, since their texts may be
those of other trees.

## Main results

* `Interpreter.alike_of_printed`: the printed form of a program or an expression determines its
  tree.
-/

namespace Lox

/-- The tokens that a source is read by have the texts of their kinds. -/
theorem lexical_readable {source : String} {tokens : List Token}
    (isTokens : tokenize source = .ok tokens) : Grammar.Lexical (readable tokens) := by
  intro t mem
  have notEnd := List.mem_takeWhile_imp mem
  have inside := (List.takeWhile_prefix _).subset mem
  refine (itemized_scan source).lexes ?_ (by simpa using notEnd)
  rw [Item.gather_eq_ok_iff.1 isTokens]
  exact List.mem_map_of_mem inside

namespace Interpreter

variable {i : Interpreter} {source : String}

/-- A program whose constants are plain is written. -/
theorem written_of_parse {p : List Stmt} (isParsed : (i.parse source).1 = .ok p)
    (plain : ∀ v ∈ Stmt.constantsOfList p, v.isPlain = true) : ∀ s ∈ p, s.Written := by
  cases isTokens : tokenize source with
  | error errors =>
    rw [parse, isTokens] at isParsed
    cases isParsed
  | ok tokens =>
    have isProgram : (parseProgram tokens i.nextId).1 = .ok p := by
      rw [parse, isTokens] at isParsed
      dsimp only [parseTokens] at isParsed
      cases isResult : (parseProgram tokens i.nextId).1 with
      | error errors => rw [isResult] at isParsed; cases isParsed
      | ok p' => rw [isResult] at isParsed; cases isParsed; rfl
    exact (derives_of_parseProgram isProgram).1.written (lexical_readable isTokens) plain

/-- An expression whose constants are plain is written. -/
theorem written_of_parseExpr {e : Expr} (isParsed : (i.parseExpr source).1 = .ok e)
    (plain : ∀ v ∈ e.constants, v.isPlain = true) : e.Written := by
  cases isTokens : tokenize source with
  | error errors =>
    rw [parseExpr, isTokens] at isParsed
    cases isParsed
  | ok tokens =>
    have isTree : (parseExpression tokens i.nextId).1 = .ok e := by
      rw [parseExpr, isTokens] at isParsed
      dsimp only at isParsed
      cases isResult : (parseExpression tokens i.nextId).1 with
      | error errors => rw [isResult] at isParsed; cases isParsed
      | ok e' => rw [isResult] at isParsed; cases isParsed; rfl
    exact (derives_of_parseExpression isTree).written (lexical_readable isTokens) plain

/-- The printed form of a program determines it up to the numbers of occurrences and the lines, and
so does that of an expression, unless there are strings or infinities in them. -/
theorem alike_of_printed (i j : Interpreter) (source source' : String) :
    (∀ p q : List Stmt, (i.parse source).1 = .ok p → (j.parse source').1 = .ok q →
      (∀ v ∈ Stmt.constantsOfList p, v.isPlain = true) →
      (∀ v ∈ Stmt.constantsOfList q, v.isPlain = true) →
      printedProgram p = printedProgram q → List.Forall₂ (Stmt.Alike .any) p q) ∧
    ∀ e e' : Expr, (i.parseExpr source).1 = .ok e → (j.parseExpr source').1 = .ok e' →
      (∀ v ∈ e.constants, v.isPlain = true) → (∀ v ∈ e'.constants, v.isPlain = true) →
      e.printed = e'.printed → e.Alike .any e' :=
  ⟨fun _ _ isParsed isParsed' plain plain' =>
    Stmt.Written.alike_of_print_eq (written_of_parse isParsed plain)
      (written_of_parse isParsed' plain'),
    fun _ _ isParsed isParsed' plain plain' =>
    (written_of_parseExpr isParsed plain).alike_of_print_eq (written_of_parseExpr isParsed' plain')⟩

/-- A variable that is negated in each round of a loop without end: its declaration on one line, the
loop on another, with the numbers of the occurrences in the order of the tree. -/
def flipLoop (first line : Nat) (n₁ n₂ n₃ n₄ : NodeId) : List Stmt :=
  let a (n : NodeId) : Occurrence := ⟨n, ⟨.identifier, "a", line⟩⟩
  [.block [.varDecl ⟨.identifier, "a", first⟩ none,
    .loop (.literal (.boolean true) line)
      (.block [.expression (.set (.reference (a n₁)) ⟨.identifier, "b", line⟩ (.reference (a n₂))),
        .expression (.assign (a n₃) (.unary ⟨.symbol .minus, "-", line⟩ (.reference (a n₄))))])]]

theorem printed_flipLoop (first line : Nat) (n₁ n₂ n₃ n₄ : NodeId) :
    printedProgram (flipLoop first line n₁ n₂ n₃ n₄) =
      "(block (var a) (while true (block (; (= (. a b) a)) (; (= a (- a))))))" := by
  cbv

/-- The constant `true`, negated and assigned to a variable on another line. -/
def flipValue (line : Nat) : Expr :=
  .assign ⟨1, ⟨.identifier, "a", 1⟩⟩
    (.unary ⟨.symbol .minus, "-", line⟩ (.literal (.boolean true) line))

theorem printed_flipValue (line : Nat) : (flipValue line).printed = "(= a (- true))" := by
  cbv

/-- A `for` statement and the block with a `while` statement that it stands for, and an assignment
on one line and on two. -/
theorem alike_of_printed_loop :
    let i := start .unlimited fun _ => .ok 0
    let source := "for (var a;; a = -a) a.b = a;"
    let source' := "\x7b var a;\nwhile (true) \x7b a.b = a; a = -a; \x7d \x7d"
    (∃ p q, (i.parse source).1 = .ok p ∧ (i.parse source').1 = .ok q ∧
      printedProgram p =
        "(block (var a) (while true (block (; (= (. a b) a)) (; (= a (- a))))))" ∧
      List.Forall₂ (Stmt.Alike .any) p q) ∧
    ∃ e e', (i.parseExpr "a = -true").1 = .ok e ∧ (i.parseExpr "a =\n-true").1 = .ok e' ∧
      e.printed = "(= a (- true))" ∧ e.Alike .any e' := by
  intro i source source'
  have isTokens : tokenize source = .ok [⟨.keyword .for_, "for", 1⟩,
      ⟨.symbol .leftParen, "(", 1⟩, ⟨.keyword .var_, "var", 1⟩, ⟨.identifier, "a", 1⟩,
      ⟨.symbol .semicolon, ";", 1⟩, ⟨.symbol .semicolon, ";", 1⟩, ⟨.identifier, "a", 1⟩,
      ⟨.symbol .equal, "=", 1⟩, ⟨.symbol .minus, "-", 1⟩, ⟨.identifier, "a", 1⟩,
      ⟨.symbol .rightParen, ")", 1⟩, ⟨.identifier, "a", 1⟩, ⟨.symbol .dot, ".", 1⟩,
      ⟨.identifier, "b", 1⟩, ⟨.symbol .equal, "=", 1⟩, ⟨.identifier, "a", 1⟩,
      ⟨.symbol .semicolon, ";", 1⟩, ⟨.endOfInput, "", 1⟩] := by
    cbv
  have isTokens' : tokenize source' = .ok [⟨.symbol .leftBrace, "\x7b", 1⟩,
      ⟨.keyword .var_, "var", 1⟩, ⟨.identifier, "a", 1⟩, ⟨.symbol .semicolon, ";", 1⟩,
      ⟨.keyword .while_, "while", 2⟩, ⟨.symbol .leftParen, "(", 2⟩, ⟨.keyword .true_, "true", 2⟩,
      ⟨.symbol .rightParen, ")", 2⟩, ⟨.symbol .leftBrace, "\x7b", 2⟩, ⟨.identifier, "a", 2⟩,
      ⟨.symbol .dot, ".", 2⟩, ⟨.identifier, "b", 2⟩, ⟨.symbol .equal, "=", 2⟩,
      ⟨.identifier, "a", 2⟩, ⟨.symbol .semicolon, ";", 2⟩, ⟨.identifier, "a", 2⟩,
      ⟨.symbol .equal, "=", 2⟩, ⟨.symbol .minus, "-", 2⟩, ⟨.identifier, "a", 2⟩,
      ⟨.symbol .semicolon, ";", 2⟩, ⟨.symbol .rightBrace, "\x7d", 2⟩,
      ⟨.symbol .rightBrace, "\x7d", 2⟩, ⟨.endOfInput, "", 2⟩] := by
    cbv
  have isTokens'' : tokenize "a = -true" = .ok [⟨.identifier, "a", 1⟩, ⟨.symbol .equal, "=", 1⟩,
      ⟨.symbol .minus, "-", 1⟩, ⟨.keyword .true_, "true", 1⟩, ⟨.endOfInput, "", 1⟩] := by
    cbv
  have isTokens''' : tokenize "a =\n-true" = .ok [⟨.identifier, "a", 1⟩, ⟨.symbol .equal, "=", 1⟩,
      ⟨.symbol .minus, "-", 2⟩, ⟨.keyword .true_, "true", 2⟩, ⟨.endOfInput, "", 2⟩] := by
    cbv
  have isParsed : (i.parse source).1 = .ok (flipLoop 1 1 3 4 2 1) := by
    rw [parse, isTokens]
    rfl
  have isParsed' : (i.parse source').1 = .ok (flipLoop 1 2 0 1 4 3) := by
    rw [parse, isTokens']
    rfl
  have isParsedExpr : (i.parseExpr "a = -true").1 = .ok (flipValue 1) := by
    rw [parseExpr, isTokens'']
    rfl
  have isParsedExpr' : (i.parseExpr "a =\n-true").1 = .ok (flipValue 2) := by
    rw [parseExpr, isTokens''']
    rfl
  exact ⟨⟨_, _, isParsed, isParsed', printed_flipLoop .., (alike_of_printed i i source source').1
      _ _ isParsed isParsed' (by decide) (by decide)
        ((printed_flipLoop ..).trans (printed_flipLoop ..).symm)⟩,
    _, _, isParsedExpr, isParsedExpr', printed_flipValue 1, (alike_of_printed i i _ _).2 _ _
      isParsedExpr isParsedExpr' (by decide) (by decide)
      ((printed_flipValue 1).trans (printed_flipValue 2).symm)⟩

end Interpreter

end Lox
