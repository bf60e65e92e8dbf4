import Lox.Tree.Parser.Grammar

/-!
# From tokens to trees

A list of tokens is read as a program or as one expression. The number of moves that reading takes
is bounded by a multiple of the number of tokens, so both functions always have a result.

## Main definitions

* `parseProgram`, `parseExpression`: the tree of a list of tokens, or its syntax errors.
-/

namespace Lox

namespace Parser

/-- A number of moves that is enough to read the given tokens: at most a hundred for each. -/
def moves (tokens : List Token) : Nat :=
  100 * (tokens.length + 2)

/-- The outcome of a computation from the beginning of a list of tokens, and the number of the next
occurrence. Any recorded error is an error of the whole; they are given in the order found. -/
def run {α : Type} (parse : Parse α) (tokens : List Token) (nextId : NodeId) :
    Except (List SyntaxError) α × NodeId :=
  match Job.run step (moves tokens) parse (.ofTokens tokens nextId) with
  | none => (.error [], nextId)
  | some (.error e, cursor) => (.error [e], cursor.nextId)
  | some (.ok tree, cursor) =>
    match cursor.errors with
    | [] => (.ok tree, cursor.nextId)
    | errors => (.error errors.reverse, cursor.nextId)

/-- Read an expression that has to reach to the end of the input. An error noted before counts
more than one at the end. -/
def wholeExpression : Parse Expr := do
  let e ← Parse.ask .expression
  match (← get).errors.getLast? with
  | some noted => throw noted
  | none =>
    if ← Parse.atEnd then return e else Parse.missing .endOfExpression

end Parser

/-- The program that a list of tokens is read as, or all its syntax errors, with the number of the
next occurrence. -/
def parseProgram (tokens : List Token) (nextId : NodeId) :
    Except (List SyntaxError) (List Stmt) × NodeId :=
  Parser.run (Parse.ask .program) tokens nextId

/-- The expression that a list of tokens is read as, or its first syntax error, with the number of
the next occurrence. -/
def parseExpression (tokens : List Token) (nextId : NodeId) :
    Except (List SyntaxError) Expr × NodeId :=
  Parser.run Parser.wholeExpression tokens nextId

end Lox
