import Lox.Proofs.Session.Source

/-!
# Reading an expression

An expression is bound to scopes as it is in a statement that prints it, and reading it leaves
behind what reading that statement would.

## Main results

* `Scope.programEvents_print`: what binding an expression to scopes comes across.
* `Interpreter.loadExpr_of_ok`, `Interpreter.loadExpr_of_error`: how the reading of an expression
  ends, and what it leaves behind.
* `Interpreter.exists_loadExpr`: only the table and the number of the next occurrence change.
-/

namespace Lox

namespace Scope

/-- A statement that prints comes across what its expression does. -/
theorem programEvents_print (e : Expr) : programEvents [.print e] = expressionEvents e := by
  unfold programEvents
  rw [List.map_cons, List.map_nil, stmt, Traversal.toList_node, Traversal.toList_nil,
    List.append_nil]
  rfl

/-- A statement that prints numbers what its expression does. -/
theorem siteIds_print (e : Expr) : siteIds [.print e] = e.ids := by
  rw [siteIds, programEvents_print]
  rfl

end Scope

namespace Interpreter

open Scope

variable {i : Interpreter} {source : String} {tokens : List Token} {e : Expr}

/-- A source that cannot be cut into tokens. -/
theorem loadExpr_of_lexical {errors : List LexError} (isError : tokenize source = .error errors) :
    i.loadExpr source = (.error (errors.map .lexical), i) := by
  rw [loadExpr, parseExpr, isError]

/-- Tokens that are no expression. -/
theorem loadExpr_of_error {errors : List SyntaxError} (isTokens : tokenize source = .ok tokens)
    (isError : (parseExpression tokens i.nextId).1 = .error errors) :
    i.loadExpr source = (.error (errors.map .grammatical),
      i.retabled (parseExpression tokens i.nextId).2 i.distances) := by
  unfold loadExpr parseExpr
  rw [isTokens]
  rcases isParsed : parseExpression tokens i.nextId with ⟨result, n⟩
  rw [isParsed] at isError
  cases isError
  dsimp only
  rw [isParsed]
  rfl

/-- Tokens that are an expression, which is then bound to scopes. -/
theorem loadExpr_of_ok (isTokens : tokenize source = .ok tokens)
    (isTree : (parseExpression tokens i.nextId).1 = .ok e) :
    i.loadExpr source =
      (match (analyse (expressionEvents e)).errors with
        | [] => .ok e
        | errors => .error (errors.map .scoping),
      i.adopted (parseExpression tokens i.nextId).2 [.print e]) := by
  unfold loadExpr parseExpr
  rw [isTokens]
  rcases isParsed : parseExpression tokens i.nextId with ⟨result, n⟩
  rw [isParsed] at isTree
  cases isTree
  dsimp only
  rw [isParsed]
  dsimp only [Except.mapError, bindExpr, adopt, adopted]
  rw [programEvents_print]
  cases (analyse (expressionEvents e)).errors <;> rfl

/-- Reading an expression changes the table and the number of the next occurrence only. -/
theorem exists_loadExpr (i : Interpreter) (source : String) :
    ∃ n table, (i.loadExpr source).2 = i.retabled n table := by
  cases isTokens : tokenize source with
  | error errors =>
    rw [loadExpr_of_lexical isTokens]
    exact ⟨i.nextId, i.distances, rfl⟩
  | ok tokens =>
    cases isTree : (parseExpression tokens i.nextId).1 with
    | error errors =>
      rw [loadExpr_of_error isTokens isTree]
      exact ⟨_, _, rfl⟩
    | ok e =>
      rw [loadExpr_of_ok isTokens isTree]
      exact ⟨_, _, rfl⟩

end Interpreter

end Lox
