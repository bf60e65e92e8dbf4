import Lox.Tree.Basic

/-!
# The constants of a tree

## Main definitions

* `Expr.constants`, `Stmt.constants`, `FunctionDecl.constants`: the constants that are written in a
  tree, from left to right.
* `Literal.isPlain`: constants that are printed as no other tree is.
-/

namespace Lox

/-- A constant is plain if it is neither a string nor an infinity. The text of a string may be any
text, and an infinity is printed like a name. -/
def Literal.isPlain : Literal → Bool
  | .number x =>
    match Number.binary x with
    | .infinite _ => false
    | _ => true
  | .string _ => false
  | .boolean _ | .nil => true

mutual

/-- The constants in an expression. -/
def Expr.constants : Expr → List Literal
  | .literal value _ => [value]
  | .grouping inner => inner.constants
  | .unary _ right => right.constants
  | .binary left _ right | .logical left _ right => left.constants ++ right.constants
  | .reference _ | .this _ | .super _ _ => []
  | .assign _ value => value.constants
  | .call callee _ arguments => callee.constants ++ Expr.constantsOfList arguments
  | .get object _ => object.constants
  | .set object _ value => object.constants ++ value.constants

/-- The constants in some expressions. -/
def Expr.constantsOfList : List Expr → List Literal
  | [] => []
  | e :: es => e.constants ++ Expr.constantsOfList es

end

/-- The constants in an optional expression. -/
def Expr.constantsOfOption : Option Expr → List Literal
  | none => []
  | some e => e.constants

mutual

/-- The constants in a statement. -/
def Stmt.constants : Stmt → List Literal
  | .block body => Stmt.constantsOfList body
  | .classDecl _ _ methods => FunctionDecl.constantsOfList methods
  | .expression value | .print value => value.constants
  | .functionDecl declaration => declaration.constants
  | .conditional condition thenBranch elseBranch =>
    condition.constants ++ thenBranch.constants ++ Stmt.constantsOfOption elseBranch
  | .ret _ value | .varDecl _ value => Expr.constantsOfOption value
  | .loop condition body => condition.constants ++ body.constants

/-- The constants in some statements. -/
def Stmt.constantsOfList : List Stmt → List Literal
  | [] => []
  | s :: ss => s.constants ++ Stmt.constantsOfList ss

/-- The constants in an optional statement. -/
def Stmt.constantsOfOption : Option Stmt → List Literal
  | none => []
  | some s => s.constants

/-- The constants in a function. -/
def FunctionDecl.constants : FunctionDecl → List Literal
  | ⟨_, _, body⟩ => Stmt.constantsOfList body

/-- The constants in some functions. -/
def FunctionDecl.constantsOfList : List FunctionDecl → List Literal
  | [] => []
  | d :: ds => d.constants ++ FunctionDecl.constantsOfList ds

end

end Lox
