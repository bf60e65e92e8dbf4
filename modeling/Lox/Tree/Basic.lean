import Lox.Token.Basic

/-!
# Syntax trees

Programs are lists of statements. Every place in a tree where the meaning of a name is looked up, an
*occurrence*, has a number of its own; two occurrences of one name may mean different things.

## Main definitions

* `Occurrence`, `Literal`, `Expr`: expressions.
* `Stmt`, `FunctionDecl`: statements and the functions they declare.
* `Node`: a part of a tree of any of the three sorts; `Node.size` counts what it is made of.
* `Expr.line`: the line that a message about an expression names.
-/

namespace Lox

/-- The number of an occurrence. -/
abbrev NodeId : Type :=
  Nat

/-- A place where a name is looked up. -/
structure Occurrence where
  id : NodeId
  name : Token
  deriving Inhabited

/-- The constants that can be written in a source. -/
inductive Literal where
  | number (x : Float)
  | string (s : String)
  | boolean (b : Bool)
  | nil
  deriving Inhabited

/-- Expressions. Operators, names of properties and the closing parenthesis of a call are kept as
tokens, since messages name their lines. -/
inductive Expr where
  | literal (value : Literal) (line : Nat)
  | grouping (inner : Expr)
  | unary (operator : Token) (right : Expr)
  | binary (left : Expr) (operator : Token) (right : Expr)
  /-- An operator that may leave its right operand unevaluated. -/
  | logical (left : Expr) (operator : Token) (right : Expr)
  | reference (name : Occurrence)
  | assign (name : Occurrence) (value : Expr)
  | call (callee : Expr) (paren : Token) (arguments : List Expr)
  | get (object : Expr) (property : Token)
  | set (object : Expr) (property : Token) (value : Expr)
  | this (keyword : Occurrence)
  /-- A method looked up above the class of the running method. -/
  | super (keyword : Occurrence) (method : Token)
  deriving Inhabited

mutual

/-- Statements. -/
inductive Stmt where
  | block (body : List Stmt)
  | classDecl (name : Token) (superclass : Option Occurrence) (methods : List FunctionDecl)
  | expression (value : Expr)
  | functionDecl (declaration : FunctionDecl)
  | conditional (condition : Expr) (thenBranch : Stmt) (elseBranch : Option Stmt)
  | print (value : Expr)
  | ret (keyword : Token) (value : Option Expr)
  | varDecl (name : Token) (initializer : Option Expr)
  | loop (condition : Expr) (body : Stmt)

/-- The declaration of a function or a method. -/
structure FunctionDecl where
  name : Token
  params : List Token
  body : List Stmt

end

instance : Inhabited Stmt := ⟨.block []⟩

instance : Inhabited FunctionDecl := ⟨⟨default, [], []⟩⟩

/-- The line that stands for an expression in messages. -/
def Expr.line : Expr → Nat
  | .literal _ line => line
  | .grouping inner => inner.line
  | .unary operator _ => operator.line
  | .binary _ operator _ => operator.line
  | .logical _ operator _ => operator.line
  | .reference name => name.name.line
  | .assign name _ => name.name.line
  | .call _ paren _ => paren.line
  | .get _ property => property.line
  | .set _ property _ => property.line
  | .this keyword => keyword.name.line
  | .super keyword _ => keyword.name.line

/-! ### Sizes -/

mutual

/-- The number of expressions that an expression is made of. -/
def Expr.size : Expr → Nat
  | .literal .. | .reference .. | .this .. | .super .. => 1
  | .grouping inner => inner.size + 1
  | .unary _ right => right.size + 1
  | .binary left _ right => left.size + right.size + 1
  | .logical left _ right => left.size + right.size + 1
  | .assign _ value => value.size + 1
  | .call callee _ arguments => callee.size + Expr.sizes arguments + 1
  | .get object _ => object.size + 1
  | .set object _ value => object.size + value.size + 1

/-- The number of expressions that all the given ones are made of. -/
def Expr.sizes : List Expr → Nat
  | [] => 0
  | e :: es => e.size + Expr.sizes es

end

/-- The size of an optional expression. -/
def Expr.optionSize : Option Expr → Nat
  | none => 0
  | some e => e.size

mutual

/-- The number of statements, declarations and expressions that a statement is made of. -/
def Stmt.size : Stmt → Nat
  | .block body => Stmt.sizes body + 1
  | .classDecl _ _ methods => FunctionDecl.sizes methods + 2
  | .expression value => value.size + 1
  | .functionDecl declaration => declaration.size + 1
  | .conditional condition thenBranch elseBranch =>
    condition.size + thenBranch.size + Stmt.optionSize elseBranch + 1
  | .print value => value.size + 1
  | .ret _ value => Expr.optionSize value + 1
  | .varDecl _ initializer => Expr.optionSize initializer + 1
  | .loop condition body => condition.size + body.size + 1

/-- The size of a list of statements. -/
def Stmt.sizes : List Stmt → Nat
  | [] => 0
  | s :: ss => s.size + Stmt.sizes ss

/-- The size of an optional statement. -/
def Stmt.optionSize : Option Stmt → Nat
  | none => 0
  | some s => s.size

/-- The size of a function. -/
def FunctionDecl.size : FunctionDecl → Nat
  | ⟨_, _, body⟩ => Stmt.sizes body + 1

/-- The size of a list of functions. -/
def FunctionDecl.sizes : List FunctionDecl → Nat
  | [] => 0
  | d :: ds => d.size + FunctionDecl.sizes ds

end

/-! ### Parts of a tree -/

/-- A part of a tree. -/
inductive Node where
  | expression (e : Expr)
  | statement (s : Stmt)
  | function (d : FunctionDecl)

/-- The size of a part. -/
def Node.size : Node → Nat
  | .expression e => e.size
  | .statement s => s.size
  | .function d => d.size

end Lox
