import Lox.Tree.Basic

/-!
# Trees as the parser makes them

Not every tree is the tree of a program. Operators have to be those of the language, declared and
assigned names have to be ones that can be written, `this` and `super` have to be spelled, and
declarations stand in lists of declarations only. Trees with these properties are *formed*.

## Main definitions

* `Ordinary`: names that can be written as identifiers.
* `Stmt.declared?`: the name that a statement declares.
* `Expr.Formed`, `Stmt.Formed`, `FunctionDecl.Formed`: formed trees.
-/

namespace Lox

/-- A name that can be written as an identifier. -/
def Ordinary (name : String) : Prop :=
  name ≠ "this" ∧ name ≠ "super"

/-- The operators that take one operand. -/
def Token.IsUnary (t : Token) : Prop :=
  t.kind = .symbol .minus ∨ t.kind = .symbol .bang

/-- The operators whose two operands are both evaluated. -/
def Token.IsBinary (t : Token) : Prop :=
  ∃ s, t.kind = .symbol s ∧ s ∈ [Symbol.minus, .plus, .slash, .star, .bangEqual, .equalEqual,
    .greater, .greaterEqual, .less, .lessEqual]

/-- The name that a statement declares in the list in which it stands. -/
def Stmt.declared? : Stmt → Option String
  | .classDecl name _ _ => some name.lexeme
  | .functionDecl declaration => some declaration.name.lexeme
  | .varDecl name _ => some name.lexeme
  | _ => none

/-- Formed expressions. -/
inductive Expr.Formed : Expr → Prop
  | literal {value : Literal} {line : Nat} : Formed (.literal value line)
  | grouping {inner : Expr} (h : Formed inner) : Formed (.grouping inner)
  | unary {operator : Token} {right : Expr} (isUnary : operator.IsUnary) (h : Formed right) :
      Formed (.unary operator right)
  | binary {left right : Expr} {operator : Token} (isBinary : operator.IsBinary)
      (h : Formed left) (h' : Formed right) : Formed (.binary left operator right)
  | logical {left right : Expr} {operator : Token} (h : Formed left) (h' : Formed right) :
      Formed (.logical left operator right)
  | reference {name : Occurrence} (ordinary : Ordinary name.name.lexeme) :
      Formed (.reference name)
  | assign {name : Occurrence} {value : Expr} (ordinary : Ordinary name.name.lexeme)
      (h : Formed value) : Formed (.assign name value)
  | call {callee : Expr} {paren : Token} {arguments : List Expr} (h : Formed callee)
      (h' : ∀ e ∈ arguments, Formed e) : Formed (.call callee paren arguments)
  | get {object : Expr} {property : Token} (h : Formed object) : Formed (.get object property)
  | set {object value : Expr} {property : Token} (h : Formed object) (h' : Formed value) :
      Formed (.set object property value)
  | this {keyword : Occurrence} (spelled : keyword.name.lexeme = "this") : Formed (.this keyword)
  | super {keyword : Occurrence} {method : Token} (spelled : keyword.name.lexeme = "super") :
      Formed (.super keyword method)

mutual

/-- Formed statements. -/
inductive Stmt.Formed : Stmt → Prop
  | block {body : List Stmt} (h : ∀ s ∈ body, Stmt.Formed s) : Stmt.Formed (.block body)
  | classDecl {name : Token} {superclass : Option Occurrence} {methods : List FunctionDecl}
      (ordinary : Ordinary name.lexeme)
      (above : ∀ o, superclass = some o → Ordinary o.name.lexeme)
      (h : ∀ d ∈ methods, FunctionDecl.Formed d) : Stmt.Formed (.classDecl name superclass methods)
  | expression {value : Expr} (h : value.Formed) : Stmt.Formed (.expression value)
  | functionDecl {d : FunctionDecl} (h : FunctionDecl.Formed d) : Stmt.Formed (.functionDecl d)
  | conditional {condition : Expr} {thenBranch : Stmt} {elseBranch : Option Stmt}
      (h : condition.Formed) (thenPlain : thenBranch.declared? = none)
      (hThen : Stmt.Formed thenBranch) (elsePlain : ∀ s, elseBranch = some s → s.declared? = none)
      (hElse : ∀ s, elseBranch = some s → Stmt.Formed s) :
      Stmt.Formed (.conditional condition thenBranch elseBranch)
  | print {value : Expr} (h : value.Formed) : Stmt.Formed (.print value)
  | ret {keyword : Token} {value : Option Expr} (h : ∀ e, value = some e → e.Formed) :
      Stmt.Formed (.ret keyword value)
  | varDecl {name : Token} {initializer : Option Expr} (ordinary : Ordinary name.lexeme)
      (h : ∀ e, initializer = some e → e.Formed) : Stmt.Formed (.varDecl name initializer)
  | loop {condition : Expr} {body : Stmt} (h : condition.Formed) (plain : body.declared? = none)
      (hBody : Stmt.Formed body) : Stmt.Formed (.loop condition body)

/-- Formed functions. -/
inductive FunctionDecl.Formed : FunctionDecl → Prop
  | mk {d : FunctionDecl} (named : Ordinary d.name.lexeme)
      (ordinary : ∀ t ∈ d.params, Ordinary t.lexeme) (h : ∀ s ∈ d.body, Stmt.Formed s) :
      FunctionDecl.Formed d

end

end Lox
