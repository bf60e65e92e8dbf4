import Lox.Tree.Basic

/-!
# Statements inside statements

## Main definitions

* `Stmt.Contains`: a statement stands directly inside another one.
* `Stmt.Branch`, `Stmt.Holds`: it does so in the same function.
* `Stmt.LoopFree`: neither a statement nor any statement inside it is a loop.
-/

namespace Lox

/-- A statement stands directly inside another one, or in the body of a function that the other one
declares. -/
inductive Stmt.Contains : Stmt → Stmt → Prop
  | block {body : List Stmt} {s : Stmt} (mem : s ∈ body) : Contains (.block body) s
  | method {name : Token} {superclass : Option Occurrence} {methods : List FunctionDecl}
      {d : FunctionDecl} {s : Stmt} (declared : d ∈ methods) (mem : s ∈ d.body) :
      Contains (.classDecl name superclass methods) s
  | function {d : FunctionDecl} {s : Stmt} (mem : s ∈ d.body) : Contains (.functionDecl d) s
  | thenBranch {condition : Expr} {s : Stmt} {elseBranch : Option Stmt} :
      Contains (.conditional condition s elseBranch) s
  | elseBranch {condition : Expr} {thenBranch s : Stmt} :
      Contains (.conditional condition thenBranch (some s)) s
  | loop {condition : Expr} {s : Stmt} : Contains (.loop condition s) s

/-- A statement is a branch of another one, or the body of a loop. -/
inductive Stmt.Branch : Stmt → Stmt → Prop
  | thenBranch {condition : Expr} {s : Stmt} {elseBranch : Option Stmt} :
      Branch (.conditional condition s elseBranch) s
  | elseBranch {condition : Expr} {thenBranch s : Stmt} :
      Branch (.conditional condition thenBranch (some s)) s
  | loop {condition : Expr} {s : Stmt} : Branch (.loop condition s) s

/-- A statement stands directly inside another one, in the same function. -/
inductive Stmt.Holds : Stmt → Stmt → Prop
  | block {body : List Stmt} {s : Stmt} (mem : s ∈ body) : Holds (.block body) s
  | branch {s s' : Stmt} (h : s.Branch s') : Holds s s'

/-- A statement is no loop, and no statement inside it is one. -/
inductive Stmt.LoopFree : Stmt → Prop
  | mk {s : Stmt} (noLoop : ∀ condition body, s ≠ .loop condition body)
      (contents : ∀ s', s.Contains s' → s'.LoopFree) : s.LoopFree

theorem Stmt.LoopFree.contents {s s' : Stmt} (h : s.LoopFree) (inner : s.Contains s') :
    s'.LoopFree := by
  cases h with
  | mk _ contents => exact contents s' inner

theorem Stmt.not_loopFree_loop {condition : Expr} {body : Stmt} :
    ¬ (Stmt.loop condition body).LoopFree := by
  rintro ⟨noLoop, -⟩
  exact noLoop condition body rfl

end Lox
