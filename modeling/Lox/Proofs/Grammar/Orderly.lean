import Lox.Proofs.Grammar.Derivation
import Lox.Proofs.Tree.Contents
import Lox.Proofs.Tree.Formed

/-!
# Declarations stand in lists of declarations

The grammar has no declarations as branches of conditional statements or as bodies of loops. So in a
tree that is derived, from whatever tokens, what declares a name stands directly in a block, in the
body of a function, or at the top level.

## Main definitions

* `Stmt.Orderly`: no branch and no body of a loop in a statement declares a name.
* `Grammar.Nonterminal.Orderly`: what this means for the trees of each sort of phrases.

## Main results

* `Grammar.Derives.orderly`: derived trees are orderly.
-/

namespace Lox

/-- Neither a branch of a statement nor one of a statement inside it declares a name. -/
inductive Stmt.Orderly : Stmt → Prop
  | mk {s : Stmt} (plain : ∀ s', s.Branch s' → s'.declared? = none)
      (contents : ∀ s', s.Contains s' → s'.Orderly) : s.Orderly

namespace Stmt

theorem orderly_block {body : List Stmt} (h : ∀ s ∈ body, s.Orderly) :
    (Stmt.block body).Orderly := by
  refine .mk nofun fun s inner => ?_
  cases inner with
  | block mem => exact h s mem

theorem orderly_classDecl {name : Token} {superclass : Option Occurrence}
    {methods : List FunctionDecl} (h : ∀ d ∈ methods, ∀ s ∈ d.body, s.Orderly) :
    (Stmt.classDecl name superclass methods).Orderly := by
  refine .mk nofun fun s inner => ?_
  cases inner with
  | method declared mem => exact h _ declared s mem

theorem orderly_functionDecl {d : FunctionDecl} (h : ∀ s ∈ d.body, s.Orderly) :
    (Stmt.functionDecl d).Orderly := by
  refine .mk nofun fun s inner => ?_
  cases inner with
  | function mem => exact h s mem

theorem orderly_conditional {condition : Expr} {thenBranch : Stmt} {elseBranch : Option Stmt}
    (isThen : thenBranch.Orderly ∧ thenBranch.declared? = none)
    (isElse : ∀ s, elseBranch = some s → s.Orderly ∧ s.declared? = none) :
    (Stmt.conditional condition thenBranch elseBranch).Orderly := by
  refine .mk (fun s branch => ?_) fun s inner => ?_
  · cases branch with
    | thenBranch => exact isThen.2
    | elseBranch => exact (isElse s rfl).2
  · cases inner with
    | thenBranch => exact isThen.1
    | elseBranch => exact (isElse s rfl).1

theorem orderly_loop {condition : Expr} {body : Stmt}
    (isBody : body.Orderly ∧ body.declared? = none) : (Stmt.loop condition body).Orderly := by
  refine .mk (fun s branch => ?_) fun s inner => ?_
  · cases branch with
    | loop => exact isBody.2
  · cases inner with
    | loop => exact isBody.1

end Stmt

namespace Grammar

/-- The statements in the trees of a sort of phrases are orderly; those that are derived as
statements declare nothing. -/
def Nonterminal.Orderly : (n : Nonterminal) → n.Tree → Prop
  | .program, p | .declarations, p => ∀ s ∈ p, s.Orderly
  | .declaration, s | .classDecl, s | .varDecl, s => s.Orderly
  | .functions, ds => ∀ d ∈ ds, ∀ s ∈ d.body, s.Orderly
  | .function, d => ∀ s ∈ d.body, s.Orderly
  | .statement _, s => s.Orderly ∧ s.declared? = none
  | .forInit, s => ∀ s', s = some s' → s'.Orderly
  | .parameters, _ | .names, _ | .optional, _ | .arguments, _ | .values, _ => True
  | .expression _, _ => True

/-- Loops are orderly if their parts are. -/
theorem orderly_forLoop {keyword : Token} {initializer : Option Stmt}
    {condition increment : Option Expr} {body : Stmt}
    (isInitializer : ∀ s, initializer = some s → s.Orderly)
    (isBody : body.Orderly ∧ body.declared? = none) :
    (forLoop keyword initializer condition increment body).Orderly ∧
      (forLoop keyword initializer condition increment body).declared? = none := by
  have round : (increment.elim body fun e => .block [body, .expression e]).Orderly ∧
      (increment.elim body fun e => .block [body, .expression e]).declared? = none := by
    cases increment with
    | none => exact isBody
    | some e =>
      refine ⟨Stmt.orderly_block ?_, rfl⟩
      rw [List.forall_mem_cons, List.forall_mem_singleton]
      exact ⟨isBody.1, .mk nofun nofun⟩
  cases initializer with
  | none => exact ⟨Stmt.orderly_loop round, rfl⟩
  | some s =>
    refine ⟨Stmt.orderly_block ?_, rfl⟩
    rw [List.forall_mem_cons, List.forall_mem_singleton]
    exact ⟨isInitializer s rfl, Stmt.orderly_loop round⟩

/-- Derived trees are orderly. -/
theorem Derives.orderly {n : Nonterminal} {ts : List Token} {tree : n.Tree}
    (h : Derives n ts tree) : n.Orderly tree := by
  induction h with
  | program _ _ ih => exact ih
  | noDeclarations => exact nofun
  | declarations _ _ ih ih' => exact List.forall_mem_cons.2 ⟨ih, ih'⟩
  | classDeclaration _ _ ih => exact ih
  | functionDeclaration _ _ ih => exact Stmt.orderly_functionDecl ih
  | varDeclaration _ _ ih => exact ih
  | statement _ ih => exact ih.1
  | base _ _ _ _ ih => exact Stmt.orderly_classDecl ih
  | derived _ _ _ _ _ _ ih => exact Stmt.orderly_classDecl ih
  | noFunctions => exact nofun
  | functions _ _ ih ih' => exact List.forall_mem_cons.2 ⟨ih, ih'⟩
  | function _ _ _ _ _ _ _ _ ih => exact ih
  | declared | initialized => exact .mk nofun nofun
  | forLoop _ _ _ _ _ _ _ _ ih _ _ ihBody => exact orderly_forLoop ih ihBody
  | ifThen _ _ _ _ _ _ ih => exact ⟨Stmt.orderly_conditional ih nofun, rfl⟩
  | ifThenElse _ _ _ _ _ _ _ _ ih ih' =>
    refine ⟨Stmt.orderly_conditional ih ?_, rfl⟩
    rintro _ ⟨⟩
    exact ih'
  | print | returns | effect => exact ⟨.mk nofun nofun, rfl⟩
  | whileLoop _ _ _ _ _ _ ih => exact ⟨Stmt.orderly_loop ih, rfl⟩
  | block _ _ _ ih => exact ⟨Stmt.orderly_block ih, rfl⟩
  | forNothing => exact nofun
  | forVar _ _ ih =>
    rintro _ ⟨⟩
    exact ih
  | forEffect =>
    rintro _ ⟨⟩
    exact .mk nofun nofun
  | _ => trivial

end Grammar

end Lox
