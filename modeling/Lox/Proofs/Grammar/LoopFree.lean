import Lox.Proofs.Grammar.Derivation
import Lox.Proofs.Tree.Contents

/-!
# Sources without loops

Loops are written with the keywords `while` and `for`, and in no other way. So the trees that are
derived from tokens without these keywords are free of loops.

## Main definitions

* `Token.Loopless`: a token is neither of the two keywords.
* `Grammar.Nonterminal.LoopFree`: the statements in the trees of each sort of phrases are no loops.

## Main results

* `Grammar.Derives.loopFree`: trees that are derived without the keywords of loops are free of
  loops.
-/

namespace Lox

/-- A token is neither of the keywords of loops. -/
def Token.Loopless (t : Token) : Prop :=
  t.kind ≠ .keyword .while_ ∧ t.kind ≠ .keyword .for_

namespace Grammar

/-- The statements in the trees of a sort of phrases are free of loops. -/
def Nonterminal.LoopFree : (n : Nonterminal) → n.Tree → Prop
  | .program, p | .declarations, p => ∀ s ∈ p, s.LoopFree
  | .declaration, s | .classDecl, s | .varDecl, s | .statement _, s => s.LoopFree
  | .functions, ds => ∀ d ∈ ds, ∀ s ∈ d.body, s.LoopFree
  | .function, d => ∀ s ∈ d.body, s.LoopFree
  | .parameters, _ | .names, _ | .forInit, _ | .optional, _ | .arguments, _ | .values, _
  | .expression _, _ => True

/-- Trees that are derived from tokens without the keywords of loops are free of loops. -/
theorem Derives.loopFree {n : Nonterminal} {ts : List Token} {tree : n.Tree} (h : Derives n ts tree)
    (loopless : ∀ t ∈ ts, t.Loopless) : n.LoopFree tree := by
  induction h with
  | program _ _ ih => exact ih fun t mem => loopless t (List.mem_append_left _ mem)
  | noDeclarations => exact nofun
  | declarations _ _ ih ih' =>
    rw [List.forall_mem_append] at loopless
    exact List.forall_mem_cons.2 ⟨ih loopless.1, ih' loopless.2⟩
  | classDeclaration _ _ ih => exact ih (List.forall_mem_cons.1 loopless).2
  | functionDeclaration _ _ ih =>
    refine .mk nofun fun s inner => ?_
    cases inner with
    | function mem => exact ih (List.forall_mem_cons.1 loopless).2 s mem
  | varDeclaration _ _ ih => exact ih (List.forall_mem_cons.1 loopless).2
  | statement _ ih => exact ih loopless
  | base _ _ _ _ ih =>
    simp only [List.forall_mem_cons, List.forall_mem_append] at loopless
    refine .mk nofun fun s inner => ?_
    cases inner with
    | method declared mem => exact ih loopless.2.2.1 _ declared s mem
  | derived _ _ _ _ _ _ ih =>
    simp only [List.forall_mem_cons, List.forall_mem_append] at loopless
    refine .mk nofun fun s inner => ?_
    cases inner with
    | method declared mem => exact ih loopless.2.2.2.2.1 _ declared s mem
  | noFunctions => exact nofun
  | functions _ _ ih ih' =>
    rw [List.forall_mem_append] at loopless
    exact List.forall_mem_cons.2 ⟨ih loopless.1, ih' loopless.2⟩
  | function _ _ _ _ _ _ _ _ ih =>
    simp only [List.forall_mem_cons, List.forall_mem_append] at loopless
    exact ih loopless.2.2.2.2.2.1
  | declared | initialized | print | returns | effect => exact .mk nofun nofun
  | forLoop isFor =>
    exact ((List.forall_mem_cons.1 loopless).1.2 (Token.isKeyword_iff.1 isFor)).elim
  | ifThen _ _ _ _ _ _ ih =>
    simp only [List.forall_mem_cons, List.forall_mem_append] at loopless
    refine .mk nofun fun s inner => ?_
    cases inner with
    | thenBranch => exact ih loopless.2.2.2.2
  | ifThenElse _ _ _ _ _ _ _ _ ih ih' =>
    simp only [List.forall_mem_cons, List.forall_mem_append] at loopless
    refine .mk nofun fun s inner => ?_
    cases inner with
    | thenBranch => exact ih loopless.2.2.2.2.1
    | elseBranch => exact ih' loopless.2.2.2.2.2.2
  | whileLoop isWhile =>
    exact ((List.forall_mem_cons.1 loopless).1.1 (Token.isKeyword_iff.1 isWhile)).elim
  | block _ _ _ ih =>
    simp only [List.forall_mem_cons, List.forall_mem_append] at loopless
    refine .mk nofun fun s inner => ?_
    cases inner with
    | block mem => exact ih loopless.2.1 s mem
  | _ => trivial

end Grammar

end Lox
