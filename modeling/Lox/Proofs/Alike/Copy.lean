import Lox.Proofs.Alike.Relabel

/-!
# Copies of trees

A tree has copies in which the occurrences have other numbers. The numbers may begin anywhere.

## Main definitions

* `Copied`: there are copies with numbers from any number on.

## Main results

* `Expr.copied`, `Stmt.copied`, `FunctionDecl.copied`: trees are copied.
-/

namespace Lox

open Scope

/-- From any number on, there is something that satisfies `R` and has numbers of its own. -/
def Copied {α : Type} (ids : α → List NodeId) (R : α → Prop) : Prop :=
  ∀ lo, ∃ a hi, lo ≤ hi ∧ Apart lo hi (ids a) ∧ R a

namespace Copied

variable {α β γ : Type} {ids : α → List NodeId} {ids' : β → List NodeId} {R : α → Prop}
  {R' : β → Prop}

/-- What has no numbers is its own copy. -/
theorem self {a : α} (isIds : ids a = []) (holds : R a) : Copied ids R :=
  fun lo => ⟨a, lo, Nat.le_refl lo, isIds ▸ .nil, holds⟩

theorem map (f : α → β) (h : Copied ids R) (isIds : ∀ a, ids' (f a) = ids a)
    (holds : ∀ a, R a → R' (f a)) : Copied ids' R' := by
  intro lo
  obtain ⟨a, hi, le, apart, isCopy⟩ := h lo
  exact ⟨f a, hi, le, (isIds a).symm ▸ apart, holds a isCopy⟩

/-- The second part is numbered behind the first one. -/
theorem map₂ {ids'' : γ → List NodeId} {R'' : γ → Prop} (f : α → β → γ) (h : Copied ids R)
    (h' : Copied ids' R') (isIds : ∀ a b, ids'' (f a b) = ids a ++ ids' b)
    (holds : ∀ a b, R a → R' b → R'' (f a b)) : Copied ids'' R'' := by
  intro lo
  obtain ⟨a, mid, le, apart, isCopy⟩ := h lo
  obtain ⟨b, hi, le', apart', isCopy'⟩ := h' mid
  refine ⟨f a b, hi, Nat.le_trans le le', ?_, holds a b isCopy isCopy'⟩
  rw [isIds]
  exact apart.append apart' le (Nat.le_refl mid) le'

theorem pair (h : Copied ids R) (h' : Copied ids' R') :
    Copied (fun ab : α × β => ids ab.1 ++ ids' ab.2) fun ab => R ab.1 ∧ R' ab.2 :=
  h.map₂ Prod.mk h' (fun _ _ => rfl) fun _ _ => And.intro

theorem occurrence (o : Occurrence) :
    Copied (fun o' : Occurrence => [o'.id]) (o.Alike .renumbering) :=
  fun lo => ⟨⟨lo, o.name⟩, lo + 1, Nat.le_succ lo, .single lo, trivial, o.name.alike_refl⟩

theorem option {S : γ → α → Prop} {o : Option γ} (h : ∀ c, o = some c → Copied ids (S c)) :
    Copied (fun o' : Option α => o'.elim [] ids) (Option.Rel S o) := by
  cases o with
  | none => exact .self rfl .none
  | some c => exact (h c rfl).map some (fun _ => rfl) fun _ => .some

end Copied

mutual

theorem Expr.copied : ∀ e : Expr, Copied ids (e.Alike .renumbering)
  | .literal value line => .self (ids_literal value line) (.literal value rfl)
  | .grouping inner => inner.copied.map grouping ids_grouping fun _ => .grouping
  | .unary operator right =>
    right.copied.map (unary operator) (ids_unary operator) fun _ => .unary operator.alike_refl
  | .binary left operator right =>
    left.copied.map₂ (binary · operator ·) right.copied (fun _ _ => ids_binary ..)
      fun _ _ first => .binary first operator.alike_refl
  | .logical left operator right =>
    left.copied.map₂ (logical · operator ·) right.copied (fun _ _ => ids_logical ..)
      fun _ _ first => .logical first operator.alike_refl
  | .reference name => (Copied.occurrence name).map reference ids_reference fun _ => .reference
  | .assign name value =>
    (Copied.occurrence name).map₂ assign value.copied (fun _ _ => ids_assign ..) fun _ _ => .assign
  | .call callee paren arguments =>
    callee.copied.map₂ (call · paren ·) (Expr.allCopied arguments) (fun _ _ => ids_call ..)
      fun _ _ first => .call first paren.alike_refl
  | .get object property =>
    object.copied.map (get · property) (fun _ => ids_get ..) fun _ first =>
      .get first property.alike_refl
  | .set object property value =>
    object.copied.map₂ (set · property ·) value.copied (fun _ _ => ids_set ..)
      fun _ _ first => .set first property.alike_refl
  | .this keyword => (Copied.occurrence keyword).map this ids_this fun _ => .this
  | .super keyword method =>
    (Copied.occurrence keyword).map (super · method) (fun _ => ids_super ..) fun _ first =>
      .super first method.alike_refl

theorem Expr.allCopied : ∀ es : List Expr,
    Copied (fun es' : List Expr => es'.flatMap ids) (List.Forall₂ (Expr.Alike .renumbering) es)
  | [] => .self rfl .nil
  | e :: es => e.copied.map₂ List.cons (Expr.allCopied es) (fun _ _ => rfl) fun _ _ => .cons

end

theorem Expr.optionCopied (e : Option Expr) :
    Copied Expr.optionIds (Option.Rel (Expr.Alike .renumbering) e) :=
  .option fun e _ => e.copied

mutual

theorem Stmt.copied : ∀ s : Stmt, Copied Stmt.ids (s.Alike .renumbering)
  | .block body => (Stmt.allCopied body).map .block Stmt.ids_block fun _ => .block
  | .classDecl name superclass methods => by
    have parent : Copied (fun o' : Option Occurrence => (o'.map Occurrence.id).toList)
        (Option.Rel (Occurrence.Alike .renumbering) superclass) := by
      cases superclass with
      | none => exact .self rfl .none
      | some o => exact (Copied.occurrence o).map some (fun _ => rfl) fun _ => .some
    exact parent.map₂ (.classDecl name) (FunctionDecl.allCopied methods)
      (fun _ _ => Stmt.ids_classDecl ..) fun _ _ => .classDecl name.alike_refl
  | .expression value => value.copied.map .expression Stmt.ids_expression fun _ => .expression
  | .functionDecl d => d.copied.map .functionDecl Stmt.ids_functionDecl fun _ => .functionDecl
  | .conditional condition thenBranch elseBranch => by
    have branches := thenBranch.copied.pair (Stmt.optionCopied elseBranch)
    exact condition.copied.map₂ (fun e branches => .conditional e branches.1 branches.2) branches
      (fun _ _ => Stmt.ids_conditional ..) fun _ _ first rest => .conditional first rest.1 rest.2
  | .print value => value.copied.map .print Stmt.ids_print fun _ => .print
  | .ret keyword value =>
    (Expr.optionCopied value).map (.ret keyword) (Stmt.ids_ret keyword) fun _ =>
      .ret keyword.alike_refl
  | .varDecl name initializer =>
    (Expr.optionCopied initializer).map (.varDecl name) (Stmt.ids_varDecl name) fun _ =>
      .varDecl name.alike_refl
  | .loop condition body =>
    condition.copied.map₂ .loop body.copied (fun _ _ => Stmt.ids_loop ..) fun _ _ => .loop

theorem Stmt.allCopied : ∀ ss : List Stmt,
    Copied (fun ss' : List Stmt => ss'.flatMap Stmt.ids)
      (List.Forall₂ (Stmt.Alike .renumbering) ss)
  | [] => .self rfl .nil
  | s :: ss => s.copied.map₂ List.cons (Stmt.allCopied ss) (fun _ _ => rfl) fun _ _ => .cons

theorem Stmt.optionCopied : ∀ s : Option Stmt,
    Copied (fun s' : Option Stmt => s'.elim [] Stmt.ids) (Option.Rel (Stmt.Alike .renumbering) s)
  | none => .self rfl .none
  | some s => s.copied.map some (fun _ => rfl) fun _ => .some

theorem FunctionDecl.copied : ∀ d : FunctionDecl, Copied FunctionDecl.ids (d.Alike .renumbering)
  | ⟨name, params, body⟩ =>
    (Stmt.allCopied body).map (FunctionDecl.mk name params) (fun _ => FunctionDecl.ids_eq ..)
    fun _ =>
      .mk name.alike_refl (List.forall₂_same.2 fun t _ => t.alike_refl)

theorem FunctionDecl.allCopied : ∀ ds : List FunctionDecl,
    Copied (fun ds' : List FunctionDecl => ds'.flatMap FunctionDecl.ids)
      (List.Forall₂ (FunctionDecl.Alike .renumbering) ds)
  | [] => .self rfl .nil
  | d :: ds => d.copied.map₂ List.cons (FunctionDecl.allCopied ds) (fun _ _ => rfl) fun _ _ => .cons

end

end Lox
