import Lox.Proofs.Alike.Scope
import Lox.Proofs.Tree.Formed

/-!
# Changing the relabelling

Trees that are alike stay so if the relabelling is replaced by any other that relates the numbers at
the same places. So it can be made precise, down to exactly these pairs of numbers, and it can be
enlarged when further trees come up.

## Main definitions

* `Relabelling.ofLines`: the relabelling of all numbers; `Relabelling.LE`: the larger relabelling.

## Main results

* `Stmt.Alike.relabel`: another relabelling of the numbers at the same places.
* `Stmt.Alike.mono`: a larger relabelling.
* `Stmt.alike_of_unnumbered`: trees that are the same without numbers are alike.
-/

namespace Lox

open Scope

namespace Relabelling

/-- The relabelling in which all numbers of occurrences correspond. -/
def ofLines (lines : Nat → Nat → Prop) : Relabelling :=
  ⟨fun _ _ => True, lines⟩

/-- Labels that correspond by the first relabelling do so by the second. -/
structure LE (c d : Relabelling) : Prop where
  ids : ∀ a b, c.ids a b → d.ids a b
  lines : ∀ l l', c.lines l l' → d.lines l l'

end Relabelling

variable {c d : Relabelling}

theorem Token.Alike.imp {t t' : Token} (h : t.Alike c t')
    (lines : ∀ l l', c.lines l l' → d.lines l l') : t.Alike d t' :=
  ⟨h.kind, h.lexeme, lines _ _ h.line⟩

theorem Occurrence.Alike.relabel {o o' : Occurrence} (h : o.Alike c o')
    (lines : ∀ l l', c.lines l l' → d.lines l l') (ids : List.Forall₂ d.ids [o.id] [o'.id]) :
    o.Alike d o' :=
  ⟨(List.forall₂_cons.1 ids).1, h.name.imp lines⟩

theorem tokens_imp {ts ts' : List Token} (h : List.Forall₂ (Token.Alike c) ts ts')
    (lines : ∀ l l', c.lines l l' → d.lines l l') : List.Forall₂ (Token.Alike d) ts ts' :=
  h.imp fun _ _ h => h.imp lines

/-- Lists of which the beginnings have the same length are related piece by piece. -/
theorem forall₂_of_append {α : Type} {R : α → α → Prop} {xs xs' ys ys' : List α}
    (length : xs.length = xs'.length) (h : List.Forall₂ R (xs ++ ys) (xs' ++ ys')) :
    List.Forall₂ R xs xs' ∧ List.Forall₂ R ys ys' := by
  have first := List.forall₂_take xs.length h
  have last := List.forall₂_drop xs.length h
  rw [List.take_left, length, List.take_left] at first
  rw [List.drop_left, length, List.drop_left] at last
  exact ⟨first, last⟩

mutual

theorem Expr.Alike.relabel (lines : ∀ l l', c.lines l l' → d.lines l l') :
    ∀ {e e' : Expr}, e.Alike c e' → List.Forall₂ d.ids e.ids e'.ids →
    e.Alike d e'
  | _, _, .literal value line, _ => .literal value (lines _ _ line)
  | _, _, .grouping inner, ids => by
    rw [ids_grouping, ids_grouping] at ids
    exact .grouping (inner.relabel lines ids)
  | _, _, .unary operator right, ids => by
    rw [ids_unary, ids_unary] at ids
    exact .unary (operator.imp lines) (right.relabel lines ids)
  | _, _, .binary left operator right, ids => by
    rw [ids_binary, ids_binary] at ids
    obtain ⟨ids, ids'⟩ := forall₂_of_append left.ids.length_eq ids
    exact .binary (left.relabel lines ids) (operator.imp lines) (right.relabel lines ids')
  | _, _, .logical left operator right, ids => by
    rw [ids_logical, ids_logical] at ids
    obtain ⟨ids, ids'⟩ := forall₂_of_append left.ids.length_eq ids
    exact .logical (left.relabel lines ids) (operator.imp lines) (right.relabel lines ids')
  | _, _, .reference name, ids => by
    rw [ids_reference, ids_reference] at ids
    exact .reference (name.relabel lines ids)
  | _, _, .assign name value, ids => by
    rw [ids_assign, ids_assign] at ids
    obtain ⟨id, ids'⟩ := List.forall₂_cons.1 ids
    exact .assign ⟨id, name.name.imp lines⟩ (value.relabel lines ids')
  | _, _, .call callee paren arguments, ids => by
    rw [ids_call, ids_call] at ids
    obtain ⟨ids, ids'⟩ := forall₂_of_append callee.ids.length_eq ids
    exact .call (callee.relabel lines ids) (paren.imp lines)
      (Expr.Alike.relabelAll lines arguments ids')
  | _, _, .get object property, ids => by
    rw [ids_get, ids_get] at ids
    exact .get (object.relabel lines ids) (property.imp lines)
  | _, _, .set object property value, ids => by
    rw [ids_set, ids_set] at ids
    obtain ⟨ids, ids'⟩ := forall₂_of_append object.ids.length_eq ids
    exact .set (object.relabel lines ids) (property.imp lines) (value.relabel lines ids')
  | _, _, .this keyword, ids => by
    rw [ids_this, ids_this] at ids
    exact .this (keyword.relabel lines ids)
  | _, _, .super keyword method, ids => by
    rw [ids_super, ids_super] at ids
    exact .super (keyword.relabel lines ids) (method.imp lines)

theorem Expr.Alike.relabelAll (lines : ∀ l l', c.lines l l' → d.lines l l') :
    ∀ {es es' : List Expr}, List.Forall₂ (Expr.Alike c) es es' →
    List.Forall₂ d.ids (es.flatMap Expr.ids) (es'.flatMap Expr.ids) →
    List.Forall₂ (Expr.Alike d) es es'
  | [], [], .nil, _ => .nil
  | _ :: _, _ :: _, .cons first rest, ids => by
    rw [List.flatMap_cons, List.flatMap_cons] at ids
    obtain ⟨ids, ids'⟩ := forall₂_of_append first.ids.length_eq ids
    exact .cons (first.relabel lines ids) (Expr.Alike.relabelAll lines rest ids')

end

theorem Expr.Alike.relabelOption {e e' : Option Expr}
    (lines : ∀ l l', c.lines l l' → d.lines l l') (h : Option.Rel (Expr.Alike c) e e')
    (ids : List.Forall₂ d.ids (Expr.optionIds e) (Expr.optionIds e')) :
    Option.Rel (Expr.Alike d) e e' := by
  cases h with
  | none => exact .none
  | some h => exact .some (h.relabel lines ids)

mutual

theorem Stmt.Alike.relabel (lines : ∀ l l', c.lines l l' → d.lines l l') :
    ∀ {s s' : Stmt}, s.Alike c s' → List.Forall₂ d.ids s.ids s'.ids →
    s.Alike d s'
  | _, _, .block body, ids => by
    rw [Stmt.ids_block, Stmt.ids_block] at ids
    exact .block (Stmt.Alike.relabelAll lines body ids)
  | _, _, .classDecl name superclass methods, ids => by
    rw [Stmt.ids_classDecl, Stmt.ids_classDecl] at ids
    cases superclass with
    | none =>
      exact .classDecl (name.imp lines) .none (FunctionDecl.Alike.relabelAll lines methods ids)
    | some superclass =>
      obtain ⟨id, ids'⟩ := List.forall₂_cons.1 ids
      exact .classDecl (name.imp lines) (.some ⟨id, superclass.name.imp lines⟩)
        (FunctionDecl.Alike.relabelAll lines methods ids')
  | _, _, .expression value, ids => by
    rw [Stmt.ids_expression, Stmt.ids_expression] at ids
    exact .expression (value.relabel lines ids)
  | _, _, .functionDecl declaration, ids => by
    rw [Stmt.ids_functionDecl, Stmt.ids_functionDecl] at ids
    exact .functionDecl (declaration.relabel lines ids)
  | _, _, .conditional condition first second, ids => by
    rw [Stmt.ids_conditional, Stmt.ids_conditional] at ids
    obtain ⟨ids, ids'⟩ := forall₂_of_append condition.ids.length_eq ids
    obtain ⟨ids', ids''⟩ := forall₂_of_append first.ids.length_eq ids'
    exact .conditional (condition.relabel lines ids) (first.relabel lines ids')
      (Stmt.Alike.relabelOption lines second ids'')
  | _, _, .print value, ids => by
    rw [Stmt.ids_print, Stmt.ids_print] at ids
    exact .print (value.relabel lines ids)
  | _, _, .ret keyword value, ids => by
    rw [Stmt.ids_ret, Stmt.ids_ret] at ids
    exact .ret (keyword.imp lines) (Expr.Alike.relabelOption lines value ids)
  | _, _, .varDecl name initializer, ids => by
    rw [Stmt.ids_varDecl, Stmt.ids_varDecl] at ids
    exact .varDecl (name.imp lines) (Expr.Alike.relabelOption lines initializer ids)
  | _, _, .loop condition body, ids => by
    rw [Stmt.ids_loop, Stmt.ids_loop] at ids
    obtain ⟨ids, ids'⟩ := forall₂_of_append condition.ids.length_eq ids
    exact .loop (condition.relabel lines ids) (body.relabel lines ids')

theorem Stmt.Alike.relabelAll (lines : ∀ l l', c.lines l l' → d.lines l l') :
    ∀ {ss ss' : List Stmt}, List.Forall₂ (Stmt.Alike c) ss ss' →
    List.Forall₂ d.ids (ss.flatMap Stmt.ids) (ss'.flatMap Stmt.ids) →
    List.Forall₂ (Stmt.Alike d) ss ss'
  | [], [], .nil, _ => .nil
  | _ :: _, _ :: _, .cons first rest, ids => by
    rw [List.flatMap_cons, List.flatMap_cons] at ids
    obtain ⟨ids, ids'⟩ := forall₂_of_append first.ids.length_eq ids
    exact .cons (first.relabel lines ids) (Stmt.Alike.relabelAll lines rest ids')

theorem Stmt.Alike.relabelOption (lines : ∀ l l', c.lines l l' → d.lines l l') :
    ∀ {s s' : Option Stmt}, Option.Rel (Stmt.Alike c) s s' →
    List.Forall₂ d.ids (s.elim [] Stmt.ids) (s'.elim [] Stmt.ids) → Option.Rel (Stmt.Alike d) s s'
  | none, none, .none, _ => .none
  | some _, some _, .some h, ids => .some (h.relabel lines ids)

theorem FunctionDecl.Alike.relabel (lines : ∀ l l', c.lines l l' → d.lines l l') :
    ∀ {f f' : FunctionDecl}, f.Alike c f' →
    List.Forall₂ d.ids f.ids f'.ids → f.Alike d f'
  | ⟨_, _, _⟩, ⟨_, _, _⟩, .mk name params body, ids => by
    rw [FunctionDecl.ids_eq, FunctionDecl.ids_eq] at ids
    exact .mk (name.imp lines) (tokens_imp params lines) (Stmt.Alike.relabelAll lines body ids)

theorem FunctionDecl.Alike.relabelAll (lines : ∀ l l', c.lines l l' → d.lines l l') :
    ∀ {ds ds' : List FunctionDecl},
    List.Forall₂ (FunctionDecl.Alike c) ds ds' →
    List.Forall₂ d.ids (ds.flatMap FunctionDecl.ids) (ds'.flatMap FunctionDecl.ids) →
    List.Forall₂ (FunctionDecl.Alike d) ds ds'
  | [], [], .nil, _ => .nil
  | _ :: _, _ :: _, .cons first rest, ids => by
    rw [List.flatMap_cons, List.flatMap_cons] at ids
    obtain ⟨ids, ids'⟩ := forall₂_of_append first.ids.length_eq ids
    exact .cons (first.relabel lines ids) (FunctionDecl.Alike.relabelAll lines rest ids')

end

/-- Alike statements declare the same name, if any. -/
theorem Stmt.Alike.declared?_eq {r : Relabelling} {s s' : Stmt} (h : s.Alike r s') :
    s'.declared? = s.declared? := by
  cases h with
  | classDecl name => exact congrArg some name.lexeme
  | functionDecl declaration => exact congrArg some declaration.name.lexeme
  | varDecl name => exact congrArg some name.lexeme
  | _ => rfl

/-! ### Larger relabellings -/

namespace Relabelling.LE

theorem function {f f' : FunctionDecl} (le : c.LE d) (h : f.Alike c f') : f.Alike d f' :=
  h.relabel le.lines (h.ids.imp le.ids)

end Relabelling.LE

/-! ### Trees without numbers -/

/-- The relabelling that keeps all lines. -/
abbrev Relabelling.renumbering : Relabelling :=
  .ofLines Eq

theorem Token.alike_refl (t : Token) : t.Alike .renumbering t :=
  ⟨rfl, rfl, rfl⟩

theorem Token.Alike.eq_of_lines {t t' : Token} (h : t.Alike .renumbering t') : t' = t := by
  obtain ⟨kind, lexeme, line⟩ := t
  obtain ⟨kind', lexeme', line'⟩ := t'
  obtain ⟨isKind, isLexeme, isLine⟩ := h
  cases isKind
  cases isLexeme
  cases isLine
  rfl

theorem Occurrence.alike_of_unnumbered {o o' : Occurrence} (h : o.unnumbered = o'.unnumbered) :
    o.Alike .renumbering o' := by
  have name : o.name = o'.name := (Occurrence.mk.inj h).2
  exact ⟨trivial, name ▸ o.name.alike_refl⟩

mutual

theorem Expr.alike_of_unnumbered : ∀ {e e' : Expr}, e.unnumbered = e'.unnumbered →
    e.Alike .renumbering e'
  | .literal value line, e', h => by
    cases e' with
    | literal value' line' =>
      obtain ⟨rfl, rfl⟩ := literal.inj h
      exact .literal value rfl
    | _ => cases h
  | .grouping inner, e', h => by
    cases e' with
    | grouping inner' => exact .grouping (alike_of_unnumbered (grouping.inj h))
    | _ => cases h
  | .unary operator right, e', h => by
    cases e' with
    | unary operator' right' =>
      obtain ⟨rfl, same⟩ := unary.inj h
      exact .unary operator.alike_refl (alike_of_unnumbered same)
    | _ => cases h
  | .binary left operator right, e', h => by
    cases e' with
    | binary left' operator' right' =>
      obtain ⟨same, rfl, same'⟩ := binary.inj h
      exact .binary (alike_of_unnumbered same) operator.alike_refl (alike_of_unnumbered same')
    | _ => cases h
  | .logical left operator right, e', h => by
    cases e' with
    | logical left' operator' right' =>
      obtain ⟨same, rfl, same'⟩ := logical.inj h
      exact .logical (alike_of_unnumbered same) operator.alike_refl (alike_of_unnumbered same')
    | _ => cases h
  | .reference name, e', h => by
    cases e' with
    | reference name' => exact .reference (Occurrence.alike_of_unnumbered (reference.inj h))
    | _ => cases h
  | .assign name value, e', h => by
    cases e' with
    | assign name' value' =>
      obtain ⟨same, same'⟩ := assign.inj h
      exact .assign (Occurrence.alike_of_unnumbered same) (alike_of_unnumbered same')
    | _ => cases h
  | .call callee paren arguments, e', h => by
    cases e' with
    | call callee' paren' arguments' =>
      obtain ⟨same, rfl, same'⟩ := call.inj h
      exact .call (alike_of_unnumbered same) paren.alike_refl (alikeAll_of_unnumbered same')
    | _ => cases h
  | .get object property, e', h => by
    cases e' with
    | get object' property' =>
      obtain ⟨same, rfl⟩ := get.inj h
      exact .get (alike_of_unnumbered same) property.alike_refl
    | _ => cases h
  | .set object property value, e', h => by
    cases e' with
    | set object' property' value' =>
      obtain ⟨same, rfl, same'⟩ := set.inj h
      exact .set (alike_of_unnumbered same) property.alike_refl (alike_of_unnumbered same')
    | _ => cases h
  | .this keyword, e', h => by
    cases e' with
    | this keyword' => exact .this (Occurrence.alike_of_unnumbered (this.inj h))
    | _ => cases h
  | .super keyword method, e', h => by
    cases e' with
    | super keyword' method' =>
      obtain ⟨same, rfl⟩ := super.inj h
      exact .super (Occurrence.alike_of_unnumbered same) method.alike_refl
    | _ => cases h

theorem Expr.alikeAll_of_unnumbered : ∀ {es es' : List Expr},
    Expr.unnumberedList es = Expr.unnumberedList es' → List.Forall₂ (Expr.Alike .renumbering) es es'
  | [], [], _ => .nil
  | _ :: _, _ :: _, h =>
    .cons (Expr.alike_of_unnumbered (List.cons.inj h).1)
      (Expr.alikeAll_of_unnumbered (List.cons.inj h).2)

end

theorem Expr.alikeOption_of_unnumbered {e e' : Option Expr}
    (h : e.map Expr.unnumbered = e'.map Expr.unnumbered) :
    Option.Rel (Expr.Alike .renumbering) e e' := by
  cases e with
  | none =>
    cases e' with
    | none => exact .none
    | some e' => cases h
  | some e =>
    cases e' with
    | none => cases h
    | some e' => exact .some (Expr.alike_of_unnumbered (Option.some.inj h))

mutual

theorem Stmt.alike_of_unnumbered : ∀ {s s' : Stmt}, s.unnumbered = s'.unnumbered →
    s.Alike .renumbering s'
  | .block body, s', h => by
    cases s' with
    | block body' => exact .block (Stmt.alikeAll_of_unnumbered (Stmt.block.inj h))
    | _ => cases h
  | .classDecl name superclass methods, s', h => by
    cases s' with
    | classDecl name' superclass' methods' =>
      obtain ⟨rfl, same, same'⟩ := Stmt.classDecl.inj h
      have methods := FunctionDecl.alikeAll_of_unnumbered same'
      cases superclass with
      | none =>
        cases superclass' with
        | none => exact .classDecl name.alike_refl .none methods
        | some _ => cases same
      | some superclass =>
        cases superclass' with
        | none => cases same
        | some superclass' =>
          exact .classDecl name.alike_refl
            (.some (Occurrence.alike_of_unnumbered (Option.some.inj same))) methods
    | _ => cases h
  | .expression value, s', h => by
    cases s' with
    | expression value' => exact .expression (Expr.alike_of_unnumbered (Stmt.expression.inj h))
    | _ => cases h
  | .functionDecl declaration, s', h => by
    cases s' with
    | functionDecl declaration' =>
      exact .functionDecl (FunctionDecl.alike_of_unnumbered (Stmt.functionDecl.inj h))
    | _ => cases h
  | .conditional condition thenBranch elseBranch, s', h => by
    cases s' with
    | conditional condition' thenBranch' elseBranch' =>
      obtain ⟨same, same', same''⟩ := Stmt.conditional.inj h
      exact .conditional (Expr.alike_of_unnumbered same) (Stmt.alike_of_unnumbered same')
        (Stmt.alikeOption_of_unnumbered same'')
    | _ => cases h
  | .print value, s', h => by
    cases s' with
    | print value' => exact .print (Expr.alike_of_unnumbered (Stmt.print.inj h))
    | _ => cases h
  | .ret keyword value, s', h => by
    cases s' with
    | ret keyword' value' =>
      obtain ⟨rfl, same⟩ := Stmt.ret.inj h
      exact .ret keyword.alike_refl (Expr.alikeOption_of_unnumbered same)
    | _ => cases h
  | .varDecl name initializer, s', h => by
    cases s' with
    | varDecl name' initializer' =>
      obtain ⟨rfl, same⟩ := Stmt.varDecl.inj h
      exact .varDecl name.alike_refl (Expr.alikeOption_of_unnumbered same)
    | _ => cases h
  | .loop condition body, s', h => by
    cases s' with
    | loop condition' body' =>
      obtain ⟨same, same'⟩ := Stmt.loop.inj h
      exact .loop (Expr.alike_of_unnumbered same) (Stmt.alike_of_unnumbered same')
    | _ => cases h

theorem Stmt.alikeAll_of_unnumbered : ∀ {ss ss' : List Stmt},
    Stmt.unnumberedList ss = Stmt.unnumberedList ss' → List.Forall₂ (Stmt.Alike .renumbering) ss ss'
  | [], [], _ => .nil
  | _ :: _, _ :: _, h =>
    .cons (Stmt.alike_of_unnumbered (List.cons.inj h).1)
      (Stmt.alikeAll_of_unnumbered (List.cons.inj h).2)

theorem Stmt.alikeOption_of_unnumbered : ∀ {s s' : Option Stmt},
    Stmt.unnumberedOption s = Stmt.unnumberedOption s' → Option.Rel (Stmt.Alike .renumbering) s s'
  | none, none, _ => .none
  | some _, some _, h => .some (Stmt.alike_of_unnumbered (Option.some.inj h))

theorem FunctionDecl.alike_of_unnumbered : ∀ {f f' : FunctionDecl},
    f.unnumbered = f'.unnumbered → f.Alike .renumbering f'
  | ⟨name, params, body⟩, ⟨name', params', body'⟩, h => by
    obtain ⟨rfl, rfl, same⟩ := FunctionDecl.mk.inj h
    exact .mk name.alike_refl (List.forall₂_same.2 fun t _ => t.alike_refl)
      (Stmt.alikeAll_of_unnumbered same)

theorem FunctionDecl.alikeAll_of_unnumbered : ∀ {ds ds' : List FunctionDecl},
    FunctionDecl.unnumberedList ds = FunctionDecl.unnumberedList ds' →
    List.Forall₂ (FunctionDecl.Alike .renumbering) ds ds'
  | [], [], _ => .nil
  | _ :: _, _ :: _, h =>
    .cons (FunctionDecl.alike_of_unnumbered (List.cons.inj h).1)
      (FunctionDecl.alikeAll_of_unnumbered (List.cons.inj h).2)

end

end Lox
