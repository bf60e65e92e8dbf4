import Lox.Proofs.Alike.Relabel
import Lox.Proofs.Scope.WellScoped

/-!
# Trees at other places

A tree that fits one place fits others too, as long as they are around the same declarations: a
scope without names may stand between. Only the distances of names are then different, so the tree
needs occurrences of its own.

## Main definitions

* `Scope.Position.Akin`, `Scope.Position.Beside`: places that a tree can be moved between.

## Main results

* `Expr.WellScoped.relocate`, `Stmt.WellScoped.relocate`: an alike tree fits an akin place.
-/

namespace Lox

namespace Scope

/-! ### Akin places -/

namespace Position

/-- The first class around a place has a superclass, and `super` can be written there. -/
def Inherits (p : Position) : Prop :=
  ∃ d, p.distance? "this" = some d ∧ p.distance? "super" = some (d + 1) ∧ p.InheritsAt d

/-- What can be written at the first place can be written at the second one. -/
structure Akin (p p' : Position) : Prop where
  pending : p'.pending = p.pending
  inFunction : p'.inFunction = p.inFunction
  receiver : (p.distance? "this").isSome = true → (p'.distance? "this").isSome = true
  inherits : p.Inherits → p'.Inherits

/-- What can be declared at the first place can be declared at the second one. -/
structure Beside (p p' : Position) : Prop extends Akin p p' where
  names : p'.layers.head?.map Layer.names = p.layers.head?.map Layer.names

variable {p p' q : Position} {x : String} {opener opener' : Node} {names : List String}

theorem Akin.refl (p : Position) : p.Akin p :=
  ⟨rfl, rfl, id, id⟩

/-- Only the layers that classes open matter to inheritance. -/
theorem inherits_congr (receiver : q.distance? "this" = p.distance? "this")
    (superclass : q.distance? "super" = p.distance? "super")
    (openers : q.layers.map Layer.opener = p.layers.map Layer.opener) :
    q.Inherits ↔ p.Inherits := by
  unfold Inherits InheritsAt
  rw [receiver, superclass, openers]

/-! ### Scopes -/

theorem Inherits.enter (h : p.Inherits) (settled : p.pending = none)
    (ordinary : ∀ x ∈ names, Ordinary x) (notClass : ¬ IsClass opener) :
    (p.enter opener names).Inherits := by
  obtain ⟨d, receiver, superclass, name, parent, methods, encloses⟩ := h
  refine ⟨d + 1, ?_, ?_, name, parent, methods, ?_⟩
  · rw [distance?_enter settled, if_neg fun mem => (ordinary _ mem).1 rfl, receiver]
    rfl
  · rw [distance?_enter settled, if_neg fun mem => (ordinary _ mem).2 rfl, superclass]
    rfl
  · refine ⟨encloses.receiver, encloses.superclass, fun d' opener' lt found => ?_⟩
    cases d' with
    | zero => exact Option.some.inj found ▸ notClass
    | succ d' => exact encloses.first d' opener' (Nat.lt_of_succ_lt_succ lt) found

theorem Inherits.of_enter (h : (p.enter opener names).Inherits) (settled : p.pending = none)
    (ordinary : ∀ x ∈ names, Ordinary x) : p.Inherits := by
  obtain ⟨d, receiver, superclass, name, parent, methods, encloses⟩ := h
  rw [distance?_enter settled, if_neg fun mem => (ordinary _ mem).1 rfl] at receiver
  rw [distance?_enter settled, if_neg fun mem => (ordinary _ mem).2 rfl] at superclass
  obtain ⟨d, isReceiver, rfl⟩ := Option.map_eq_some_iff.1 receiver
  obtain ⟨d', isSuperclass, isNext⟩ := Option.map_eq_some_iff.1 superclass
  obtain rfl := Nat.succ.inj isNext
  exact ⟨d, isReceiver, isSuperclass, name, parent, methods, encloses.receiver, encloses.superclass,
    fun d' opener' lt found => encloses.first (d' + 1) opener' (Nat.succ_lt_succ lt) found⟩

theorem isSome_distance?_enter (settled : p.pending = none) (ordinary : ∀ x ∈ names, Ordinary x) :
    ((p.enter opener names).distance? "this").isSome = (p.distance? "this").isSome := by
  rw [distance?_enter settled, if_neg fun mem => (ordinary _ mem).1 rfl, Option.isSome_map]

/-- A scope without names may be left out. -/
theorem Akin.enter_left (h : p.Akin p') (settled : p.pending = none) (opener : Node) :
    (p.enter opener []).Akin p' where
  pending := h.pending
  inFunction := h.inFunction
  receiver isSome := h.receiver (isSome_distance?_enter settled (List.forall_mem_nil _) ▸ isSome)
  inherits inherits := h.inherits (inherits.of_enter settled (List.forall_mem_nil _))

/-- A scope without names may be put in. -/
theorem Akin.enter_right (h : p.Akin p') (settled : p.pending = none)
    (notClass : ¬ IsClass opener) : p.Akin (p'.enter opener []) where
  pending := h.pending
  inFunction := h.inFunction
  receiver isSome := by
    rw [isSome_distance?_enter (h.pending.trans settled) (List.forall_mem_nil _)]
    exact h.receiver isSome
  inherits inherits :=
    (h.inherits inherits).enter (h.pending.trans settled) (List.forall_mem_nil _) notClass

/-- Both places are in a scope with the same names. -/
theorem Akin.enter (h : p.Akin p') (settled : p.pending = none)
    (ordinary : ∀ x ∈ names, Ordinary x) (notClass : ¬ IsClass opener') :
    (p.enter opener names).Beside (p'.enter opener' names) where
  pending := h.pending
  inFunction := h.inFunction
  receiver isSome := by
    rw [isSome_distance?_enter (h.pending.trans settled) ordinary]
    exact h.receiver (isSome_distance?_enter settled ordinary ▸ isSome)
  inherits inherits := (h.inherits (inherits.of_enter settled ordinary)).enter
    (h.pending.trans settled) ordinary notClass
  names := rfl

theorem pending_inClass {name : Token} {superclass : Option Occurrence}
    {methods : List FunctionDecl} : (p.inClass name superclass methods).pending = p.pending := by
  cases superclass <;> exact pending_declare

theorem Akin.inBody (h : p.Akin p') (settled : p.pending = none) {d d' : FunctionDecl}
    (params : d'.params.map Token.lexeme = d.params.map Token.lexeme)
    (ordinary : ∀ t ∈ d.params, Ordinary t.lexeme) : (p.inBody d).Beside (p'.inBody d') := by
  have inside : (p.enter (.function d) (d.params.map Token.lexeme).reverse).Beside
      (p'.enter (.function d') (d'.params.map Token.lexeme).reverse) := by
    rw [params]
    refine h.enter settled (fun x mem => ?_) (not_isClass_function d')
    obtain ⟨t, isParam, rfl⟩ := List.mem_map.1 (List.mem_reverse.1 mem)
    exact ordinary t isParam
  exact ⟨⟨inside.pending, rfl, inside.receiver, inside.inherits⟩, inside.names⟩

/-! ### Declarations -/

namespace Beside

variable (h : p.Beside p')

include h

theorem fresh (isFresh : p.Fresh x) : p'.Fresh x := by
  intro layer' isHead'
  have names := h.names
  rw [isHead', Option.map_some] at names
  obtain ⟨layer, isHead, isNames⟩ := Option.map_eq_some_iff.1 names.symm
  exact isNames ▸ isFresh layer isHead

/-- Both places are in some scope, or neither is. -/
theorem layers_eq_nil_iff : p.layers = [] ↔ p'.layers = [] := by
  have names := congrArg Option.isSome h.names
  rw [Option.isSome_map, Option.isSome_map] at names
  cases isLayers : p.layers with
  | nil =>
    cases isLayers' : p'.layers with
    | nil => exact .rfl
    | cons layer' layers' =>
      rw [isLayers, isLayers'] at names
      cases names
  | cons layer layers =>
    cases isLayers' : p'.layers with
    | nil =>
      rw [isLayers, isLayers'] at names
      cases names
    | cons layer' layers' => exact iff_of_false (List.cons_ne_nil _ _) (List.cons_ne_nil _ _)

theorem declare (ordinary : Ordinary x) : (p.declare x).Beside (p'.declare x) := by
  have same (q : Position) : (q.declare x).distance? "this" = q.distance? "this" := by
    rw [distance?_declare, if_neg fun h => ordinary.1 h.2.symm]
  have same' (q : Position) : (q.declare x).distance? "super" = q.distance? "super" := by
    rw [distance?_declare, if_neg fun h => ordinary.2 h.2.symm]
  have isInherits (q : Position) : (q.declare x).Inherits ↔ q.Inherits :=
    inherits_congr (same q) (same' q) openers_declare
  refine ⟨⟨?_, ?_, ?_, ?_⟩, ?_⟩
  · rw [pending_declare, pending_declare, h.pending]
  · rw [inFunction_declare, inFunction_declare, h.inFunction]
  · rw [same, same]
    exact h.receiver
  · rw [isInherits, isInherits]
    exact h.inherits
  · have names := h.names
    cases isLayers : p.layers with
    | nil =>
      rw [declare_top isLayers, declare_top (h.layers_eq_nil_iff.1 isLayers)]
      exact names
    | cons layer layers =>
      cases isLayers' : p'.layers with
      | nil => cases isLayers.symm.trans (h.layers_eq_nil_iff.2 isLayers')
      | cons layer' layers' =>
        rw [isLayers, isLayers'] at names
        rw [layers_declare isLayers, layers_declare isLayers']
        exact congrArg (Option.map (x :: ·)) names

theorem await (settled : p.pending = none) (ordinary : Ordinary x) :
    (p.await x).Akin (p'.await x) := by
  have declared := h.declare ordinary
  have isInherits {q : Position} (settled : q.pending = none) :
      (q.await x).Inherits ↔ (q.declare x).Inherits := by
    refine inherits_congr (distance?_await settled) (distance?_await settled) ?_
    rw [openers_declare]
    unfold Position.await
    split <;> rfl
  have settled' := h.pending.trans settled
  refine ⟨?_, ?_, ?_, ?_⟩
  · cases isLayers : p.layers with
    | nil =>
      rw [await_top isLayers, await_top (h.layers_eq_nil_iff.1 isLayers), h.pending]
    | cons layer layers =>
      cases isLayers' : p'.layers with
      | nil => cases isLayers.symm.trans (h.layers_eq_nil_iff.2 isLayers')
      | cons layer' layers' => rw [pending_await isLayers, pending_await isLayers']
  · rw [inFunction_await, inFunction_await, h.inFunction]
  · rw [distance?_await settled, distance?_await settled']
    exact declared.receiver
  · rw [isInherits settled, isInherits settled']
    exact declared.inherits

theorem after {s s' : Stmt} (same : s'.declared? = s.declared?)
    (ordinary : ∀ x, s.declared? = some x → Ordinary x) : (p.after s).Beside (p'.after s') := by
  unfold Position.after
  rw [same]
  cases declared : s.declared? with
  | none => exact h
  | some x => exact h.declare (ordinary x declared)

/-- The places of the methods of a class. A class with a superclass brings its own scopes. -/
theorem inClass {name : Token} (settled : p.pending = none) (ordinary : Ordinary name.lexeme)
    {superclass superclass' : Option Occurrence} (same : superclass'.isSome = superclass.isSome)
    (methods methods' : List FunctionDecl) :
    (p.inClass name superclass methods).Beside (p'.inClass name superclass' methods') := by
  have around := h.declare ordinary
  have settled₁ : (p.declare name.lexeme).pending = none := pending_declare.trans settled
  have settled₁' : (p'.declare name.lexeme).pending = none :=
    pending_declare.trans (h.pending.trans settled)
  have bound {q : Position} (settled : q.pending = none) (opener : Node) :
      (q.enter opener ["this"]).distance? "this" = some 0 := by
    rw [distance?_enter settled, if_pos (List.mem_singleton_self _)]
  cases superclass with
  | none =>
    obtain rfl : superclass' = none := Option.not_isSome_iff_eq_none.1 (by rw [same]; exact nofun)
    refine ⟨⟨around.pending, around.inFunction, fun _ => ?_, fun inherits => ?_⟩, rfl⟩
    · exact Option.isSome_iff_exists.2 ⟨0, bound settled₁' _⟩
    · obtain ⟨d, receiver, -, _, _, _, encloses⟩ := inherits
      obtain rfl := Option.some.inj ((bound settled₁ _).symm.trans receiver)
      cases encloses.receiver
  | some o =>
    obtain ⟨o', rfl⟩ := Option.isSome_iff_exists.1 same
    have settled₂' : ((p'.declare name.lexeme).enter
        (.statement (.classDecl name (some o') methods'))
        ["super"]).pending = none := settled₁'
    refine ⟨⟨around.pending, around.inFunction, fun _ => ?_, fun _ => ?_⟩, rfl⟩
    · exact Option.isSome_iff_exists.2 ⟨0, bound settled₂' _⟩
    · refine ⟨0, bound settled₂' _, ?_, name, o', methods', rfl, rfl, nofun⟩
      refine (distance?_enter settled₂').trans ?_
      rw [if_neg (by decide), distance?_enter settled₁', if_pos (List.mem_singleton_self _)]
      rfl

end Beside

end Position

/-- Nothing is known about occurrences, so that they may be any ones. -/
abbrev anyOccurrence : Position → SiteKind → Occurrence → Prop :=
  fun _ _ _ => True

end Scope

open Scope

/-- What holds of all that is related to something given holds of all that is given on the other
side. -/
theorem forall_mem_of_forall₂ {α β : Type} {R : α → β → Prop} {P : β → Prop} {as : List α}
    {bs : List β} (h : List.Forall₂ R as bs) (all : ∀ a ∈ as, ∀ b, R a b → P b) :
    ∀ b ∈ bs, P b := by
  induction h with
  | nil => exact nofun
  | cons first _ ih =>
    rw [List.forall_mem_cons] at all ⊢
    exact ⟨all.1 _ first, ih all.2⟩

theorem forall_of_rel {α β : Type} {R : α → β → Prop} {P : β → Prop} {o : Option α} {o' : Option β}
    (h : Option.Rel R o o') (all : ∀ a, o = some a → ∀ b, R a b → P b) :
    ∀ b, o' = some b → P b := by
  cases h with
  | none => exact nofun
  | some related =>
    rintro _ ⟨⟩
    exact all _ rfl _ related

theorem isSome_of_rel {α β : Type} {R : α → β → Prop} {o : Option α} {o' : Option β}
    (h : Option.Rel R o o') : o'.isSome = o.isSome := by
  cases h <;> rfl

variable {known : Position → SiteKind → Occurrence → Prop} {p p' : Position}

/-- An alike expression fits an akin place. -/
theorem Expr.WellScoped.relocate (akin : p.Akin p') {e e' : Expr} (h : e.WellScoped known p)
    (alike : e.Alike .renumbering e') : e'.WellScoped anyOccurrence p' := by
  induction h generalizing e' with
  | literal =>
    cases alike
    exact .literal
  | grouping _ ih =>
    cases alike with
    | grouping inner => exact .grouping (ih inner)
  | unary isUnary _ ih =>
    cases alike with
    | unary operator right => exact .unary (operator.eq_of_lines ▸ isUnary) (ih right)
  | binary isBinary _ _ ih ih' =>
    cases alike with
    | binary left operator right =>
      exact .binary (operator.eq_of_lines ▸ isBinary) (ih left) (ih' right)
  | logical _ _ ih ih' =>
    cases alike with
    | logical left _ right => exact .logical (ih left) (ih' right)
  | reference _ ready =>
    cases alike with
    | reference name =>
      refine .reference trivial ?_
      rw [akin.pending, name.name.lexeme]
      exact ready
  | assign _ ordinary _ ih =>
    cases alike with
    | assign name value => exact .assign trivial (name.name.lexeme ▸ ordinary) (ih value)
  | call _ _ ih ih' =>
    cases alike with
    | call callee _ arguments =>
      exact .call (ih callee)
        (forall_mem_of_forall₂ arguments fun e mem e' alike => ih' e mem alike)
  | get _ ih =>
    cases alike with
    | get object => exact .get (ih object)
  | set _ _ ih ih' =>
    cases alike with
    | set object _ value => exact .set (ih object) (ih' value)
  | this _ spelled bound =>
    cases alike with
    | this keyword =>
      obtain ⟨d, bound'⟩ := Option.isSome_iff_exists.1 (akin.receiver (bound ▸ rfl))
      exact .this trivial (keyword.name.lexeme.trans spelled) bound'
  | super _ spelled bound above inherits =>
    cases alike with
    | super keyword =>
      obtain ⟨d, bound', above', inherits'⟩ := akin.inherits ⟨_, bound, above, inherits⟩
      exact .super trivial (keyword.name.lexeme.trans spelled) bound' above' inherits'

/-- A declared name is no keyword. -/
theorem Stmt.WellScoped.ordinary {s : Stmt} (h : s.WellScoped known p) {x : String}
    (declares : s.declared? = some x) : Ordinary x := by
  cases h with
  | classDecl ordinary | functionDecl ordinary | varDecl ordinary =>
    exact Option.some.inj declares ▸ ordinary
  | _ => cases declares

mutual

/-- An alike statement fits an akin place, which is beside the other one if the statement declares a
name. -/
theorem Stmt.WellScoped.relocate {p p' : Position} {s s' : Stmt} : s.WellScoped known p →
    p.Akin p' → p.pending = none → (s.declared? = none ∨ p.Beside p') →
      s.Alike .renumbering s' → s'.WellScoped anyOccurrence p'
  | .block h, akin, settled, _, .block body =>
    .block (h.relocate (akin.enter settled (List.forall_mem_nil _) (not_isClass_block _))
      settled body)
  | .classDecl ordinary fresh above h, _, settled, level, .classDecl name superclass methods => by
    have beside := level.resolve_left (Option.some_ne_none _)
    cases name.eq_of_lines
    have inClass := beside.inClass settled ordinary (isSome_of_rel superclass)
    refine .classDecl ordinary (beside.fresh fresh) ?_ ?_
    · exact forall_of_rel superclass fun o isSuper o' alike =>
        (above o isSuper).relocate (beside.await settled ordinary) (.reference alike)
    · exact forall_mem_of_forall₂ methods fun d mem d' alike =>
        (h d mem).relocate (inClass _ _).toAkin (Position.pending_inClass.trans settled) alike
  | .expression h, akin, _, _, .expression value => .expression (h.relocate akin value)
  | .functionDecl ordinary fresh h, _, settled, level, .functionDecl declaration => by
    have beside := level.resolve_left (Option.some_ne_none _)
    have isName := declaration.name.eq_of_lines
    refine .functionDecl (isName ▸ ordinary) (isName ▸ beside.fresh fresh) ?_
    rw [isName]
    exact h.relocate (beside.declare ordinary).toAkin (Position.pending_declare.trans settled)
      declaration
  | .conditional h thenPlain hThen elsePlain hElse, akin, settled, _,
      .conditional condition first second =>
    .conditional (h.relocate akin condition) (first.declared?_eq.trans thenPlain)
      (hThen.relocate akin settled (.inl thenPlain) first)
      (forall_of_rel second fun s isElse _ alike => alike.declared?_eq.trans (elsePlain s isElse))
      (forall_of_rel second fun s isElse _ alike =>
        (hElse s isElse).relocate akin settled (.inl (elsePlain s isElse)) alike)
  | .print h, akin, _, _, .print value => .print (h.relocate akin value)
  | .ret inFunction h, akin, _, _, .ret _ value =>
    .ret (akin.inFunction.trans inFunction)
      (forall_of_rel value fun e isValue _ => (h e isValue).relocate akin)
  | .varDecl ordinary fresh h, _, settled, level, .varDecl name initializer => by
    have beside := level.resolve_left (Option.some_ne_none _)
    cases name.eq_of_lines
    exact .varDecl ordinary (beside.fresh fresh) (forall_of_rel initializer fun e isInitial _ =>
      (h e isInitial).relocate (beside.await settled ordinary))
  | .loop h plain hBody, akin, settled, _, .loop condition body =>
    .loop (h.relocate akin condition) (body.declared?_eq.trans plain)
      (hBody.relocate akin settled (.inl plain) body)

theorem Stmt.AllWellScoped.relocate {p p' : Position} {ss ss' : List Stmt} :
    Stmt.AllWellScoped known p ss → p.Beside p' → p.pending = none →
      List.Forall₂ (Stmt.Alike .renumbering) ss ss' → Stmt.AllWellScoped anyOccurrence p' ss'
  | .nil, _, _, .nil => .nil
  | .cons h hs, beside, settled, .cons first rest =>
    .cons (h.relocate beside.toAkin settled (.inr beside) first)
      (hs.relocate (beside.after first.declared?_eq fun _ => h.ordinary)
        ((Position.pending_add _).trans settled) rest)

theorem FunctionDecl.WellScoped.relocate {p p' : Position} {d d' : FunctionDecl} :
    d.WellScoped known p → p.Akin p' → p.pending = none → d.Alike .renumbering d' →
      d'.WellScoped anyOccurrence p'
  | .mk ordinary distinct h, akin, settled, alike => by
    have same := alike.params.imp fun _ _ name => name.eq_of_lines.symm
    rw [List.forall₂_eq_eq_eq] at same
    refine .mk (same ▸ ordinary) (same ▸ distinct) ?_
    exact h.relocate (akin.inBody settled (by rw [same]) ordinary) settled alike.body

end

end Lox
