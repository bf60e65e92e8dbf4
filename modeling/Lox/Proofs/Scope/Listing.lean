import Lox.Proofs.Scope.Table
import Lox.Proofs.Scope.WellScoped
import Mathlib.Data.List.Nodup

/-!
# Distances for a tree at a place

A tree that fits a place has a distance for each of its occurrences, or none for a global name,
where the occurrence stands. If the occurrences are numbered apart, and their numbers are new to a
table, these distances can be added to it.

## Main definitions

* `Scope.Listable`: distances of occurrences suffice for a property of what is known about them.

## Main results

* `Stmt.WellScoped.listable`: the distances of its own occurrences suffice for a statement to fit.
* `Scope.Listable.exists_recorded`: a table that has them.
-/

namespace Lox

namespace Scope

/-- Occurrences with the given numbers have distances, and whatever is known about these occurrences
at these distances is enough for a property. -/
def Listable (ids : List NodeId) (P : (Position → SiteKind → Occurrence → Prop) → Prop) : Prop :=
  ∃ entries : List (NodeId × Option Nat), entries.map Prod.fst = ids ∧
    ∀ known, (∀ p kind o, (o.id, p.distance? o.name.lexeme) ∈ entries → known p kind o) → P known

namespace Listable

variable {α : Type} {P P' : (Position → SiteKind → Occurrence → Prop) → Prop}
  {ids ids' : List NodeId}

theorem nil (h : ∀ known, P known) : Listable [] P :=
  ⟨[], rfl, fun known _ => h known⟩

theorem single (p : Position) (kind : SiteKind) (o : Occurrence) :
    Listable [o.id] fun known => known p kind o :=
  ⟨[(o.id, p.distance? o.name.lexeme)], rfl, fun _ isKnown =>
    isKnown p kind o (List.mem_singleton_self _)⟩

theorem imp (h : Listable ids P) (h' : ∀ known, P known → P' known) : Listable ids P' := by
  obtain ⟨entries, isIds, enough⟩ := h
  exact ⟨entries, isIds, fun known isKnown => h' known (enough known isKnown)⟩

theorem join (h : Listable ids P) (h' : Listable ids' P') :
    Listable (ids ++ ids') fun known => P known ∧ P' known := by
  obtain ⟨entries, rfl, enough⟩ := h
  obtain ⟨entries', rfl, enough'⟩ := h'
  refine ⟨entries ++ entries', List.map_append, fun known isKnown => ⟨?_, ?_⟩⟩
  · exact enough known fun p kind o mem => isKnown p kind o (List.mem_append_left _ mem)
  · exact enough' known fun p kind o mem => isKnown p kind o (List.mem_append_right _ mem)

theorem all {as : List α} {ids : α → List NodeId}
    {P : α → (Position → SiteKind → Occurrence → Prop) → Prop}
    (h : ∀ a ∈ as, Listable (ids a) (P a)) :
    Listable (as.flatMap ids) fun known => ∀ a ∈ as, P a known := by
  induction as with
  | nil => exact .nil fun _ => nofun
  | cons a as ih =>
    rw [List.forall_mem_cons] at h
    exact (h.1.join (ih h.2)).imp fun _ fits => List.forall_mem_cons.2 fits

theorem option {o : Option α} {ids : α → List NodeId}
    {P : α → (Position → SiteKind → Occurrence → Prop) → Prop}
    (h : ∀ a, o = some a → Listable (ids a) (P a)) :
    Listable (o.elim [] ids) fun known => ∀ a, o = some a → P a known := by
  cases o with
  | none => exact .nil fun _ => nofun
  | some a => exact (h a rfl).imp fun _ fits _ isSome => Option.some.inj isSome ▸ fits

/-! ### Tables -/

/-- The entries that a table has for distances. -/
def added (entries : List (NodeId × Option Nat)) : List (NodeId × Nat) :=
  entries.filterMap fun entry => entry.2.map (entry.1, ·)

variable {entries : List (NodeId × Option Nat)} {id : NodeId}

theorem mem_added {d : Nat} : (id, d) ∈ added entries ↔ (id, some d) ∈ entries := by
  rw [added, List.mem_filterMap]
  constructor
  · rintro ⟨⟨id', d'⟩, mem, isEntry⟩
    obtain ⟨_, rfl, isPair⟩ := Option.map_eq_some_iff.1 isEntry
    cases isPair
    exact mem
  · exact fun mem => ⟨_, mem, rfl⟩

theorem nodup_added (distinct : (entries.map Prod.fst).Nodup) :
    ((added entries).map Prod.fst).Nodup := by
  refine List.pairwise_map.2 (List.pairwise_filterMap.2 ?_)
  refine (List.pairwise_map.1 distinct).imp fun differ b isEntry b' isEntry' => ?_
  obtain ⟨_, -, rfl⟩ := Option.map_eq_some_iff.1 isEntry
  obtain ⟨_, -, rfl⟩ := Option.map_eq_some_iff.1 isEntry'
  exact differ

/-- Numbers that are new to a table have the added distances. -/
theorem getElem?_recordDistances_added (distinct : (entries.map Prod.fst).Nodup)
    {i : Interpreter} (isNew : ∀ id ∈ entries.map Prod.fst, i.distances[id]? = none)
    {d : Option Nat}
    (mem : (id, d) ∈ entries) : (i.recordDistances (added entries)).distances[id]? = d := by
  cases d with
  | some d => exact getElem?_foldl_insert_of_mem (nodup_added distinct) (mem_added.2 mem) _
  | none =>
    refine (getElem?_foldl_insert_of_notMem (fun mem' => ?_) _).trans
      (isNew id (List.mem_map_of_mem mem))
    obtain ⟨⟨id', d⟩, isAdded, rfl⟩ := List.mem_map.1 mem'
    cases List.inj_on_of_nodup_map distinct mem (mem_added.1 isAdded) rfl

/-- A table to which no number is known can be given what is enough. -/
theorem exists_recorded (h : Listable ids P) (distinct : ids.Nodup) {i : Interpreter}
    (isNew : ∀ id ∈ ids, i.distances[id]? = none) :
    ∃ entries : List (NodeId × Nat), (∀ entry ∈ entries, entry.1 ∈ ids) ∧
      P fun p _ o => (i.recordDistances entries).distances[o.id]? = p.distance? o.name.lexeme := by
  obtain ⟨entries, rfl, enough⟩ := h
  refine ⟨added entries, fun entry mem => ?_, enough _ fun p kind o mem => ?_⟩
  · exact List.mem_map_of_mem (mem_added.1 mem)
  · exact getElem?_recordDistances_added distinct isNew mem

end Listable

end Scope

open Scope

variable {known : Position → SiteKind → Occurrence → Prop}

theorem Expr.WellScoped.listable {p : Position} {e : Expr} (h : e.WellScoped known p) :
    Listable e.ids fun known => e.WellScoped known p := by
  induction h with
  | literal =>
    rw [ids_literal]
    exact .nil fun _ => .literal
  | grouping _ ih =>
    rw [ids_grouping]
    exact ih.imp fun _ => .grouping
  | unary isUnary _ ih =>
    rw [ids_unary]
    exact ih.imp fun _ => .unary isUnary
  | binary isBinary _ _ ih ih' =>
    rw [ids_binary]
    exact (ih.join ih').imp fun _ fits => .binary isBinary fits.1 fits.2
  | logical _ _ ih ih' =>
    rw [ids_logical]
    exact (ih.join ih').imp fun _ fits => .logical fits.1 fits.2
  | reference _ ready =>
    rw [ids_reference]
    exact (Listable.single p .reference _).imp fun _ isKnown => .reference isKnown ready
  | @assign name _ _ ordinary _ ih =>
    rw [ids_assign]
    exact ((Listable.single p .assignment name).join ih).imp fun _ fits =>
      .assign fits.1 ordinary fits.2
  | call _ _ ih ih' =>
    rw [ids_call]
    exact (ih.join (.all ih')).imp fun _ fits => .call fits.1 fits.2
  | get _ ih =>
    rw [ids_get]
    exact ih.imp fun _ => .get
  | set _ _ ih ih' =>
    rw [ids_set]
    exact (ih.join ih').imp fun _ fits => .set fits.1 fits.2
  | this _ spelled bound =>
    rw [ids_this]
    exact (Listable.single p .this _).imp fun _ isKnown => .this isKnown spelled bound
  | super _ spelled bound above inherits =>
    rw [ids_super]
    exact (Listable.single p .super _).imp fun _ isKnown =>
      .super isKnown spelled bound above inherits

mutual

theorem Stmt.WellScoped.listable {p : Position} {s : Stmt} :
    s.WellScoped known p → Listable s.ids fun known => s.WellScoped known p
  | .block h => by
    rw [Stmt.ids_block]
    exact h.listable.imp fun _ => .block
  | @Stmt.WellScoped.classDecl _ _ _ superclass _ ordinary fresh above h => by
    have isParent : (superclass.map Occurrence.id).toList =
        superclass.elim [] fun o => (Expr.reference o).ids := by
      cases superclass with
      | none => rfl
      | some o => exact (Expr.ids_reference o).symm
    rw [Stmt.ids_classDecl, isParent]
    have parent := Listable.option fun o isSuper => (above o isSuper).listable
    have methods := Listable.all fun d mem => (h d mem).listable
    exact (parent.join methods).imp fun _ fits => .classDecl ordinary fresh fits.1 fits.2
  | .expression h => by
    rw [Stmt.ids_expression]
    exact h.listable.imp fun _ => .expression
  | .functionDecl ordinary fresh h => by
    rw [Stmt.ids_functionDecl]
    exact h.listable.imp fun _ => .functionDecl ordinary fresh
  | .conditional h thenPlain hThen elsePlain hElse => by
    rw [Stmt.ids_conditional]
    have otherwise := Listable.option fun s isElse => (hElse s isElse).listable
    exact (h.listable.join (hThen.listable.join otherwise)).imp fun _ fits =>
      .conditional fits.1 thenPlain fits.2.1 elsePlain fits.2.2
  | .print h => by
    rw [Stmt.ids_print]
    exact h.listable.imp fun _ => .print
  | .ret inFunction h => by
    rw [Stmt.ids_ret]
    have value := Listable.option fun e isValue => (h e isValue).listable
    exact value.imp fun _ => .ret inFunction
  | .varDecl ordinary fresh h => by
    rw [Stmt.ids_varDecl]
    have value := Listable.option fun e isInitial => (h e isInitial).listable
    exact value.imp fun _ => .varDecl ordinary fresh
  | .loop h plain hBody => by
    rw [Stmt.ids_loop]
    exact (h.listable.join hBody.listable).imp fun _ fits => .loop fits.1 plain fits.2

theorem Stmt.AllWellScoped.listable {p : Position} {ss : List Stmt} :
    Stmt.AllWellScoped known p ss →
      Listable (ss.flatMap Stmt.ids) fun known => Stmt.AllWellScoped known p ss
  | .nil => .nil fun _ => .nil
  | .cons h hs => (h.listable.join hs.listable).imp fun _ fits => .cons fits.1 fits.2

theorem FunctionDecl.WellScoped.listable {p : Position} {d : FunctionDecl} :
    d.WellScoped known p → Listable d.ids fun known => d.WellScoped known p
  | .mk ordinary distinct h => by
    rw [FunctionDecl.ids_eq]
    exact h.listable.imp fun _ => .mk ordinary distinct

end

end Lox
