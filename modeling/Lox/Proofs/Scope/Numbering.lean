import Lox.Scope.Analysis
import Mathlib.Data.List.Nodup

/-!
# Occurrences numbered apart

The parser numbers the occurrences of a text one after the other. What a phrase numbers lies between
the counter before it and the counter behind it, and no number is given twice; phrases that follow
each other are therefore numbered apart, in whatever order their trees are put together.

## Main definitions

* `Scope.idsOf`, `Scope.siteIds`: the numbers of the occurrences of a program.
* `Expr.ids`, `Stmt.ids`, `FunctionDecl.ids`: the numbers of the occurrences of a tree.
* `Apart`: numbers in a range, no two of them alike.

## Main results

* `Apart.append`, `Apart.append_swap`: lists from two ranges, one behind the other.
-/

namespace Lox

namespace Scope

/-- The numbers of the occurrences of names among events. -/
def idsOf (events : List Event) : List NodeId :=
  (sites events).map fun site => site.occurrence.id

/-- The numbers of the occurrences of names in a program. -/
def siteIds (program : List Stmt) : List NodeId :=
  idsOf (programEvents program)

@[simp] theorem idsOf_nil : idsOf [] = [] := rfl

@[simp] theorem idsOf_append (es es' : List Event) : idsOf (es ++ es') = idsOf es ++ idsOf es' := by
  simp [idsOf, sites]

theorem idsOf_cons (e : Event) (es : List Event) : idsOf (e :: es) = idsOf [e] ++ idsOf es :=
  idsOf_append [e] es

@[simp] theorem idsOf_occurs (site : Site) : idsOf [.occurs site] = [site.occurrence.id] := rfl

/-- The numbers of the occurrences among pieces of a tree. -/
def numbers (pieces : List Piece) : List NodeId :=
  idsOf (scoping.toList pieces)

@[simp] theorem numbers_nil : numbers [] = [] := by
  simp [numbers]

@[simp] theorem numbers_append (ps ps' : List Piece) :
    numbers (ps ++ ps') = numbers ps ++ numbers ps' := by
  simp [numbers, Traversal.toList_append]

theorem numbers_cons (p : Piece) (ps : List Piece) :
    numbers (p :: ps) = numbers [p] ++ numbers ps :=
  numbers_append [p] ps

theorem numbers_node (n : Node) : numbers [.node n] = numbers (expand n) := by
  simp [numbers, scoping]

@[simp] theorem numbers_leaf (e : Event) : numbers [.leaf e] = idsOf [e] := by
  simp [numbers]

@[simp] theorem numbers_occurs (kind : SiteKind) (o : Occurrence) :
    numbers [occurs kind o] = [o.id] := by
  simp [occurs]

@[simp] theorem numbers_introduce (name : Token) : numbers (introduce name) = [] := by
  rw [introduce, numbers_cons, numbers_leaf, numbers_leaf]
  rfl

/-- Events around pieces that are not occurrences number nothing. -/
theorem numbers_between {first last : Event} (h : idsOf [first] = []) (h' : idsOf [last] = [])
    (ps : List Piece) : numbers (between first last ps) = numbers ps := by
  rw [between, numbers_append, numbers_cons, numbers_leaf, numbers_leaf, h, h', List.nil_append,
    List.append_nil]

end Scope

open Scope

/-- The numbers of the occurrences of an expression. -/
def Expr.ids (e : Expr) : List NodeId :=
  numbers [expr e]

/-- The numbers of the occurrences of a statement. -/
def Stmt.ids (s : Stmt) : List NodeId :=
  numbers [stmt s]

/-- The numbers of the occurrences of a function. -/
def FunctionDecl.ids (d : FunctionDecl) : List NodeId :=
  numbers [.node (.function d)]

namespace Scope

@[simp] theorem numbers_exprs (es : List Expr) : numbers (es.map expr) = es.flatMap Expr.ids := by
  induction es with
  | nil => simp
  | cons e es ih => rw [List.map_cons, numbers_cons, ih, List.flatMap_cons, Expr.ids]

@[simp] theorem numbers_stmts (ss : List Stmt) : numbers (ss.map stmt) = ss.flatMap Stmt.ids := by
  induction ss with
  | nil => simp
  | cons s ss ih => rw [List.map_cons, numbers_cons, ih, List.flatMap_cons, Stmt.ids]

@[simp] theorem numbers_function (role : FunctionRole) (d : FunctionDecl) :
    numbers (function role d) = d.ids :=
  numbers_between rfl rfl _

@[simp] theorem numbers_introduces (names : List Token) :
    numbers (names.flatMap introduce) = [] := by
  induction names with
  | nil => simp
  | cons name names ih => simp [List.flatMap_cons, ih]

@[simp] theorem numbers_methodScope (ds : List FunctionDecl) :
    numbers (methodScope ds) = ds.flatMap FunctionDecl.ids := by
  have inner (ds : List FunctionDecl) :
      numbers (ds.flatMap fun d => function (methodRole d) d) = ds.flatMap FunctionDecl.ids := by
    induction ds with
    | nil => simp
    | cons d ds ih => simp [List.flatMap_cons, ih]
  rw [methodScope, numbers_between rfl rfl, numbers_cons, numbers_leaf, inner]
  rfl

@[simp] theorem numbers_inheriting (name : Token) (o : Occurrence) (ds : List FunctionDecl) :
    numbers (inheriting name o ds) = o.id :: ds.flatMap FunctionDecl.ids := by
  have super : numbers (between .opening .closing (.leaf (.implicit "super") :: methodScope ds)) =
      ds.flatMap FunctionDecl.ids := by
    rw [numbers_between rfl rfl, numbers_cons, numbers_leaf, numbers_methodScope]
    rfl
  unfold inheriting
  split
  · simp only [numbers_append, super, numbers_leaf, numbers_occurs]
    rfl
  · simp only [numbers_append, super, numbers_nil, numbers_occurs]
    rfl

theorem siteIds_eq (program : List Stmt) : siteIds program = program.flatMap Stmt.ids :=
  numbers_stmts program

end Scope

/-! ### The numbers of a tree are those of its parts -/

section

variable (o : Occurrence) (t : Token) (e e' : Expr) (es : List Expr)

@[simp] theorem Expr.ids_literal (value : Literal) (line : Nat) :
    (Expr.literal value line).ids = [] := by
  simp [Expr.ids, expr, numbers_node, expand, expandExpr]

@[simp] theorem Expr.ids_grouping : (Expr.grouping e).ids = e.ids := by
  rw [Expr.ids, expr, numbers_node]
  rfl

@[simp] theorem Expr.ids_unary : (Expr.unary t e).ids = e.ids := by
  rw [Expr.ids, expr, numbers_node]
  rfl

@[simp] theorem Expr.ids_binary : (Expr.binary e t e').ids = e.ids ++ e'.ids := by
  rw [Expr.ids, expr, numbers_node]
  exact numbers_cons _ _

@[simp] theorem Expr.ids_logical : (Expr.logical e t e').ids = e.ids ++ e'.ids := by
  rw [Expr.ids, expr, numbers_node]
  exact numbers_cons _ _

@[simp] theorem Expr.ids_reference : (Expr.reference o).ids = [o.id] := by
  rw [Expr.ids, expr, numbers_node]
  exact numbers_occurs _ o

@[simp] theorem Expr.ids_assign : (Expr.assign o e).ids = o.id :: e.ids := by
  rw [Expr.ids, expr, numbers_node]
  change numbers (occurs .assignment o :: [expr e]) = _
  rw [numbers_cons, numbers_occurs]
  rfl

@[simp] theorem Expr.ids_call : (Expr.call e t es).ids = e.ids ++ es.flatMap Expr.ids := by
  rw [Expr.ids, expr, numbers_node]
  change numbers (expr e :: es.map expr) = _
  rw [numbers_cons, numbers_exprs]
  rfl

@[simp] theorem Expr.ids_get : (Expr.get e t).ids = e.ids := by
  rw [Expr.ids, expr, numbers_node]
  rfl

@[simp] theorem Expr.ids_set : (Expr.set e t e').ids = e.ids ++ e'.ids := by
  rw [Expr.ids, expr, numbers_node]
  exact numbers_cons _ _

@[simp] theorem Expr.ids_this : (Expr.this o).ids = [o.id] := by
  rw [Expr.ids, expr, numbers_node]
  exact numbers_occurs _ o

@[simp] theorem Expr.ids_super : (Expr.super o t).ids = [o.id] := by
  rw [Expr.ids, expr, numbers_node]
  exact numbers_occurs _ o

/-- The numbers of the occurrences of an optional expression. -/
def Expr.optionIds (e : Option Expr) : List NodeId :=
  e.elim [] Expr.ids

variable (s s' : Stmt) (d : FunctionDecl) (ds : List FunctionDecl) (ss : List Stmt)

@[simp] theorem Stmt.ids_block : (Stmt.block ss).ids = ss.flatMap Stmt.ids := by
  rw [Stmt.ids, stmt, numbers_node]
  change numbers (between .opening .closing (ss.map stmt)) = _
  rw [numbers_between rfl rfl, numbers_stmts]

@[simp] theorem Stmt.ids_classDecl (superclass : Option Occurrence) :
    (Stmt.classDecl t superclass ds).ids =
      (superclass.map Occurrence.id).toList ++ ds.flatMap FunctionDecl.ids := by
  rw [Stmt.ids, stmt, numbers_node]
  cases superclass with
  | none =>
    change numbers (between (.enterClass false) .leaveClass (introduce t ++ methodScope ds)) = _
    rw [numbers_between rfl rfl, numbers_append, numbers_introduce, numbers_methodScope]
    rfl
  | some o =>
    change numbers (between (.enterClass true) .leaveClass (introduce t ++ inheriting t o ds)) = _
    rw [numbers_between rfl rfl, numbers_append, numbers_introduce, numbers_inheriting]
    rfl

@[simp] theorem Stmt.ids_expression : (Stmt.expression e).ids = e.ids := by
  rw [Stmt.ids, stmt, numbers_node]
  rfl

@[simp] theorem Stmt.ids_functionDecl : (Stmt.functionDecl d).ids = d.ids := by
  rw [Stmt.ids, stmt, numbers_node]
  change numbers (introduce d.name ++ function .plain d) = _
  rw [numbers_append, numbers_introduce, numbers_function]
  rfl

@[simp] theorem Stmt.ids_conditional (otherwise : Option Stmt) :
    (Stmt.conditional e s otherwise).ids = e.ids ++ (s.ids ++ otherwise.elim [] Stmt.ids) := by
  rw [Stmt.ids, stmt, numbers_node]
  cases otherwise with
  | none =>
    change numbers [expr e, stmt s] = _
    rw [numbers_cons, Option.elim_none, List.append_nil]
    rfl
  | some s' =>
    change numbers [expr e, stmt s, stmt s'] = _
    rw [numbers_cons, numbers_cons (stmt s)]
    rfl

@[simp] theorem Stmt.ids_print : (Stmt.print e).ids = e.ids := by
  rw [Stmt.ids, stmt, numbers_node]
  rfl

@[simp] theorem Stmt.ids_ret (value : Option Expr) :
    (Stmt.ret t value).ids = Expr.optionIds value := by
  rw [Stmt.ids, stmt, numbers_node]
  cases value with
  | none => exact numbers_leaf (.returns t false)
  | some e =>
    change numbers [.leaf (.returns t true), expr e] = _
    rw [numbers_cons, numbers_leaf]
    rfl

@[simp] theorem Stmt.ids_varDecl (initializer : Option Expr) :
    (Stmt.varDecl t initializer).ids = Expr.optionIds initializer := by
  rw [Stmt.ids, stmt, numbers_node]
  cases initializer with
  | none => exact numbers_introduce t
  | some e =>
    change numbers (between (.declare t) (.define t) [expr e]) = _
    rw [numbers_between rfl rfl]
    rfl

@[simp] theorem Stmt.ids_loop : (Stmt.loop e s).ids = e.ids ++ s.ids := by
  rw [Stmt.ids, stmt, numbers_node]
  exact numbers_cons _ _

@[simp] theorem FunctionDecl.ids_eq : d.ids = d.body.flatMap Stmt.ids := by
  rw [FunctionDecl.ids, numbers_node]
  change numbers (between .opening .closing (d.params.flatMap introduce ++ d.body.map stmt)) = _
  rw [numbers_between rfl rfl, numbers_append, numbers_introduces, numbers_stmts, List.nil_append]

end

/-! ### Ranges -/

/-- Numbers from `lo` up to but without `hi`, no two of them alike. -/
structure Apart (lo hi : NodeId) (ids : List NodeId) : Prop where
  distinct : ids.Nodup
  range : ∀ id ∈ ids, lo ≤ id ∧ id < hi

namespace Apart

variable {lo mid hi : NodeId} {ids ids' : List NodeId}

theorem nil : Apart lo hi [] :=
  ⟨List.nodup_nil, fun _ mem => nomatch mem⟩

theorem single (id : NodeId) : Apart id (id + 1) [id] :=
  ⟨List.nodup_singleton id, fun id' mem => by
    rw [List.mem_singleton.1 mem]
    exact ⟨Nat.le_refl id, Nat.lt_succ_self id⟩⟩

theorem mono {lo' hi' : NodeId} (h : Apart lo hi ids) (le : lo' ≤ lo) (le' : hi ≤ hi') :
    Apart lo' hi' ids :=
  ⟨h.distinct, fun id mem =>
    ⟨Nat.le_trans le (h.range id mem).1, Nat.lt_of_lt_of_le (h.range id mem).2 le'⟩⟩

theorem append {mid' : NodeId} (h : Apart lo mid ids) (h' : Apart mid' hi ids') (le : lo ≤ mid)
    (between : mid ≤ mid') (le' : mid' ≤ hi) : Apart lo hi (ids ++ ids') := by
  refine ⟨List.nodup_append.2 ⟨h.distinct, h'.distinct, ?_⟩, fun id mem => ?_⟩
  · rintro id mem _ mem' rfl
    have below := (h.range id mem).2
    have above := (h'.range id mem').1
    exact Nat.lt_irrefl id (Nat.lt_of_lt_of_le below (Nat.le_trans between above))
  · rcases List.mem_append.1 mem with mem | mem
    · exact (h.mono (Nat.le_refl _) (Nat.le_trans between le')).range id mem
    · exact (h'.mono (Nat.le_trans le between) (Nat.le_refl _)).range id mem

/-- The later numbers may stand first. -/
theorem append_swap {mid' : NodeId} (h : Apart lo mid ids) (h' : Apart mid' hi ids')
    (le : lo ≤ mid) (between : mid ≤ mid') (le' : mid' ≤ hi) : Apart lo hi (ids' ++ ids) := by
  obtain ⟨distinct, range⟩ := h.append h' le between le'
  exact ⟨(List.perm_append_comm.nodup_iff).1 distinct,
    fun id mem => range id (List.perm_append_comm.mem_iff.1 mem)⟩

end Apart

end Lox
