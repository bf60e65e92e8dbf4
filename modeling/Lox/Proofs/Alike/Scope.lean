import Lox.Proofs.Alike.Tree
import Lox.Scope.Analysis

/-!
# The static reading of alike trees

Trees that differ in labels only have events that differ in labels only, and so their static
readings come to the same verdict: violations at corresponding tokens, and the same distances for
corresponding occurrences.

## Main definitions

* `Part.Alike`, `Scope.Event.Alike`: parts of trees and events up to a relabelling.
* `Scope.AnalysisAlike`: states of the static reading up to a relabelling.

## Main results

* `Traversal.toList_alike`: traversals of related parts have related results.
* `Scope.programEvents_alike`, `Stmt.Alike.ids`: the events and the numbers of alike trees.
* `Scope.analyse_alike`: the verdicts on alike trees.
-/

namespace Lox

/-! ### Traversals of related parts -/

/-- Two parts are related nodes or related elements. -/
inductive Part.Alike {ν ω : Type} (N : ν → ν → Prop) (W : ω → ω → Prop) :
    Part ν ω → Part ν ω → Prop
  | node {n n' : ν} (nodes : N n n') : Alike N W (.node n) (.node n')
  | leaf {x x' : ω} (elements : W x x') : Alike N W (.leaf x) (.leaf x')

/-- If related nodes expand to related parts, related parts have related results. -/
theorem Traversal.toList_alike {ν ω : Type} (t : Traversal ν ω) {N : ν → ν → Prop}
    {W : ω → ω → Prop}
    (expand : ∀ n n', N n n' → List.Forall₂ (Part.Alike N W) (t.expand n) (t.expand n')) :
    ∀ {ps ps' : List (Part ν ω)}, List.Forall₂ (Part.Alike N W) ps ps' →
      List.Forall₂ W (t.toList ps) (t.toList ps')
  | [], _, .nil => by
    rw [toList_nil]
    exact .nil
  | .leaf x :: ps, _, .cons (.leaf elements) rest => by
    rw [toList_leaf, toList_leaf]
    exact .cons elements (t.toList_alike expand rest)
  | .node n :: ps, _, .cons (.node nodes) rest => by
    rw [toList_node, toList_node]
    exact List.rel_append (t.toList_alike expand (expand _ _ nodes)) (t.toList_alike expand rest)
termination_by ps => (Part.total t.weight ps, ps.length)
decreasing_by
  · simp [Prod.lex_def]
  · have h := t.total_expand_lt n
    simp only [Part.total_node, Prod.lex_def]
    omega
  · simp only [Part.total_node, List.length_cons, Prod.lex_def]
    omega

namespace Scope

section

variable (c : Relabelling)

/-- Two parts of trees that are the same up to their labels. -/
inductive NodeAlike : Node → Node → Prop
  | expression {e e' : Expr} (h : e.Alike c e') : NodeAlike (.expression e) (.expression e')
  | statement {s s' : Stmt} (h : s.Alike c s') : NodeAlike (.statement s) (.statement s')
  | function {d d' : FunctionDecl} (h : d.Alike c d') : NodeAlike (.function d) (.function d')

/-- Two events that are the same up to their labels. -/
inductive Event.Alike : Event → Event → Prop
  | opening : Alike .opening .opening
  | closing : Alike .closing .closing
  | declare {t t' : Token} (name : t.Alike c t') : Alike (.declare t) (.declare t')
  | define {t t' : Token} (name : t.Alike c t') : Alike (.define t) (.define t')
  | implicit (name : String) : Alike (.implicit name) (.implicit name)
  | enterFunction (role : FunctionRole) : Alike (.enterFunction role) (.enterFunction role)
  | leaveFunction : Alike .leaveFunction .leaveFunction
  | enterClass (hasSuperclass : Bool) :
      Alike (.enterClass hasSuperclass) (.enterClass hasSuperclass)
  | leaveClass : Alike .leaveClass .leaveClass
  | selfInheritance {t t' : Token} (superclass : t.Alike c t') :
      Alike (.selfInheritance t) (.selfInheritance t')
  | occurs (kind : SiteKind) {o o' : Occurrence} (occurrence : o.Alike c o') :
      Alike (.occurs ⟨kind, o⟩) (.occurs ⟨kind, o'⟩)
  | returns {t t' : Token} (keyword : t.Alike c t') (hasValue : Bool) :
      Alike (.returns t hasValue) (.returns t' hasValue)

/-- Two lists of pieces that are the same up to their labels. -/
abbrev PiecesAlike (ps ps' : List Piece) : Prop :=
  List.Forall₂ (Part.Alike (NodeAlike c) (Event.Alike c)) ps ps'

end

variable {c : Relabelling}

/-! ### Pieces of alike trees -/

theorem piecesAlike_exprs {es es' : List Expr} (h : List.Forall₂ (Expr.Alike c) es es') :
    PiecesAlike c (es.map expr) (es'.map expr) :=
  List.rel_map (fun _ _ h => .node (.expression h)) h

theorem piecesAlike_stmts {ss ss' : List Stmt} (h : List.Forall₂ (Stmt.Alike c) ss ss') :
    PiecesAlike c (ss.map stmt) (ss'.map stmt) :=
  List.rel_map (fun _ _ h => .node (.statement h)) h

theorem piecesAlike_between {first first' last last' : Event} {ps ps' : List Piece}
    (h : first.Alike c first') (h' : last.Alike c last') (pieces : PiecesAlike c ps ps') :
    PiecesAlike c (between first last ps) (between first' last' ps') :=
  List.rel_append (.cons (.leaf h) pieces) (.cons (.leaf h') .nil)

theorem piecesAlike_introduce {t t' : Token} (h : t.Alike c t') :
    PiecesAlike c (introduce t) (introduce t') :=
  .cons (.leaf (.declare h)) (.cons (.leaf (.define h)) .nil)

theorem piecesAlike_function {d d' : FunctionDecl} (role : FunctionRole) (h : d.Alike c d') :
    PiecesAlike c (function role d) (function role d') :=
  piecesAlike_between (.enterFunction role) .leaveFunction (.cons (.node (.function h)) .nil)

theorem methodRole_eq {d d' : FunctionDecl} (h : d.Alike c d') : methodRole d' = methodRole d := by
  rw [methodRole, methodRole, h.name.lexeme]

theorem piecesAlike_methodScope {ds ds' : List FunctionDecl}
    (h : List.Forall₂ (FunctionDecl.Alike c) ds ds') :
    PiecesAlike c (methodScope ds) (methodScope ds') := by
  refine piecesAlike_between .opening .closing (.cons (.leaf (.implicit "this")) ?_)
  refine List.rel_flatMap h fun d d' h => ?_
  rw [methodRole_eq h]
  exact piecesAlike_function _ h

theorem piecesAlike_inheriting {t t' : Token} {o o' : Occurrence} {ds ds' : List FunctionDecl}
    (name : t.Alike c t') (superclass : o.Alike c o')
    (h : List.Forall₂ (FunctionDecl.Alike c) ds ds') :
    PiecesAlike c (inheriting t o ds) (inheriting t' o' ds') := by
  have super : PiecesAlike c (between .opening .closing
      (.leaf (.implicit "super") :: methodScope ds))
      (between .opening .closing (.leaf (.implicit "super") :: methodScope ds')) :=
    piecesAlike_between .opening .closing
      (.cons (.leaf (.implicit "super")) (piecesAlike_methodScope h))
  have site : PiecesAlike c [Scope.occurs .reference o] [Scope.occurs .reference o'] :=
    .cons (.leaf (.occurs .reference superclass)) .nil
  unfold inheriting
  rw [superclass.name.lexeme, name.lexeme]
  split
  · exact List.rel_append
      (List.rel_append (.cons (.leaf (.selfInheritance superclass.name)) .nil) site) super
  · exact List.rel_append (List.rel_append .nil site) super

theorem expandExpr_alike {e e' : Expr} (h : e.Alike c e') :
    PiecesAlike c (expandExpr e) (expandExpr e') := by
  have node {e e' : Expr} (h : e.Alike c e') :
      Part.Alike (NodeAlike c) (Event.Alike c) (expr e) (expr e') :=
    .node (.expression h)
  have site {o o' : Occurrence} (kind : SiteKind) (h : o.Alike c o') :
      Part.Alike (NodeAlike c) (Event.Alike c) (Scope.occurs kind o) (Scope.occurs kind o') :=
    .leaf (.occurs kind h)
  cases h with
  | literal => exact .nil
  | grouping inner => exact .cons (node inner) .nil
  | unary _ right => exact .cons (node right) .nil
  | binary left _ right | logical left _ right => exact .cons (node left) (.cons (node right) .nil)
  | reference name => exact .cons (site .reference name) .nil
  | assign name value => exact .cons (site .assignment name) (.cons (node value) .nil)
  | call callee _ arguments => exact .cons (node callee) (piecesAlike_exprs arguments)
  | get object => exact .cons (node object) .nil
  | set object _ value => exact .cons (node object) (.cons (node value) .nil)
  | this keyword => exact .cons (site .this keyword) .nil
  | super keyword => exact .cons (site .super keyword) .nil

theorem expandStmt_alike {s s' : Stmt} (h : s.Alike c s') :
    PiecesAlike c (expandStmt s) (expandStmt s') := by
  have node {e e' : Expr} (h : e.Alike c e') :
      Part.Alike (NodeAlike c) (Event.Alike c) (expr e) (expr e') :=
    .node (.expression h)
  have part {s s' : Stmt} (h : s.Alike c s') :
      Part.Alike (NodeAlike c) (Event.Alike c) (stmt s) (stmt s') :=
    .node (.statement h)
  cases h with
  | block body => exact piecesAlike_between .opening .closing (piecesAlike_stmts body)
  | classDecl name superclass methods =>
    cases superclass with
    | none =>
      exact piecesAlike_between (.enterClass false) .leaveClass
        (List.rel_append (piecesAlike_introduce name) (piecesAlike_methodScope methods))
    | some superclass =>
      exact piecesAlike_between (.enterClass true) .leaveClass
        (List.rel_append (piecesAlike_introduce name)
          (piecesAlike_inheriting name superclass methods))
  | expression value => exact .cons (node value) .nil
  | functionDecl declaration =>
    exact List.rel_append (piecesAlike_introduce declaration.name)
      (piecesAlike_function .plain declaration)
  | conditional condition thenBranch elseBranch =>
    cases elseBranch with
    | none => exact .cons (node condition) (.cons (part thenBranch) .nil)
    | some elseBranch =>
      exact .cons (node condition) (.cons (part thenBranch) (.cons (part elseBranch) .nil))
  | print value => exact .cons (node value) .nil
  | ret keyword value =>
    cases value with
    | none => exact .cons (.leaf (.returns keyword false)) .nil
    | some value => exact .cons (.leaf (.returns keyword true)) (.cons (node value) .nil)
  | varDecl name initializer =>
    cases initializer with
    | none => exact piecesAlike_introduce name
    | some value =>
      exact .cons (.leaf (.declare name)) (.cons (node value) (.cons (.leaf (.define name)) .nil))
  | loop condition body => exact .cons (node condition) (.cons (part body) .nil)

theorem expandFunction_alike {d d' : FunctionDecl} (h : d.Alike c d') :
    PiecesAlike c (expandFunction d) (expandFunction d') :=
  piecesAlike_between .opening .closing (List.rel_append
    (List.rel_flatMap h.params fun _ _ h => piecesAlike_introduce h) (piecesAlike_stmts h.body))

theorem expand_alike (n n' : Node) (h : NodeAlike c n n') :
    PiecesAlike c (expand n) (expand n') := by
  cases h with
  | expression h => exact expandExpr_alike h
  | statement h => exact expandStmt_alike h
  | function h => exact expandFunction_alike h

/-- Alike pieces have alike events. -/
theorem events_alike {ps ps' : List Piece} (h : PiecesAlike c ps ps') :
    List.Forall₂ (Event.Alike c) (scoping.toList ps) (scoping.toList ps') :=
  scoping.toList_alike expand_alike h

/-- Alike programs have alike events. -/
theorem programEvents_alike {p p' : List Stmt} (h : List.Forall₂ (Stmt.Alike c) p p') :
    List.Forall₂ (Event.Alike c) (programEvents p) (programEvents p') :=
  events_alike (piecesAlike_stmts h)

/-! ### The static reading -/

section

variable (c : Relabelling)

/-- Two violations of one rule at corresponding tokens. -/
structure ErrorAlike (e e' : ScopeError) : Prop where
  token : e.token.Alike c e'.token
  cause : e'.cause = e.cause

/-- One distance of corresponding occurrences. -/
structure DistanceAlike (p p' : NodeId × Nat) : Prop where
  id : c.ids p.1 p'.1
  distance : p'.2 = p.2

/-- Two states of the static reading that are the same up to labels. -/
structure AnalysisAlike (a a' : Analysis) : Prop where
  scopes : a'.scopes = a.scopes
  functions : a'.functions = a.functions
  classes : a'.classes = a.classes
  errors : List.Forall₂ (ErrorAlike c) a.errors a'.errors
  distances : List.Forall₂ (DistanceAlike c) a.distances a'.distances

end

namespace AnalysisAlike

variable {a a' : Analysis} {t t' : Token} {o o' : Occurrence}

theorem start : AnalysisAlike c .start .start :=
  ⟨rfl, rfl, rfl, .nil, .nil⟩

theorem local?_eq (h : AnalysisAlike c a a') (name : String) : a'.local? name = a.local? name := by
  rw [Analysis.local?, Analysis.local?, h.scopes]

theorem report (h : AnalysisAlike c a a') (token : t.Alike c t') (cause : ScopeError.Cause) :
    AnalysisAlike c (a.report t cause) (a'.report t' cause) :=
  { h with errors := .cons ⟨token, rfl⟩ h.errors }

theorem enter (h : AnalysisAlike c a a') (name : String) (ready : Bool) :
    AnalysisAlike c (a.enter name ready) (a'.enter name ready) := by
  unfold Analysis.enter
  rw [h.scopes]
  cases a.scopes with
  | nil => exact h
  | cons scope scopes => exact { h with scopes := rfl }

theorem declare (h : AnalysisAlike c a a') (name : t.Alike c t') :
    AnalysisAlike c (a.declare t) (a'.declare t') := by
  unfold Analysis.declare
  rw [h.local?_eq, name.lexeme]
  split
  · exact h.report name _
  · exact h.enter _ _

theorem record (h : AnalysisAlike c a a') (occurrence : o.Alike c o') :
    AnalysisAlike c (a.record o) (a'.record o') := by
  unfold Analysis.record
  rw [h.scopes, occurrence.name.lexeme]
  cases distance? o.name.lexeme a.scopes with
  | none => exact h
  | some distance =>
    exact ⟨rfl, h.functions, h.classes, h.errors, .cons ⟨occurrence.id, rfl⟩ h.distances⟩

theorem occurs (h : AnalysisAlike c a a') (kind : SiteKind) (occurrence : o.Alike c o') :
    AnalysisAlike c (a.occurs ⟨kind, o⟩) (a'.occurs ⟨kind, o'⟩) := by
  have name := occurrence.name
  cases kind with
  | assignment => exact h.record occurrence
  | reference =>
    dsimp only [Analysis.occurs]
    rw [h.local?_eq, name.lexeme]
    split
    · exact (h.report name _).record occurrence
    · exact h.record occurrence
  | this =>
    dsimp only [Analysis.occurs]
    rw [h.classes]
    split
    · exact h.report name _
    · exact h.record occurrence
  | super =>
    dsimp only [Analysis.occurs]
    rw [h.classes]
    cases a.classes with
    | nil => exact (h.report name _).record occurrence
    | cons hasSuperclass _ =>
      cases hasSuperclass with
      | false => exact (h.report name _).record occurrence
      | true => exact h.record occurrence

theorem returns (h : AnalysisAlike c a a') (keyword : t.Alike c t') (hasValue : Bool) :
    AnalysisAlike c (a.returns t hasValue) (a'.returns t' hasValue) := by
  unfold Analysis.returns
  rw [h.functions]
  split
  · exact h.report keyword _
  · split
    · exact h.report keyword _
    · exact h
  · exact h

theorem step (h : AnalysisAlike c a a') {e e' : Event} (event : e.Alike c e') :
    AnalysisAlike c (a.step e) (a'.step e') := by
  cases event with
  | opening => exact { h with scopes := congrArg (∅ :: ·) h.scopes }
  | closing => exact { h with scopes := congrArg List.tail h.scopes }
  | declare name => exact h.declare name
  | @define t t' name =>
    dsimp only [Analysis.step]
    rw [name.lexeme]
    exact h.enter _ _
  | implicit name => exact h.enter name true
  | enterFunction role => exact { h with functions := congrArg (role :: ·) h.functions }
  | leaveFunction => exact { h with functions := congrArg List.tail h.functions }
  | enterClass hasSuperclass => exact { h with classes := congrArg (hasSuperclass :: ·) h.classes }
  | leaveClass => exact { h with classes := congrArg List.tail h.classes }
  | selfInheritance superclass => exact h.report superclass _
  | occurs kind occurrence => exact h.occurs kind occurrence
  | returns keyword hasValue => exact h.returns keyword hasValue

/-- Alike events lead from alike states to alike states. -/
theorem foldl {es es' : List Event} (events : List.Forall₂ (Event.Alike c) es es')
    (h : AnalysisAlike c a a') :
    AnalysisAlike c (es.foldl Analysis.step a) (es'.foldl Analysis.step a') := by
  induction events generalizing a a' with
  | nil => exact h
  | cons event _ ih => exact ih (h.step event)

end AnalysisAlike

/-- The verdicts on alike events. -/
theorem analyse_alike {es es' : List Event} (events : List.Forall₂ (Event.Alike c) es es') :
    List.Forall₂ (ErrorAlike c) (analyse es).errors (analyse es').errors ∧
      List.Forall₂ (DistanceAlike c) (analyse es).distances (analyse es').distances :=
  have h := AnalysisAlike.foldl events .start
  ⟨List.rel_reverse h.errors, List.rel_reverse h.distances⟩

/-! ### Numbers of alike trees -/

theorem idsOf_alike {es es' : List Event} (h : List.Forall₂ (Event.Alike c) es es') :
    List.Forall₂ c.ids (idsOf es) (idsOf es') := by
  induction h with
  | nil => exact .nil
  | cons event _ ih =>
    cases event with
    | occurs kind occurrence => exact .cons occurrence.id ih
    | _ => exact ih

theorem numbers_alike {ps ps' : List Piece} (h : PiecesAlike c ps ps') :
    List.Forall₂ c.ids (numbers ps) (numbers ps') :=
  idsOf_alike (events_alike h)

end Scope

open Scope

theorem Expr.Alike.ids {e e' : Expr} (h : e.Alike c e') : List.Forall₂ c.ids e.ids e'.ids :=
  numbers_alike (.cons (.node (.expression h)) .nil)

theorem Stmt.Alike.ids {s s' : Stmt} (h : s.Alike c s') : List.Forall₂ c.ids s.ids s'.ids :=
  numbers_alike (.cons (.node (.statement h)) .nil)

theorem FunctionDecl.Alike.ids {f f' : FunctionDecl} (h : f.Alike c f') :
    List.Forall₂ c.ids f.ids f'.ids :=
  numbers_alike (.cons (.node (.function h)) .nil)

end Lox
