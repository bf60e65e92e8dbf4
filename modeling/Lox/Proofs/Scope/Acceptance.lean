import Lox.Proofs.Scope.Stage

/-!
# Accepted programs are well-scoped

If the static reading finds no violations in a formed program, every part of the program fits its
place, and every occurrence of a name is visited where the open scopes show the layers of its place.

## Main definitions

* `Stmt.Fits`, `FunctionDecl.Fits`: the reading of a part shows that it fits its place.

## Main results

* `Expr.Formed.leads`, `Stmt.Formed.fits`, `FunctionDecl.Formed.fits`: parts of accepted programs.
* `Scope.wellScoped_of_accepted`: accepted programs are well-scoped.
-/

namespace Lox

open Scope

variable {program : List Stmt}

/-! ### Expressions -/

/-- The events of an expression. -/
theorem Scope.events_expression (e : Expr) :
    events (.expression e) = (expandExpr e).flatMap (pieceEvents (.expression e)) :=
  events_eq _

section

variable {σ : Stage}

/-- Expressions in sequence. -/
theorem Scope.leads_all {n : Node} {shows : Expr → Prop} {arguments : List Expr}
    (h : ∀ e ∈ arguments, Leads program σ (events (.expression e)) (shows e) σ) :
    Leads program σ ((arguments.map expr).flatMap (pieceEvents n))
      (∀ e ∈ arguments, shows e) σ := by
  induction arguments with
  | nil => exact .nil nofun
  | cons e es ih =>
    have first := h e List.mem_cons_self
    have rest := ih fun e' mem => h e' (List.mem_cons_of_mem e mem)
    exact (first.append rest).imp fun h => List.forall_mem_cons.2 h

/-- Expressions of accepted programs fit their places. -/
theorem Expr.Formed.leads (accepted : Accepted program) (standing : σ.Standing)
    (notReady : σ.ready = false) (ordinary : ∀ x, σ.place.pending = some x → Ordinary x) {e : Expr}
    (formed : e.Formed) :
    Leads program σ (events (.expression e)) (e.WellScoped (Charted program) σ.place) σ := by
  induction formed with
  | literal =>
    rw [events_expression]
    exact .nil .literal
  | grouping _ ih =>
    rw [events_expression]
    exact (ih.append (.nil trivial)).imp fun h => .grouping h.1
  | unary isUnary _ ih =>
    rw [events_expression]
    exact (ih.append (.nil trivial)).imp fun h => .unary isUnary h.1
  | binary isBinary _ _ ih ih' =>
    rw [events_expression]
    exact (ih.append (ih'.append (.nil trivial))).imp fun h => .binary isBinary h.1 h.2.1
  | logical _ _ ih ih' =>
    rw [events_expression]
    exact (ih.append (ih'.append (.nil trivial))).imp fun h => .logical h.1 h.2.1
  | reference _ =>
    rw [events_expression]
    exact leads_reference accepted fun isReady => absurd (notReady.symm.trans isReady) nofun
  | @assign o value isOrdinary _ ih =>
    rw [events_expression]
    have charted : Leads program σ [(.expression (.assign o value), .occurs ⟨.assignment, o⟩)]
        (Charted program σ.place .assignment o) σ :=
      leads_occurs fun r comes holds => holds.charted comes fun _ => notReady
    exact (charted.append (ih.append (.nil trivial))).imp fun h => .assign h.1 isOrdinary h.2.1
  | call _ _ ih ih' =>
    rw [events_expression]
    exact (ih.append (leads_all ih')).imp fun h => .call h.1 h.2
  | get _ ih =>
    rw [events_expression]
    exact (ih.append (.nil trivial)).imp fun h => .get h.1
  | set _ _ ih ih' =>
    rw [events_expression]
    exact (ih.append (ih'.append (.nil trivial))).imp fun h => .set h.1 h.2.1
  | this spelled =>
    rw [events_expression]
    exact leads_this accepted standing ordinary spelled
  | super spelled =>
    rw [events_expression]
    exact leads_super accepted standing ordinary spelled

end

/-! ### Functions and classes that are open -/

namespace Scope.Stage.Standing

variable {p : Position} {ready : Bool} {functions : List FunctionRole} {classes : List Bool}
  {x : String}

/-- Declared names leave `this` and `super` as they are. -/
theorem declare (ordinary : Ordinary x) (standing : Standing ⟨p, ready, functions, classes⟩) :
    Standing ⟨p.declare x, ready, functions, classes⟩ where
  returns isOpen := Position.inFunction_declare.trans (standing.returns isOpen)
  this isOpen := by
    rw [layerDistance?_declare (Ne.symm ordinary.1)]
    exact standing.this isOpen
  super inherits := by
    rw [layerDistance?_declare (Ne.symm ordinary.1), layerDistance?_declare (Ne.symm ordinary.2)]
    obtain ⟨d, isThis, isSuper, isInside⟩ := standing.super inherits
    exact ⟨d, isThis, isSuper, isInside.congr Position.openers_declare⟩

/-- So do names that are being declared. -/
theorem await (standing : Standing ⟨p, ready, functions, classes⟩) :
    Standing ⟨p.await x, ready, functions, classes⟩ where
  returns isOpen := Position.inFunction_await.trans (standing.returns isOpen)
  this isOpen := by
    rw [Position.layers_await]
    exact standing.this isOpen
  super inherits := by
    rw [Position.layers_await]
    obtain ⟨d, isThis, isSuper, isInside⟩ := standing.super inherits
    exact ⟨d, isThis, isSuper, isInside.congr (congrArg _ Position.layers_await)⟩

/-- A layer inside leaves `this` and `super` as they are. -/
theorem inner {q : Position} {functions' : List FunctionRole} {layer : Layer}
    (standing : Standing ⟨p, ready, functions, classes⟩)
    (returns : functions' ≠ [] → q.inFunction = true) (isLayers : q.layers = layer :: p.layers)
    (ordinary : ∀ x ∈ layer.names, Ordinary x) (plain : ¬ IsClass layer.opener) :
    Standing ⟨q, ready, functions', classes⟩ where
  returns := returns
  this isOpen := by
    obtain ⟨d, isThis⟩ := standing.this isOpen
    refine ⟨d + 1, ?_⟩
    rw [isLayers, layerDistance?_of_notMem fun mem => (ordinary _ mem).1 rfl, isThis]
    rfl
  super inherits := by
    obtain ⟨d, isThis, isSuper, name, superclass, methods, encloses⟩ := standing.super inherits
    refine ⟨d + 1, ?_, ?_, name, superclass, methods, ?_⟩
    · rw [isLayers, layerDistance?_of_notMem fun mem => (ordinary _ mem).1 rfl, isThis]
      rfl
    · rw [isLayers, layerDistance?_of_notMem fun mem => (ordinary _ mem).2 rfl, isSuper]
      rfl
    · rw [isLayers]
      refine ⟨encloses.receiver, encloses.superclass, fun d' opener lt isOpener => ?_⟩
      cases d' with
      | zero => exact Option.some.inj isOpener ▸ plain
      | succ d' => exact encloses.first d' opener (Nat.lt_of_succ_lt_succ lt) isOpener

end Scope.Stage.Standing

/-! ### Statements -/

/-- The reading of a statement shows that it fits its place. -/
def Stmt.Fits (program : List Stmt) (s : Stmt) : Prop :=
  ∀ (p : Position) (functions : List FunctionRole) (classes : List Bool), p.pending = none →
    Stage.Standing ⟨p, false, functions, classes⟩ →
      Leads program ⟨p, false, functions, classes⟩ (events (.statement s))
        (s.WellScoped (Charted program) p) ⟨p.after s, false, functions, classes⟩

/-- The reading of a function shows that it fits its place. -/
def FunctionDecl.Fits (program : List Stmt) (d : FunctionDecl) : Prop :=
  ∀ (n : Node) (role : FunctionRole) (p : Position) (functions : List FunctionRole)
    (classes : List Bool), p.pending = none → Stage.Standing ⟨p, false, functions, classes⟩ →
      Leads program ⟨p, false, functions, classes⟩ ((function role d).flatMap (pieceEvents n))
        (d.WellScoped (Charted program) p) ⟨p, false, functions, classes⟩

/-- Only names that can be written are declared. -/
theorem Stmt.Formed.ordinary {s : Stmt} (formed : s.Formed) {x : String}
    (declares : s.declared? = some x) : Ordinary x := by
  cases formed with
  | classDecl ordinary _ _ =>
    cases declares
    exact ordinary
  | functionDecl h =>
    cases declares
    cases h with
    | mk named _ _ => exact named
  | varDecl ordinary _ =>
    cases declares
    exact ordinary
  | _ => cases declares

section

variable {p : Position} {functions : List FunctionRole} {classes : List Bool}

/-- Statements in sequence fit their place. -/
theorem Scope.leads_statements {n : Node} {ss : List Stmt} (formed : ∀ s ∈ ss, s.Formed)
    (fits : ∀ s ∈ ss, s.Fits program) (settled : p.pending = none)
    (standing : Stage.Standing ⟨p, false, functions, classes⟩) :
    ∃ q, q.pending = none ∧ q.layers.tail = p.layers.tail ∧
      Leads program ⟨p, false, functions, classes⟩ ((ss.map stmt).flatMap (pieceEvents n))
        (Stmt.AllWellScoped (Charted program) p ss) ⟨q, false, functions, classes⟩ := by
  induction ss generalizing p with
  | nil => exact ⟨p, settled, rfl, .nil .nil⟩
  | cons s ss ih =>
    have settled' : (p.after s).pending = none := (Position.pending_add _).trans settled
    have standing' : Stage.Standing ⟨p.after s, false, functions, classes⟩ := by
      cases declares : s.declared? with
      | none => rwa [Position.after_of_plain declares]
      | some x =>
        rw [Position.after_of_declared? declares]
        exact standing.declare ((formed s List.mem_cons_self).ordinary declares)
    obtain ⟨q, settledEnd, outer, rest⟩ := ih (fun s' mem => formed s' (List.mem_cons_of_mem s mem))
      (fun s' mem => fits s' (List.mem_cons_of_mem s mem)) settled' standing'
    have first := fits s List.mem_cons_self p functions classes settled standing
    exact ⟨q, settledEnd, outer.trans Position.tail_after,
      (first.append rest).imp fun h => .cons h.1 h.2⟩

/-- Parameters are declared one after the other, each under a name of its own. -/
theorem Scope.leads_parameters (accepted : Accepted program) {n : Node} {params : List Token}
    {layer : Layer} {layers : List Layer} (inner : p.layers = layer :: layers)
    (settled : p.pending = none) :
    Leads program ⟨p, false, functions, classes⟩
      ((params.flatMap introduce).flatMap (pieceEvents n))
      ((params.map Token.lexeme).Nodup ∧ ∀ x ∈ params.map Token.lexeme, p.Fresh x)
      ⟨p.declareAll (params.map Token.lexeme), false, functions, classes⟩ := by
  induction params generalizing p layer with
  | nil => exact .nil ⟨List.nodup_nil, nofun⟩
  | cons name params ih =>
    have first : Leads program ⟨p, false, functions, classes⟩
        [(n, .declare name), (n, .define name)] (p.Fresh name.lexeme)
        ⟨p.declare name.lexeme, false, functions, classes⟩ := leads_introduce accepted settled
    have rest := ih (Position.layers_declare (x := name.lexeme) inner)
      (Position.pending_declare.trans settled)
    refine (first.append rest).imp ?_
    rintro ⟨fresh, distinct, freshRest⟩
    have others (x : String) (mem : x ∈ params.map Token.lexeme) :
        x ≠ name.lexeme ∧ p.Fresh x := by
      have notMem := freshRest x mem ⟨layer.opener, name.lexeme :: layer.names⟩
        (by rw [Position.layers_declare inner]; rfl)
      rw [List.mem_cons, not_or] at notMem
      refine ⟨notMem.1, fun layer' isHead => ?_⟩
      rw [inner] at isHead
      cases isHead
      exact notMem.2
    rw [List.map_cons, List.nodup_cons, List.forall_mem_cons]
    exact ⟨⟨fun mem => (others _ mem).1 rfl, distinct⟩, fresh, fun x mem => (others x mem).2⟩

/-- The events of a function. -/
theorem Scope.events_function (d : FunctionDecl) :
    events (.function d) = (.function d, .opening) ::
      ((d.params.flatMap introduce).flatMap (pieceEvents (.function d)) ++
        ((d.body.map stmt).flatMap (pieceEvents (.function d)) ++ [(.function d, .closing)])) := by
  rw [events_eq]
  simp [expand, expandFunction, between, pieceEvents]

/-- Functions fit the places around them. -/
theorem FunctionDecl.fits_of_body (accepted : Accepted program) {d : FunctionDecl}
    (ordinary : ∀ t ∈ d.params, Ordinary t.lexeme) (formed : ∀ s ∈ d.body, s.Formed)
    (fits : ∀ s ∈ d.body, s.Fits program) : d.Fits program := by
  intro n role p functions classes settled standing
  let q : Position := { p.enter (.function d) [] with inFunction := true }
  have params : Leads program ⟨q, false, role :: functions, classes⟩
      ((d.params.flatMap introduce).flatMap (pieceEvents (.function d))) _ _ :=
    leads_parameters accepted rfl settled
  rw [Position.declareAll_params] at params
  have standing' : Stage.Standing ⟨p.inBody d, false, role :: functions, classes⟩ := by
    refine standing.inner (fun _ => rfl) rfl (fun x mem => ?_) (not_isClass_function d)
    obtain ⟨t, isParam, rfl⟩ := List.mem_map.1 (List.mem_reverse.1 mem)
    exact ordinary t isParam
  obtain ⟨q', settled', outer, run⟩ :=
    leads_statements (n := .function d) (p := p.inBody d) formed fits settled standing'
  have isEvents : (function role d).flatMap (pieceEvents n) =
      (n, .enterFunction role) :: (events (.function d) ++ [(n, .leaveFunction)]) := by
    simp [function, between, pieceEvents]
  rw [isEvents, events_function]
  have scope := (leads_opening (n := .function d) (q := q) settled rfl settled).cons
    (params.append (run.append (leads_closing (n := .function d) settled' outer settled)))
  refine ((leads_enterFunction role).cons (scope.append leads_leaveFunction)).imp ?_
  rintro ⟨-, ⟨-, ⟨distinct, -⟩, wellScoped, -⟩, -⟩
  exact .mk ordinary distinct wellScoped

/-- Methods in sequence fit their place. -/
theorem Scope.leads_methods {n : Node} {ds : List FunctionDecl} (fits : ∀ d ∈ ds, d.Fits program)
    (settled : p.pending = none) (standing : Stage.Standing ⟨p, false, functions, classes⟩) :
    Leads program ⟨p, false, functions, classes⟩
      ((ds.flatMap fun d => function (methodRole d) d).flatMap (pieceEvents n))
      (∀ d ∈ ds, d.WellScoped (Charted program) p) ⟨p, false, functions, classes⟩ := by
  induction ds with
  | nil => exact .nil nofun
  | cons d ds ih =>
    have first := fits d List.mem_cons_self n (methodRole d) p functions classes settled standing
    have rest := ih fun d' mem => fits d' (List.mem_cons_of_mem d mem)
    rw [List.flatMap_cons, List.flatMap_append]
    exact (first.append rest).imp fun h => List.forall_mem_cons.2 h

/-- Methods fit the scope of their instance. -/
theorem Scope.leads_methodScope {n : Node} {ds : List FunctionDecl}
    (fits : ∀ d ∈ ds, d.Fits program) (settled : p.pending = none)
    (standing : Stage.Standing ⟨p.enter n ["this"], false, functions, classes⟩) :
    Leads program ⟨p, false, functions, classes⟩ ((methodScope ds).flatMap (pieceEvents n))
      (∀ d ∈ ds, d.WellScoped (Charted program) (p.enter n ["this"]))
      ⟨p, false, functions, classes⟩ := by
  have isEvents : (methodScope ds).flatMap (pieceEvents n) =
      (n, .opening) :: (n, .implicit "this") ::
      ((ds.flatMap fun d => function (methodRole d) d).flatMap (pieceEvents n) ++
        [(n, .closing)]) := by
    simp [methodScope, between, pieceEvents]
  have methods := leads_methods (n := n) (p := p.enter n ["this"]) fits settled standing
  have receiver := (leads_implicit (n := n) (p := p.enter n []) (x := "this") settled).cons
    (methods.append (leads_closing (n := n) settled rfl settled))
  rw [isEvents]
  exact ((leads_opening (q := p.enter n []) settled rfl settled).cons receiver).imp fun h => h.2.2.1

/-- The name of a class is new, and its superclass is another one. -/
theorem Scope.leads_heading (accepted : Accepted program) {n : Node} {name : Token} {o : Occurrence}
    (settled : p.pending = none) :
    Leads program ⟨p, false, functions, classes⟩
      ((n, .declare name) :: (n, .define name) ::
        ((if o.name.lexeme == name.lexeme then [(n, .selfInheritance o.name)] else []) ++
          [(n, .occurs ⟨.reference, o⟩)]))
      (p.Fresh name.lexeme ∧
        (Expr.reference o).WellScoped (Charted program) (p.await name.lexeme))
      ⟨p.declare name.lexeme, false, functions, classes⟩ := by
  have declared : Leads program ⟨p, false, functions, classes⟩ [(n, .declare name)] _ _ :=
    leads_declare accepted settled
  have defined : Leads program ⟨p.await name.lexeme, false, functions, classes⟩
      [(n, .define name)] _ _ := leads_define settled
  by_cases isSelf : o.name.lexeme == name.lexeme
  · rw [if_pos isSelf]
    have absurdly : Leads program ⟨p.await name.lexeme, true, functions, classes⟩
        [(n, .selfInheritance o.name)] _ ⟨p.await name.lexeme, true, functions, classes⟩ :=
      leads_selfInheritance accepted
    have occurs : Leads program ⟨p.await name.lexeme, true, functions, classes⟩
        [(n, .occurs ⟨.reference, o⟩)] True ⟨p.await name.lexeme, true, functions, classes⟩ :=
      leads_occurs fun _ _ _ => trivial
    refine ((declared.cons (defined.cons (absurdly.append occurs))).imp ?_).after
      fun _ holds => holds.settle settled
    exact fun h => h.2.2.1.elim
  · rw [if_neg isSelf, List.nil_append]
    have other : (p.await name.lexeme).pending ≠ some o.name.lexeme := by
      intro pending
      cases isLayers : p.layers with
      | nil =>
        rw [Position.await_top isLayers, settled] at pending
        cases pending
      | cons layer layers =>
        rw [Position.pending_await isLayers] at pending
        exact isSelf (beq_iff_eq.2 (Option.some.inj pending).symm)
    have occurs : Leads program ⟨p.await name.lexeme, true, functions, classes⟩
        [(n, .occurs ⟨.reference, o⟩)] _ _ := leads_reference accepted fun _ => other
    refine ((declared.cons (defined.cons occurs)).imp ?_).after fun _ holds => holds.settle settled
    exact fun h => ⟨h.1, h.2.2⟩

/-- The events of a class without a superclass. -/
theorem Scope.events_class {n : Node} {name : Token} {methods : List FunctionDecl}
    (isNode : n = .statement (.classDecl name none methods)) :
    events n = (n, .enterClass false) :: ([(n, .declare name), (n, .define name)] ++
      ((methodScope methods).flatMap (pieceEvents n) ++ [(n, .leaveClass)])) := by
  rw [events_eq]
  simp [isNode, expand, expandStmt, between, introduce, pieceEvents]

/-- The events of a class with a superclass. -/
theorem Scope.events_subclass {n : Node} {name : Token} {o : Occurrence}
    {methods : List FunctionDecl} (isNode : n = .statement (.classDecl name (some o) methods)) :
    events n = (n, .enterClass true) :: ((n, .declare name) :: (n, .define name) ::
      ((if o.name.lexeme == name.lexeme then [(n, .selfInheritance o.name)] else []) ++
        [(n, .occurs ⟨.reference, o⟩)]) ++ ((n, .opening) :: (n, .implicit "super") ::
          ((methodScope methods).flatMap (pieceEvents n) ++
            [(n, .closing), (n, .leaveClass)]))) := by
  rw [events_eq]
  by_cases isSelf : o.name.lexeme == name.lexeme <;>
    simp [isNode, expand, expandStmt, between, introduce, inheriting, occurs, pieceEvents, isSelf]

/-- Classes without a superclass fit their place. -/
theorem Stmt.fits_class (accepted : Accepted program) {name : Token} {methods : List FunctionDecl}
    (ordinary : Ordinary name.lexeme) (fits : ∀ d ∈ methods, d.Fits program) :
    (Stmt.classDecl name none methods).Fits program := by
  intro p functions classes settled standing
  let n : Node := .statement (.classDecl name none methods)
  have inside :
      Stage.Standing ⟨p.inClass name none methods, false, functions, false :: classes⟩ := by
    refine ⟨fun isOpen => Position.inFunction_declare.trans (standing.returns isOpen),
      fun _ => ?_, nofun⟩
    exact ⟨0, layerDistance?_of_mem List.mem_cons_self⟩
  have body := leads_methodScope (n := n) (p := p.declare name.lexeme) fits
    (Position.pending_declare.trans settled) inside
  have introduced : Leads program ⟨p, false, functions, false :: classes⟩
      [(n, .declare name), (n, .define name)] _ ⟨p.declare name.lexeme, false, functions, _⟩ :=
    leads_introduce accepted settled
  rw [events_class rfl]
  refine ((leads_enterClass false).cons (introduced.append (body.append leads_leaveClass))).imp ?_
  rintro ⟨-, fresh, wellScoped, -⟩
  exact .classDecl ordinary fresh nofun wellScoped

/-- Classes with a superclass fit their place. -/
theorem Stmt.fits_subclass (accepted : Accepted program) {name : Token} {o : Occurrence}
    {methods : List FunctionDecl} (ordinary : Ordinary name.lexeme)
    (fits : ∀ d ∈ methods, d.Fits program) :
    (Stmt.classDecl name (some o) methods).Fits program := by
  intro p functions classes settled standing
  let n : Node := .statement (.classDecl name (some o) methods)
  let above : Position := (p.declare name.lexeme).enter n ["super"]
  have settled' : (p.declare name.lexeme).pending = none := Position.pending_declare.trans settled
  have isSuper : layerDistance? "super" above.layers = some 0 :=
    layerDistance?_of_mem List.mem_cons_self
  have inside : Stage.Standing ⟨p.inClass name (some o) methods, false, functions,
      true :: classes⟩ := by
    have isThis : layerDistance? "this" (above.enter n ["this"]).layers = some 0 :=
      layerDistance?_of_mem List.mem_cons_self
    refine ⟨fun isOpen => Position.inFunction_declare.trans (standing.returns isOpen),
      fun _ => ⟨0, isThis⟩, fun _ => ⟨0, isThis, ?_, name, o, methods, rfl, rfl,
        fun _ _ below _ => absurd below (Nat.not_lt_zero _)⟩⟩
    change layerDistance? "super" (⟨n, ["this"]⟩ :: above.layers) = _
    rw [layerDistance?_of_notMem (by decide), isSuper]
    rfl
  have body := leads_methodScope (n := n) (p := above) fits settled' inside
  have left : Leads program ⟨p.declare name.lexeme, false, functions, true :: classes⟩
      [(n, .leaveClass)] True ⟨p.declare name.lexeme, false, functions, classes⟩ :=
    leads_leaveClass
  have closed : Leads program ⟨above, false, functions, true :: classes⟩ [(n, .closing)] True
      ⟨p.declare name.lexeme, false, functions, true :: classes⟩ :=
    leads_closing settled' rfl settled'
  have around := (leads_implicit (n := n) (p := (p.declare name.lexeme).enter n []) (x := "super")
    settled').cons (body.append (closed.cons left))
  have opened := (leads_opening (q := (p.declare name.lexeme).enter n []) settled' rfl
    settled').cons around
  rw [events_subclass rfl]
  refine ((leads_enterClass true).cons ((leads_heading accepted settled).append opened)).imp ?_
  rintro ⟨-, ⟨fresh, heading⟩, -, -, wellScoped, -⟩
  refine .classDecl ordinary fresh (fun o' isSuper => ?_) wellScoped
  cases isSuper
  exact heading

/-- Classes fit their place. -/
theorem Stmt.fits_classDecl (accepted : Accepted program) {name : Token}
    {superclass : Option Occurrence} {methods : List FunctionDecl} (ordinary : Ordinary name.lexeme)
    (fits : ∀ d ∈ methods, d.Fits program) :
    (Stmt.classDecl name superclass methods).Fits program := by
  cases superclass with
  | none => exact Stmt.fits_class accepted ordinary fits
  | some o => exact Stmt.fits_subclass accepted ordinary fits

/-- The events of a block. -/
theorem Scope.events_block {n : Node} {ss : List Stmt} (isNode : n = .statement (.block ss)) :
    events n = (n, .opening) :: ((ss.map stmt).flatMap (pieceEvents n) ++ [(n, .closing)]) := by
  rw [events_eq]
  simp [isNode, expand, expandStmt, between, pieceEvents]

/-- Blocks fit their place. -/
theorem Stmt.fits_block {ss : List Stmt} (formed : ∀ s ∈ ss, s.Formed)
    (fits : ∀ s ∈ ss, s.Fits program) : (Stmt.block ss).Fits program := by
  intro p functions classes settled standing
  let n : Node := .statement (.block ss)
  have standing' : Stage.Standing ⟨p.enter n [], false, functions, classes⟩ :=
    standing.inner standing.returns rfl nofun (not_isClass_block ss)
  obtain ⟨q, settled', outer, run⟩ :=
    leads_statements (n := n) (p := p.enter n []) formed fits settled standing'
  have closed : Leads program ⟨q, false, functions, classes⟩ [(n, .closing)] True
      ⟨p, false, functions, classes⟩ := leads_closing settled' outer settled
  rw [events_block rfl]
  exact ((leads_opening (q := p.enter n []) settled rfl settled).cons (run.append closed)).imp
    fun h => .block h.2.1

/-- Functions that are declared fit their place. -/
theorem Stmt.fits_functionDecl (accepted : Accepted program) {d : FunctionDecl}
    (ordinary : Ordinary d.name.lexeme) (fits : d.Fits program) :
    (Stmt.functionDecl d).Fits program := by
  intro p functions classes settled standing
  let n : Node := .statement (.functionDecl d)
  have isEvents : events n = [(n, .declare d.name), (n, .define d.name)] ++
      (function .plain d).flatMap (pieceEvents n) := by
    rw [events_eq]
    simp [n, expand, expandStmt, introduce, pieceEvents]
  have body := fits n .plain (p.declare d.name.lexeme) functions classes
    (Position.pending_declare.trans settled) (standing.declare ordinary)
  rw [isEvents]
  exact ((leads_introduce accepted settled).append body).imp fun h => .functionDecl ordinary h.1 h.2

/-- Variables fit their place. -/
theorem Stmt.fits_varDecl (accepted : Accepted program) {name : Token} {initializer : Option Expr}
    (ordinary : Ordinary name.lexeme) (formed : ∀ e, initializer = some e → e.Formed) :
    (Stmt.varDecl name initializer).Fits program := by
  intro p functions classes settled standing
  let n : Node := .statement (.varDecl name initializer)
  cases initializer with
  | none =>
    have isEvents : events n = [(n, .declare name), (n, .define name)] := by
      rw [events_eq]
      rfl
    rw [isEvents]
    exact (leads_introduce accepted settled).imp fun h => .varDecl ordinary h nofun
  | some e =>
    have isEvents : events n =
        (n, .declare name) :: (events (.expression e) ++ [(n, .define name)]) := by
      rw [events_eq]
      simp [n, expand, expandStmt, expr, pieceEvents]
    have awaited (x : String) (pending : (p.await name.lexeme).pending = some x) : Ordinary x := by
      cases isLayers : p.layers with
      | nil =>
        rw [Position.await_top isLayers, settled] at pending
        cases pending
      | cons layer layers =>
        rw [Position.pending_await isLayers] at pending
        cases pending
        exact ordinary
    have value : Leads program ⟨p.await name.lexeme, false, functions, classes⟩
        (events (.expression e)) _ _ := (formed e rfl).leads accepted standing.await rfl awaited
    have defined : Leads program ⟨p.await name.lexeme, false, functions, classes⟩
        [(n, .define name)] _ _ := leads_define settled
    rw [isEvents]
    refine (((leads_declare accepted settled).cons (value.append defined)).imp ?_).after
      fun _ holds => holds.settle settled
    rintro ⟨fresh, wellScoped, -⟩
    refine .varDecl ordinary fresh fun e' isValue => ?_
    cases isValue
    exact wellScoped

/-- Expressions in statements fit their place. -/
theorem Expr.Formed.leads_settled (accepted : Accepted program) {e : Expr} (formed : e.Formed)
    (settled : p.pending = none) (standing : Stage.Standing ⟨p, false, functions, classes⟩) :
    Leads program ⟨p, false, functions, classes⟩ (events (.expression e))
      (e.WellScoped (Charted program) p) ⟨p, false, functions, classes⟩ :=
  formed.leads accepted standing rfl fun _ pending => absurd (settled.symm.trans pending) nofun

/-- Statements that declare nothing leave their place as it is. -/
theorem Stmt.Fits.leads_plain {s : Stmt} (fits : s.Fits program) (plain : s.declared? = none)
    (settled : p.pending = none) (standing : Stage.Standing ⟨p, false, functions, classes⟩) :
    Leads program ⟨p, false, functions, classes⟩ (events (.statement s))
      (s.WellScoped (Charted program) p) ⟨p, false, functions, classes⟩ := by
  have run := fits p functions classes settled standing
  rwa [Position.after_of_plain plain] at run

/-- Conditional statements fit their place. -/
theorem Stmt.fits_conditional (accepted : Accepted program) {condition : Expr} {thenBranch : Stmt}
    {elseBranch : Option Stmt} (formed : condition.Formed) (thenPlain : thenBranch.declared? = none)
    (fitsThen : thenBranch.Fits program) (elsePlain : ∀ s, elseBranch = some s → s.declared? = none)
    (fitsElse : ∀ s, elseBranch = some s → s.Fits program) :
    (Stmt.conditional condition thenBranch elseBranch).Fits program := by
  intro p functions classes settled standing
  have first := formed.leads_settled accepted settled standing
  have second := fitsThen.leads_plain thenPlain settled standing
  cases elseBranch with
  | none =>
    rw [events_eq]
    exact (first.append (second.append (.nil trivial))).imp fun h =>
      .conditional h.1 thenPlain h.2.1 nofun nofun
  | some s =>
    have third := (fitsElse s rfl).leads_plain (elsePlain s rfl) settled standing
    rw [events_eq]
    refine (first.append (second.append (third.append (.nil trivial)))).imp ?_
    rintro ⟨wellScoped, isThen, isElse, -⟩
    refine .conditional wellScoped thenPlain isThen elsePlain fun s' isBranch => ?_
    cases isBranch
    exact isElse

/-- Loops fit their place. -/
theorem Stmt.fits_loop (accepted : Accepted program) {condition : Expr} {body : Stmt}
    (formed : condition.Formed) (plain : body.declared? = none) (fits : body.Fits program) :
    (Stmt.loop condition body).Fits program := by
  intro p functions classes settled standing
  have first := formed.leads_settled accepted settled standing
  have second := fits.leads_plain plain settled standing
  rw [events_eq]
  exact (first.append (second.append (.nil trivial))).imp fun h => .loop h.1 plain h.2.1

/-- Statements that return fit their place. -/
theorem Stmt.fits_ret (accepted : Accepted program) {keyword : Token} {value : Option Expr}
    (formed : ∀ e, value = some e → e.Formed) : (Stmt.ret keyword value).Fits program := by
  intro p functions classes settled standing
  rw [events_eq]
  cases value with
  | none =>
    exact (leads_returns accepted).imp fun isOpen => .ret (standing.returns isOpen) nofun
  | some e =>
    have result := (formed e rfl).leads_settled accepted settled standing
    refine ((leads_returns accepted).append (result.append (.nil trivial))).imp ?_
    rintro ⟨isOpen, wellScoped, -⟩
    refine .ret (standing.returns isOpen) fun e' isValue => ?_
    cases isValue
    exact wellScoped

end

mutual

/-- Statements of accepted programs fit their places. -/
theorem Stmt.Formed.fits (accepted : Accepted program) {s : Stmt} :
    s.Formed → s.Fits program
  | .block h => Stmt.fits_block h fun s mem => (h s mem).fits accepted
  | .classDecl ordinary _ h =>
    Stmt.fits_classDecl accepted ordinary fun d mem => (h d mem).fits accepted
  | .expression h => by
    intro p functions classes settled standing
    rw [events_eq]
    exact ((h.leads_settled accepted settled standing).append (.nil trivial)).imp fun h =>
      .expression h.1
  | .functionDecl (.mk named ordinary body) =>
    Stmt.fits_functionDecl accepted named
      (FunctionDecl.fits_of_body accepted ordinary body fun s mem => (body s mem).fits accepted)
  | .conditional h thenPlain hThen elsePlain hElse =>
    Stmt.fits_conditional accepted h thenPlain (hThen.fits accepted) elsePlain
      fun s isElse => (hElse s isElse).fits accepted
  | .print h => by
    intro p functions classes settled standing
    rw [events_eq]
    exact ((h.leads_settled accepted settled standing).append (.nil trivial)).imp fun h =>
      .print h.1
  | .ret h => Stmt.fits_ret accepted h
  | .varDecl ordinary h => Stmt.fits_varDecl accepted ordinary h
  | .loop h plain hBody => Stmt.fits_loop accepted h plain (hBody.fits accepted)

/-- Functions of accepted programs fit their places. -/
theorem FunctionDecl.Formed.fits (accepted : Accepted program) {d : FunctionDecl} :
    d.Formed → d.Fits program
  | .mk _ ordinary body =>
    FunctionDecl.fits_of_body accepted ordinary body fun s mem => (body s mem).fits accepted

end

/-! ### Programs -/

/-- Accepted programs are well-scoped, and every occurrence of a name is visited where the open
scopes show the layers of its place. -/
theorem Scope.wellScoped_of_accepted (accepted : Accepted program)
    (formed : ∀ s ∈ program, s.Formed) :
    Stmt.AllWellScoped (Charted program) .top program := by
  have standing : Stage.Standing ⟨.top, false, [], []⟩ :=
    ⟨fun isOpen => absurd rfl isOpen, fun isOpen => absurd rfl isOpen, nofun⟩
  obtain ⟨q, -, -, run⟩ := leads_statements (n := .statement (.block [])) (p := .top) formed
    (fun s mem => (formed s mem).fits accepted) rfl standing
  have isEvents : (program.map stmt).flatMap (pieceEvents (.statement (.block []))) =
      allEvents program := List.flatMap_map ..
  rw [isEvents] at run
  exact (run .start (comes_program program) ⟨.settled rfl .nil rfl, rfl, rfl⟩).1

end Lox
