import Lox.Proofs.Scope.Mirror

/-!
# Stages of the static reading

At each place of a program the reading is at a *stage*: the scopes show the layers of the place, and
certain functions and classes are open. This file says from which stage to which one every event
leads, in a program without violations.

## Main definitions

* `Scope.Stage`: a place with the functions and classes that are open there.
* `Scope.Stage.Holds`: the reading is at a stage.
* `Scope.Stage.Standing`: functions and classes are open only inside functions and classes.
* `Scope.Leads`: events lead from one stage to another, and show something on the way.

## Main results

* `Scope.Leads.append`: events in sequence.
-/

namespace Lox.Scope

/-- A place with the functions and classes that are open there. A name that is being declared is
ready for use, or not yet. -/
structure Stage where
  place : Position
  ready : Bool
  functions : List FunctionRole
  classes : List Bool

namespace Stage

/-- The reading is at a stage. -/
structure Holds (σ : Stage) (r : Reading) : Prop where
  mirrors : Mirrors σ.ready r σ.place
  functions : r.analysis.functions = σ.functions
  classes : r.analysis.classes = σ.classes

/-- Functions are open only inside functions, and classes only inside classes. -/
structure Standing (σ : Stage) : Prop where
  returns : σ.functions ≠ [] → σ.place.inFunction = true
  this : σ.classes ≠ [] → ∃ d, layerDistance? "this" σ.place.layers = some d
  super : σ.classes.head? = some true → ∃ d, layerDistance? "this" σ.place.layers = some d ∧
    layerDistance? "super" σ.place.layers = some (d + 1) ∧ σ.place.InheritsAt d

end Stage

/-- Events lead from one stage to another, and show something on the way. -/
def Leads (program : List Stmt) (σ : Stage) (es : List Happening) (shown : Prop) (σ' : Stage) :
    Prop :=
  ∀ r, Comes program r es → σ.Holds r → shown ∧ σ'.Holds (r.takeAll es)

variable {program : List Stmt} {σ σ' σ'' : Stage} {es es' : List Happening} {shown shown' : Prop}

namespace Leads

theorem nil (isShown : shown) : Leads program σ [] shown σ :=
  fun _ _ holds => ⟨isShown, holds⟩

theorem imp (h : Leads program σ es shown σ') (h' : shown → shown') :
    Leads program σ es shown' σ' :=
  fun r comes holds => (h r comes holds).imp_left h'

/-- Events in sequence. -/
theorem append (h : Leads program σ es shown σ') (h' : Leads program σ' es' shown' σ'') :
    Leads program σ (es ++ es') (shown ∧ shown') σ'' := by
  intro r comes holds
  obtain ⟨isShown, holds'⟩ := h r comes.left holds
  obtain ⟨isShown', holds''⟩ := h' _ comes.right holds'
  rw [Reading.takeAll_append]
  exact ⟨⟨isShown, isShown'⟩, holds''⟩

/-- Events after another one. -/
theorem cons {e : Happening} (h : Leads program σ [e] shown σ')
    (h' : Leads program σ' es shown' σ'') : Leads program σ (e :: es) (shown ∧ shown') σ'' :=
  h.append h'

/-- A stage may be looked at in another way. -/
theorem after (h : Leads program σ es shown σ') (view : ∀ r, σ'.Holds r → σ''.Holds r) :
    Leads program σ es shown σ'' :=
  fun r comes holds => (h r comes holds).imp_right (view _)

end Leads

/-! ### Single events -/

section

variable {p q : Position} {ready : Bool} {functions : List FunctionRole} {classes : List Bool}
  {n : Node} {x : String} {name : Token} {o : Occurrence}

theorem leads_opening (settled : p.pending = none) (inner : q.layers = ⟨n, []⟩ :: p.layers)
    (settled' : q.pending = none) :
    Leads program ⟨p, ready, functions, classes⟩ [(n, .opening)] True
      ⟨q, ready, functions, classes⟩ :=
  fun _ _ holds =>
    ⟨trivial, holds.mirrors.opening settled inner settled', holds.functions, holds.classes⟩

theorem leads_closing (settled : q.pending = none) (outer : q.layers.tail = p.layers)
    (settled' : p.pending = none) :
    Leads program ⟨q, ready, functions, classes⟩ [(n, .closing)] True
      ⟨p, ready, functions, classes⟩ :=
  fun _ _ holds =>
    ⟨trivial, holds.mirrors.closing settled outer settled', holds.functions, holds.classes⟩

theorem leads_enterFunction (role : FunctionRole) :
    Leads program ⟨p, ready, functions, classes⟩ [(n, .enterFunction role)] True
      ⟨p, ready, role :: functions, classes⟩ :=
  fun _ _ holds =>
    ⟨trivial, holds.mirrors.congr rfl rfl, congrArg (role :: ·) holds.functions, holds.classes⟩

theorem leads_leaveFunction {role : FunctionRole} :
    Leads program ⟨p, ready, role :: functions, classes⟩ [(n, .leaveFunction)] True
      ⟨p, ready, functions, classes⟩ :=
  fun _ _ holds =>
    ⟨trivial, holds.mirrors.congr rfl rfl, congrArg List.tail holds.functions, holds.classes⟩

theorem leads_enterClass (inherits : Bool) :
    Leads program ⟨p, ready, functions, classes⟩ [(n, .enterClass inherits)] True
      ⟨p, ready, functions, inherits :: classes⟩ :=
  fun _ _ holds =>
    ⟨trivial, holds.mirrors.congr rfl rfl, holds.functions, congrArg (inherits :: ·) holds.classes⟩

theorem leads_leaveClass {inherits : Bool} :
    Leads program ⟨p, ready, functions, inherits :: classes⟩ [(n, .leaveClass)] True
      ⟨p, ready, functions, classes⟩ :=
  fun _ _ holds =>
    ⟨trivial, holds.mirrors.congr rfl rfl, holds.functions, congrArg List.tail holds.classes⟩

theorem functions_enter (a : Analysis) (b : Bool) : (a.enter x b).functions = a.functions := by
  unfold Analysis.enter
  split <;> rfl

theorem classes_enter (a : Analysis) (b : Bool) : (a.enter x b).classes = a.classes := by
  unfold Analysis.enter
  split <;> rfl

theorem leads_implicit (settled : p.pending = none) :
    Leads program ⟨p, ready, functions, classes⟩ [(n, .implicit x)] True
      ⟨p.declare x, ready, functions, classes⟩ :=
  fun r _ holds => ⟨trivial, holds.mirrors.implicit settled,
    (functions_enter r.analysis true).trans holds.functions,
    (classes_enter r.analysis true).trans holds.classes⟩

theorem leads_define (settled : p.pending = none) :
    Leads program ⟨p.await name.lexeme, ready, functions, classes⟩ [(n, .define name)] True
      ⟨p.await name.lexeme, true, functions, classes⟩ :=
  fun r _ holds => ⟨trivial, holds.mirrors.define settled,
    (functions_enter r.analysis true).trans holds.functions,
    (classes_enter r.analysis true).trans holds.classes⟩

/-- A name that is ready for use need not be awaited any more. -/
theorem Stage.Holds.settle {r : Reading} (settled : p.pending = none)
    (holds : Holds ⟨p.await x, true, functions, classes⟩ r) :
    Holds ⟨p.declare x, ready, functions, classes⟩ r :=
  ⟨holds.mirrors.settle settled, holds.functions, holds.classes⟩

/-- A declared name is new in its scope. -/
theorem leads_declare (accepted : Accepted program) (settled : p.pending = none) :
    Leads program ⟨p, ready, functions, classes⟩ [(n, .declare name)] (p.Fresh name.lexeme)
      ⟨p.await name.lexeme, false, functions, classes⟩ := by
  intro r comes holds
  obtain ⟨fresh, mirrors⟩ := holds.mirrors.declare settled (comes.errors_eq_nil accepted)
  refine ⟨fresh, mirrors, ?_, ?_⟩
  · refine Eq.trans ?_ holds.functions
    change (r.analysis.declare name).functions = _
    unfold Analysis.declare
    split
    · rfl
    · exact functions_enter r.analysis false
  · refine Eq.trans ?_ holds.classes
    change (r.analysis.declare name).classes = _
    unfold Analysis.declare
    split
    · rfl
    · exact classes_enter r.analysis false

/-- A new name is declared and ready for use at once. -/
theorem leads_introduce (accepted : Accepted program) (settled : p.pending = none) :
    Leads program ⟨p, ready, functions, classes⟩ [(n, .declare name), (n, .define name)]
      (p.Fresh name.lexeme) ⟨p.declare name.lexeme, ready, functions, classes⟩ :=
  (((leads_declare accepted settled).cons (leads_define settled)).imp And.left).after
    fun _ holds => holds.settle settled

/-- No class names itself as its superclass. -/
theorem leads_selfInheritance (accepted : Accepted program) {superclass : Token} :
    Leads program σ [(n, .selfInheritance superclass)] False σ' := by
  intro r comes holds
  have noErrors := comes.errors_eq_nil accepted
  cases noErrors

end

/-! ### Events that change no scopes -/

/-- The states of the reading that differ in the violations and distances found so far only. -/
structure Analysis.Alike (a a' : Analysis) : Prop where
  scopes : a'.scopes = a.scopes
  functions : a'.functions = a.functions
  classes : a'.classes = a.classes

namespace Analysis.Alike

variable {a a' a'' : Analysis}

theorem refl (a : Analysis) : Alike a a :=
  ⟨rfl, rfl, rfl⟩

theorem trans (h : Alike a a') (h' : Alike a' a'') : Alike a a'' :=
  ⟨h'.scopes.trans h.scopes, h'.functions.trans h.functions, h'.classes.trans h.classes⟩

theorem report (a : Analysis) (token : Token) (cause : ScopeError.Cause) :
    Alike a (a.report token cause) :=
  ⟨rfl, rfl, rfl⟩

theorem record (a : Analysis) (o : Occurrence) : Alike a (a.record o) := by
  unfold Analysis.record
  split <;> exact ⟨rfl, rfl, rfl⟩

theorem occurs (a : Analysis) (site : Site) : Alike a (a.occurs site) := by
  obtain ⟨kind, o⟩ := site
  cases kind with
  | assignment => exact record a o
  | reference =>
    simp only [Analysis.occurs]
    split
    · exact (report a o.name .readInOwnInitializer).trans (record _ o)
    · exact record a o
  | this =>
    simp only [Analysis.occurs]
    split
    · exact report a o.name .thisOutsideClass
    · exact record a o
  | super =>
    simp only [Analysis.occurs]
    split
    · exact (report a o.name .superOutsideClass).trans (record _ o)
    · exact (report a o.name .superWithoutSuperclass).trans (record _ o)
    · exact record a o

theorem returns (a : Analysis) (keyword : Token) (hasValue : Bool) :
    Alike a (a.returns keyword hasValue) := by
  unfold Analysis.returns
  split
  · exact report a keyword .returnOutsideFunction
  · split
    · exact report a keyword .valueFromInitializer
    · exact refl a
  · exact refl a

end Analysis.Alike

theorem Stage.Holds.congr {r r' : Reading} (holds : σ.Holds r)
    (alike : r.analysis.Alike r'.analysis) (openers : r'.openers = r.openers) : σ.Holds r' :=
  ⟨holds.mirrors.congr alike.scopes openers, alike.functions.trans holds.functions,
    alike.classes.trans holds.classes⟩

section

variable {n : Node} {o : Occurrence} {site : Site}

theorem Stage.Holds.charted {r : Reading} {kind : SiteKind} (holds : σ.Holds r)
    (comes : Comes program r [(n, .occurs ⟨kind, o⟩)])
    (settled : kind = .assignment → σ.ready = false) : Charted program σ.place kind o :=
  ⟨σ.ready, r, ⟨n, comes⟩, holds.mirrors, settled⟩

/-- An occurrence of a name at which the reading shows something. -/
theorem leads_occurs
    (h : ∀ r, Comes program r [(n, .occurs site)] → σ.Holds r → shown) :
    Leads program σ [(n, .occurs site)] shown σ :=
  fun r comes holds => ⟨h r comes holds, holds.congr (.occurs r.analysis site) rfl⟩

/-- A `return` stands in a function. -/
theorem leads_returns (accepted : Accepted program) {keyword : Token} {hasValue : Bool} :
    Leads program σ [(n, .returns keyword hasValue)] (σ.functions ≠ []) σ := by
  intro r comes holds
  refine ⟨fun top => ?_, holds.congr (.returns r.analysis keyword hasValue) rfl⟩
  have noErrors := comes.errors_eq_nil accepted
  change (r.analysis.returns keyword hasValue).errors = [] at noErrors
  rw [Analysis.returns, holds.functions, top] at noErrors
  cases noErrors

/-- A name that is read is ready for use. -/
theorem leads_reference (accepted : Accepted program)
    (awaited : σ.ready = true → σ.place.pending ≠ some o.name.lexeme) :
    Leads program σ [(n, .occurs ⟨.reference, o⟩)]
      ((Expr.reference o).WellScoped (Charted program) σ.place) σ := by
  refine leads_occurs fun r comes holds => ?_
  refine .reference (holds.charted comes nofun) fun pending => ?_
  have isLocal := holds.mirrors.local?_of_pending pending
  cases isReady : σ.ready with
  | true => exact awaited isReady pending
  | false =>
    have noErrors := comes.errors_eq_nil accepted
    change (r.analysis.occurs ⟨.reference, o⟩).errors = [] at noErrors
    rw [Analysis.occurs, isLocal, isReady] at noErrors
    simp [Analysis.report] at noErrors

/-- An instance is around where `this` stands. -/
theorem leads_this (accepted : Accepted program) (standing : σ.Standing)
    (ordinary : ∀ x, σ.place.pending = some x → Ordinary x)
    (spelled : o.name.lexeme = "this") :
    Leads program σ [(n, .occurs ⟨.this, o⟩)] ((Expr.this o).WellScoped (Charted program) σ.place)
      σ := by
  refine leads_occurs fun r comes holds => ?_
  have charted : Charted program σ.place .this o := holds.charted comes nofun
  have noErrors := comes.errors_eq_nil accepted
  change (r.analysis.occurs ⟨.this, o⟩).errors = [] at noErrors
  have isOpen : σ.classes ≠ [] := by
    intro none
    simp [Analysis.occurs, holds.classes, none, Analysis.report] at noErrors
  obtain ⟨d, isDistance⟩ := standing.this isOpen
  have bound : σ.place.distance? "this" = some d := by
    rw [Position.distance?, if_neg fun pending => (ordinary _ pending).1 rfl, isDistance]
  exact .this charted spelled bound

/-- A class with a superclass is around where `super` stands, and the instance is inside. -/
theorem leads_super (accepted : Accepted program) (standing : σ.Standing)
    (ordinary : ∀ x, σ.place.pending = some x → Ordinary x)
    (spelled : o.name.lexeme = "super") {method : Token} :
    Leads program σ [(n, .occurs ⟨.super, o⟩)]
      ((Expr.super o method).WellScoped (Charted program) σ.place) σ := by
  refine leads_occurs fun r comes holds => ?_
  have charted : Charted program σ.place .super o := holds.charted comes nofun
  have noErrors := comes.errors_eq_nil accepted
  change (r.analysis.occurs ⟨.super, o⟩).errors = [] at noErrors
  have inherits : σ.classes.head? = some true := by
    cases isClasses : σ.classes with
    | nil => simp [Analysis.occurs, holds.classes, isClasses, Analysis.report] at noErrors
    | cons b classes =>
      cases b with
      | true => rfl
      | false => simp [Analysis.occurs, holds.classes, isClasses, Analysis.report] at noErrors
  obtain ⟨d, isThis, isSuper, inheritsAt⟩ := standing.super inherits
  have bound : σ.place.distance? "this" = some d := by
    rw [Position.distance?, if_neg fun pending => (ordinary _ pending).1 rfl, isThis]
  have above : σ.place.distance? "super" = some (d + 1) := by
    rw [Position.distance?, if_neg fun pending => (ordinary _ pending).2 rfl, isSuper]
  exact .super charted spelled bound above inheritsAt

end

end Lox.Scope
