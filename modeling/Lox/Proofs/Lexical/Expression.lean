import Lox.Proofs.Lexical.Declaration

/-!
# Expressions in lockstep

The two evaluators treat every expression alike: names mean the same, and the same methods are bound
to the same receivers.

## Main results

* `World.Moment.lookUp`, `World.Moment.assign`: names.
* `World.Moment.readProperty`, `World.Moment.readSuper`: properties and methods.
* `World.lockstep_expression`: every expression.
-/

namespace Lox.World

open Scope Evaluation

variable {w w' : World} {p : Position} {s s' t t' : Interpreter} {c : Context} {o : Occurrence}
  {kind : SiteKind}

/-! ### Names -/

theorem distance?_of_ready {x : String} (ready : p.pending ≠ some x) :
    p.distance? x = layerDistance? x p.layers := by
  rw [Position.distance?, if_neg ready]

/-- An occurrence of a name means the same to both evaluators. -/
theorem Situation.lookUp (situation : Situation w p s s') (isKnown : w.known p kind o)
    (ready : p.pending ≠ some o.name.lexeme) :
    SameResult w (s.lookUp o) (s'.heap.get s'.frame o.name) := by
  obtain ⟨coherent, around, -⟩ := situation
  have isEntry := coherent.table p kind o isKnown
  rw [distance?_of_ready ready] at isEntry
  unfold Interpreter.lookUp
  rw [isEntry]
  dsimp only
  cases isDistance : layerDistance? o.name.lexeme p.layers with
  | some d =>
    obtain ⟨v, v', -, isValue, isValue', same, -⟩ :=
      around.getAt coherent.heap coherent.sound isDistance o.name.line o.name.line o.name.kind
    dsimp only
    rw [isValue, isValue']
    exact .ok same
  | none =>
    have outward : s'.heap.get s'.frame o.name = s'.heap.get globalFrame o.name := by
      rw [Heap.get, Heap.get, around.notFound coherent.heap coherent.sound isDistance]
    rw [outward]
    exact coherent.heap.get_globalFrame coherent.sound o.name

/-- Names are looked up in lockstep. -/
theorem Moment.lookUp (m : Moment c w p s s') (isKnown : c.base.known p kind o)
    (ready : p.pending ≠ some o.name.lexeme) :
    Lockstep c (Then c w p s s' Same) (Evaluation.lookUp o) (Lexical.lookUp o.name) s s' := by
  refine Job.Agree.bind (Q := fun i i' t t' => i = s ∧ i' = s' ∧ t = s ∧ t' = s')
    (.get ⟨rfl, rfl, rfl, rfl⟩) ?_
  rintro _ _ _ _ ⟨rfl, rfl, rfl, rfl⟩
  exact m.check (m.situation.lookUp (m.known ▸ isKnown) ready)

/-- Both evaluators assign to the same name, or neither finds one. -/
theorem Situation.target (situation : Situation w p s s') (isKnown : w.known p kind o)
    (ready : p.pending ≠ some o.name.lexeme) (ordinary : Ordinary o.name.lexeme) :
    (∃ f f', s.target o = .ok f ∧ s'.heap.target s'.frame o.name = .ok f' ∧
      ∀ v v', Same w v v' →
        Coherent w (s.define f o.name.lexeme v) (s'.define f' o.name.lexeme v')) ∨
      ∃ fault, fault.kind ≠ .internal ∧ s.target o = .error fault ∧
        s'.heap.target s'.frame o.name = .error fault := by
  have proper : (Heap.undefined o.name).kind ≠ .internal := nofun
  obtain ⟨coherent, around, -⟩ := situation
  have isEntry := coherent.table p kind o isKnown
  rw [distance?_of_ready ready] at isEntry
  unfold Interpreter.target
  rw [isEntry]
  dsimp only
  cases isDistance : layerDistance? o.name.lexeme p.layers with
  | some d =>
    obtain ⟨g₀, cell, found, named, isTarget, isTarget'⟩ :=
      around.targetAt coherent.heap coherent.sound isDistance
    refine .inl ⟨cell.owner, g₀, isTarget, isTarget', fun v v' same => ?_⟩
    exact { coherent with heap := coherent.heap.assign coherent.sound found named same ordinary }
  | none =>
    have outward : s'.heap.target s'.frame o.name = s'.heap.target globalFrame o.name := by
      rw [Heap.target, Heap.target, around.notFound coherent.heap coherent.sound isDistance]
    rw [outward]
    rcases coherent.heap.owner?_globalFrame coherent.sound o.name.lexeme with
      ⟨isOwner, isOwner', -⟩ | ⟨noOwner, noOwner'⟩
    · refine .inl ⟨globalFrame, globalFrame, ?_, ?_, fun v v' same => ?_⟩
      · rw [Heap.target, isOwner]
      · rw [Heap.target, isOwner']
      · exact { coherent with heap := coherent.heap.assignGlobal coherent.sound same }
    · refine .inr ⟨Heap.undefined o.name, proper, ?_, ?_⟩
      · rw [Heap.target, noOwner]
      · rw [Heap.target, noOwner']

/-- Variables that are bound are assigned in lockstep. -/
theorem Moment.assign (m : Moment c w p s s') (isKnown : c.base.known p kind o)
    (ready : p.pending ≠ some o.name.lexeme) (ordinary : Ordinary o.name.lexeme) {v v' : Value}
    (same : Same w v v') :
    Lockstep c (Then c w p s s' fun _ _ _ => True) (Evaluation.assign o v)
      (Lexical.assign o.name v') s s' := by
  refine Job.Agree.bind (Q := fun i i' t t' => i = s ∧ i' = s' ∧ t = s ∧ t' = s')
    (.get ⟨rfl, rfl, rfl, rfl⟩) ?_
  rintro _ _ _ _ ⟨rfl, rfl, rfl, rfl⟩
  rcases m.situation.target (m.known ▸ isKnown) ready ordinary with
    ⟨f, f', isTarget, isTarget', coherent⟩ | ⟨fault, proper, noTarget, noTarget'⟩
  · rw [isTarget, isTarget']
    refine .modify ⟨w, .refl w, m.later (.refl w) (coherent v v' same) rfl rfl, rfl, rfl, trivial⟩
  · rw [noTarget, noTarget']
    exact .throw ⟨proper, w, m.grown.anywhere, m.situation.coherent, m.keeps⟩

/-- A variable that is assigned in its own initializer is not bound in its frame. -/
theorem Situation.target_of_pending (situation : Situation w p s s') (isKnown : w.known p kind o)
    (pending : p.pending = some o.name.lexeme) (awaiting : p.Awaiting) :
    s.target o = .error (Heap.misplaced o.name.lexeme 0 o.name.line) := by
  obtain ⟨coherent, around, complete⟩ := situation
  obtain ⟨-, layer, layers, isLayers, fresh⟩ := awaiting _ pending
  have isEntry := coherent.table p kind o isKnown
  rw [Position.distance?, if_pos pending] at isEntry
  have isLocal : s.frame ≠ globalFrame :=
    (around.ne_globalFrame coherent.sound (by simp [isLayers])).1
  have unbound : s.heap.binding? s.frame o.name.lexeme = none := by
    refine Option.eq_none_iff_forall_ne_some.2 fun v isValue => ?_
    obtain ⟨g, cell, found, owner, named⟩ := coherent.heap.only _ _ v isLocal isValue
    exact fresh (complete layer (by simp [isLayers]) g cell _ found owner named)
  unfold Interpreter.target Heap.targetAt Heap.ownerAt?
  rw [isEntry]
  simp [Heap.ancestor?, Heap.binds_eq_isSome, Option.filter_some, unbound]

/-- An assignment to a name that is not found fails. -/
theorem assign_of_target {fault : Fault} (noTarget : s.target o = .error fault) (v : Value) :
    Evaluation.assign o v s = .done (.error fault, s) := by
  change Routine.bind (Evaluation.check (s.target o) s) _ = _
  rw [noTarget]
  rfl

/-- There the evaluator with distances comes to a halt. -/
theorem Moment.assign_of_pending (m : Moment c w p s s') (isKnown : c.base.known p kind o)
    (pending : p.pending = some o.name.lexeme) (awaiting : p.Awaiting)
    (culprit : Culprit c.base c.comes (Heap.misplaced o.name.lexeme 0 o.name.line)) {v : Value}
    {β : Type} {Q : Unit → β → Interpreter → Interpreter → Prop} {job' : Eval β} :
    Lockstep c Q (Evaluation.assign o v) job' s s' := by
  have isTarget := m.situation.target_of_pending (m.known ▸ isKnown) pending awaiting
  unfold Lockstep Job.Agree
  rw [assign_of_target isTarget]
  exact .halt ⟨culprit, w, s', m.grown.anywhere, m.situation.coherent, m.keeps⟩

/-! ### Methods -/

/-- A method that is bound by both evaluators can be called by both. -/
theorem Coherent.bindClosure (coherent : Coherent w s s') {method method' : Closure}
    (same : SameMethod w method method') {address : Nat} {cls cls' : Class}
    (sameClass : SameClass w cls cls') {maker : Task} (visited : w.visited maker)
    (makes : Makes maker s.heap.frames.size)
    (binds : Binds maker method (.instance_ address cls)) :
    ∃ w', Extends nowhere w w' ∧
      Coherent w' (s.bindClosure method (.instance_ address cls)).2
        (s'.bindClosure method' (.instance_ address cls')).2 ∧
      SameClosure w' (s.bindClosure method (.instance_ address cls)).1
        (s'.bindClosure method' (.instance_ address cls')).1 := by
  obtain ⟨p, name, superclass, methods, around, settled, declared, wellScoped⟩ := same.place
  obtain ⟨w', grown, coherent', around'⟩ :=
    coherent.enterBound around (.instance_ sameClass) visited
    makes (.receiver binds declared)
  have known : w'.known = w.known := grown.known
  exact ⟨w', grown, coherent', same.declaration, same.isInitializer,
    p.enter (.statement (.classDecl name superclass methods)) ["this"], around', settled,
    known.symm ▸ wellScoped, fun _ => ⟨_, _, rfl, rfl⟩⟩

theorem Coherent.newFunction (coherent : Coherent w s s') {closure closure' : Closure}
    (same : SameClosure w closure closure') :
    Coherent w (s.newFunction closure).2 (s'.newFunction closure').2 ∧
      Same w (s.newFunction closure).1 (s'.newFunction closure').1 := by
  refine ⟨{ coherent with heap := coherent.heap.newIdentity }, ?_⟩
  change Same w (.function s.heap.nextIdentity closure) (.function s'.heap.nextIdentity closure')
  rw [coherent.heap.identity]
  exact .function same

theorem Moment.bindMethod (m : Moment c w p s s') {method method' : Closure}
    (same : SameMethod w method method') {address : Nat} {cls cls' : Class}
    (sameClass : SameClass w cls cls') {maker : Task} (visited : c.base.visited maker)
    (makes : Makes maker s.heap.frames.size) (binds : Binds maker method (.instance_ address cls)) :
    Then c w p s s' Same (s.bindMethod method (.instance_ address cls)).1
      (s'.bindMethod method' (.instance_ address cls')).1
      (s.bindMethod method (.instance_ address cls)).2
      (s'.bindMethod method' (.instance_ address cls')).2 := by
  obtain ⟨w', grown, coherent, sameClosure⟩ := m.situation.coherent.bindClosure same sameClass
    (m.grown.visited ▸ visited) makes binds
  obtain ⟨coherent', sameValue⟩ := coherent.newFunction sameClosure
  exact ⟨w', grown, m.later grown coherent' rfl rfl, rfl, rfl, sameValue⟩

/-! ### Properties -/

/-- The property of an instance is the same for both evaluators. -/
theorem Moment.property (m : Moment c w p s s') {address : Nat} {cls cls' : Class}
    (same : SameClass w cls cls') {property : Token} {maker : Task}
    (visited : c.base.visited maker)
    (bindsIt : ∀ method, s.heap.field? address property.lexeme = none →
      cls.findMethod? property.lexeme = some method →
        Makes maker s.heap.frames.size ∧ Binds maker method (.instance_ address cls)) :
    Then c w p s s' SameResult (s.property address cls property).1
      (s'.property address cls' property).1 (s.property address cls property).2
      (s'.property address cls' property).2 := by
  unfold Interpreter.property
  rcases rel_cases (m.situation.coherent.heap.fields address property.lexeme) with
    ⟨v, v', isField, isField', isSame⟩ | ⟨noField, noField'⟩
  · rw [isField, isField']
    exact .of_moment m (.ok isSame)
  · rw [noField, noField']
    rcases rel_cases (same.findMethod? property.lexeme) with
      ⟨method, method', found, found', isSame⟩ | ⟨notFound, notFound'⟩
    · obtain ⟨makes, binds⟩ := bindsIt method noField found
      obtain ⟨w', grown, m', frame, frame', sameValue⟩ :=
        m.bindMethod isSame same visited makes binds
      rw [found, found']
      exact ⟨w', grown, m', frame, frame', .ok sameValue⟩
    · rw [notFound, notFound']
      exact .of_moment m (.error nofun)

/-- Properties are read in lockstep. -/
theorem Moment.readProperty (m : Moment c w p s s') {object object' : Value}
    (same : Same w object object') {property : Token} {maker : Task}
    (visited : c.base.visited maker)
    (bindsIt : ∀ address cls method, object = .instance_ address cls →
      s.heap.field? address property.lexeme = none →
        cls.findMethod? property.lexeme = some method →
          Makes maker s.heap.frames.size ∧ Binds maker method (.instance_ address cls)) :
    Lockstep c (Then c w p s s' Same) (readProperty object property)
      (readProperty object' property) s s' := by
  cases same with
  | @instance_ address cls cls' sameClass =>
    have related := m.property sameClass visited fun method => bindsIt address cls method rfl
    refine Job.Agree.bind (Q := Then c w p s s' SameResult) (.modifyGet related) ?_
    exact fun r r' t t' related => related.agree fun w' grown m' same => m'.check same
  | _ => exact m.fail nofun

/-! ### Superclasses -/

/-- What `super` finds at a distance in the frames of a state: the instance of the running method,
which was bound there, and around it the class that the superclass expression of the class around
had as value when the class was defined. -/
structure Inherits (w : World) (p : Position) (s : Interpreter) (keyword : Occurrence) (d : Nat)
    (superclass : Class) (address : Nat) (own : Class) : Prop where
  isClass : s.heap.getAt s.frame (d + 1) "super" keyword.name.line = .ok (.classObject superclass)
  isInstance : s.heap.getAt s.frame d "this" keyword.name.line = .ok (.instance_ address own)
  origin : ∃ (name : Token) (o : Occurrence) (methods : List FunctionDecl),
    Encloses name o methods (p.layers.map Layer.opener) d ∧
      InMethod w.visited s.heap s.frame d name o methods superclass (.instance_ address own)

/-- The class and the instance of a method are bound where `super` looks for them. -/
theorem Situation.super (situation : Situation w p s s') {keyword : Occurrence} {d : Nat}
    (isKnown : w.known p .super keyword) (spelled : keyword.name.lexeme = "super")
    (bound : p.distance? "this" = some d) (above : p.distance? "super" = some (d + 1))
    (awaiting : p.Awaiting) (inherits : p.InheritsAt d) :
    s.distances[keyword.id]? = some (d + 1) ∧
      ∃ cls cls' address own own', Inherits w p s keyword d cls address own ∧
        s'.heap.get s'.frame { keyword.name with lexeme := "super" } = .ok (.classObject cls') ∧
        s'.heap.get s'.frame { keyword.name with lexeme := "this" } =
          .ok (.instance_ address own') ∧
        SameClass w cls cls' ∧ SameClass w own own' := by
  obtain ⟨coherent, around, -⟩ := situation
  have isEntry := coherent.table p .super keyword isKnown
  have notThis : ¬ Ordinary "this" := fun ordinary => ordinary.1 rfl
  have notSuper : ¬ Ordinary "super" := fun ordinary => ordinary.2 rfl
  have ready (x : String) (special : ¬ Ordinary x) : p.pending ≠ some x :=
    fun pending => special (awaiting x pending).1
  rw [distance?_of_ready (ready "this" notThis)] at bound
  rw [distance?_of_ready (ready "super" notSuper)] at above
  rw [distance?_of_ready (ready _ (spelled ▸ notSuper)), spelled, above] at isEntry
  obtain ⟨layer₁, f₁, f₂, task₁, v, v', isLayer₁, found₁, -, made₁, executes₁, isClass, isClass',
    same⟩ := around.given coherent.heap coherent.sound above notSuper keyword.name.line
      keyword.name.line keyword.name.kind
  obtain ⟨layer₀, f₀, f₁', task₀, u, u', isLayer₀, found₀, found₁', made₀, executes₀, isInstance,
    isInstance', same'⟩ := around.given coherent.heap coherent.sound bound notThis
      keyword.name.line keyword.name.line keyword.name.kind
  obtain rfl : f₁ = f₁' := Option.some.inj (found₁.symm.trans found₁')
  obtain ⟨name, o, methods, r, cls, t, rfl, isOpener₁, -, rfl, answered⟩ :=
    executes₁.exists_superclass
  obtain ⟨method, name', o', methods', isOpener₀, isFrame, binds, declared⟩ :=
    executes₀.exists_receiver
  obtain ⟨address, own, rfl⟩ := binds.exists_instance
  -- Both layers belong to the same class.
  obtain ⟨name₂, o₂, methods₂, encloses⟩ := inherits
  have opens₀ := encloses.receiver
  have opens₁ := encloses.superclass
  rw [List.getElem?_map, isLayer₀, Option.map_some, isOpener₀] at opens₀
  rw [List.getElem?_map, isLayer₁, Option.map_some, isOpener₁] at opens₁
  cases opens₀
  cases opens₁
  have inMethod : InMethod w.visited s.heap s.frame d name o methods cls (.instance_ address own) :=
    ⟨⟨f₀, task₀, method, found₀, made₀.1, made₀.2, binds, declared, isFrame ▸ found₁⟩,
      f₁, r, t, found₁, made₁.1, made₁.2, answered⟩
  cases same with
  | classObject same =>
    cases same' with
    | instance_ same' =>
      exact ⟨isEntry, cls, _, address, own, _,
        ⟨isClass, isInstance, name, o, methods, encloses, inMethod⟩, isClass', isInstance', same,
        same'⟩

/-- What the lexical evaluator makes of a class and an instance at hand. -/
theorem readSuper_eq {keyword name : Token} {cls own : Class} {address : Nat}
    (isClass : s.heap.get s.frame { keyword with lexeme := "super" } = .ok (.classObject cls))
    (isInstance : s.heap.get s.frame { keyword with lexeme := "this" } =
      .ok (.instance_ address own)) :
    Lexical.readSuper keyword name s =
      (match cls.findMethod? name.lexeme with
        | some found => modifyGet fun i => i.bindMethod found (.instance_ address own)
        | none => fail (.undefinedProperty name.lexeme) name.line : Eval Value) s := by
  change Routine.bind (check (s.heap.get s.frame { keyword with lexeme := "super" }) s) _ = _
  rw [isClass]
  change Routine.bind (check (s.heap.get s.frame { keyword with lexeme := "this" }) s) _ = _
  rw [isInstance]
  rfl

/-- Methods above a class are read in lockstep. -/
theorem Moment.readSuper (m : Moment c w p s s') {keyword : Occurrence} {name : Token} {d : Nat}
    (isKnown : c.base.known p .super keyword) (spelled : keyword.name.lexeme = "super")
    (bound : p.distance? "this" = some d) (above : p.distance? "super" = some (d + 1))
    (awaiting : p.Awaiting) (inherits : p.InheritsAt d)
    (visited : c.base.visited (evaluating (.super keyword name) s)) :
    Lockstep c (Then c w p s s' Same) (readSuper keyword name)
      (Lexical.readSuper keyword.name name) s s' := by
  obtain ⟨isEntry, cls, cls', address, own, own', ⟨isClass, isInstance, -⟩, isClass', isInstance',
    same, same'⟩ := m.situation.super (m.known ▸ isKnown) spelled bound above awaiting inherits
  unfold Lockstep Job.Agree
  rw [Evaluation.readSuper_eq isEntry isClass isInstance, World.readSuper_eq isClass' isInstance']
  rcases rel_cases (same.findMethod? name.lexeme) with
    ⟨method, method', found, found', isSame⟩ | ⟨notFound, notFound'⟩
  · rw [found, found']
    exact Job.Agree.modifyGet (m.bindMethod isSame same' visited
      (makes_super isEntry isClass isInstance found) (.super isEntry isClass isInstance found))
  · rw [notFound, notFound']
    exact m.fail nofun

/-! ### Lists of expressions -/

/-- Arguments are evaluated in lockstep. -/
theorem Moment.evaluateAll (m : Moment c w p s s') {es : List Expr}
    (wellScoped : ∀ e ∈ es, e.WellScoped c.base.known p) (awaiting : p.Awaiting) :
    Lockstep c (Then c w p s s' fun w => List.Forall₂ (Same w)) (es.mapM Evaluation.evaluate)
      (es.mapM Evaluation.evaluate) s s' := by
  induction es generalizing w s s' with
  | nil =>
    rw [List.mapM_nil]
    exact .pure (.of_moment m .nil)
  | cons e es ih =>
    rw [List.mapM_cons]
    refine (m.evaluate (wellScoped e List.mem_cons_self) awaiting).bind ?_
    rintro v v' t t' ⟨first, -⟩
    refine first.agree fun w₁ grown₁ m₁ same => ?_
    refine (ih m₁ fun e mem => wellScoped e (List.mem_cons_of_mem _ mem)).bind ?_
    intro vs vs' u u' rest
    refine rest.agree fun w₂ grown₂ m₂ sames => ?_
    exact .pure (.of_moment m₂ (.cons (same.mono grown₂.le) sames))

/-! ### Expressions -/

theorem same_ofLiteral (literal : Literal) : Same w (Value.ofLiteral literal)
    (Value.ofLiteral literal) := by
  cases literal <;> constructor

section HandOver

variable {request request' next next' : Request .value} {sound : w.Sound}
  {visited : w.visited ⟨.value, request, s⟩} {w₁ : World} {p₁ : Position}

/-- Treatments that hand over to related goals. -/
theorem Moment.handOver
    (m : Moment (.of w ((request, s) : Goal .value) (request', s') sound visited) w₁ p₁ t t')
    (related : Routine.Begets body ⟨.value, request, s⟩ ⟨.value, next, t⟩ →
      Related w₁ p₁ ((next, t) : Goal .value) (next', t')) :
    Lockstep (.of w ((request, s) : Goal .value) (request', s') sound visited)
      (Job.Ends step w.coupling (w, p) ((request, s) : Goal .value) (request', s'))
      (Evaluation.handOver next) (Evaluation.handOver next') t t' := by
  have grown : Extends nowhere w w₁ := m.grown
  obtain ⟨frame, frame'⟩ : t.frame = s.frame ∧ t'.frame = s'.frame := m.keeps
  refine .pure fun begets => ⟨(w₁, p₁), ⟨m.known, grown.visited, related begets⟩,
    fun answer answer' settled => ?_,
    fun answer halted => halt_of_begets grown frame frame' begets halted⟩
  cases settled with
  | value grown' coherent newFrame newFrame' same =>
    exact .value (grown.trans grown') coherent (newFrame.trans frame) (newFrame'.trans frame') same
  | failed proper grown' coherent newFrame newFrame' =>
    exact .failed proper (grown.anywhere.trans grown') coherent (newFrame.trans frame)
      (newFrame'.trans frame')

/-- Treatments that hand over to an expression at their place. -/
theorem Moment.handOver_evaluate
    (m : Moment (.of w ((request, s) : Goal .value) (request', s') sound visited) w₁ p₁ t t')
    (situation : Situation w p₁ s s') (course : w.Course s.frame ⟨.value, request, s⟩) {e : Expr}
    (wellScoped : e.WellScoped w.known p₁) (awaiting : p₁.Awaiting) :
    Lockstep (.of w ((request, s) : Goal .value) (request', s') sound visited)
      (Job.Ends step w.coupling (w, p) ((request, s) : Goal .value) (request', s'))
      (Evaluation.handOver (.evaluate e)) (Evaluation.handOver (.evaluate e)) t t' := by
  refine m.handOver fun begets => ?_
  have frame : t.frame = s.frame := m.keeps.1
  have inside := (situation.around.inside sound).1
  refine .evaluate m.situation ?_ ?_ (m.known ▸ wellScoped) awaiting
  · intro parent maker given found
    rw [frame, m.grown.frame_eq inside] at found
    exact .tail (course parent maker given found) begets
  · exact m.grown.visited ▸ sound.closed _ _ visited begets

end HandOver

/-- The two evaluators treat expressions in lockstep. -/
theorem lockstep_expression {e : Expr} (situation : Situation w p s s')
    (course : w.Course s.frame (evaluating e s)) (visited : w.visited (evaluating e s))
    (wellScoped : e.WellScoped w.known p) (awaiting : p.Awaiting) :
    Lockstep (.of w ((.evaluate e, s) : Goal .value) (.evaluate e, s') situation.coherent.sound
        visited)
      (Job.Ends step w.coupling (w, p) ((.evaluate e, s) : Goal .value) (.evaluate e, s'))
      (evaluateStep e) (Lexical.evaluateStep e) s s' := by
  have m : Moment (.of w ((.evaluate e, s) : Goal .value) (.evaluate e, s')
      situation.coherent.sound visited) w p s s' := .start situation course
  cases wellScoped with
  | literal => exact (Then.of_moment m (same_ofLiteral _)).finish
  | grouping h => exact m.handOver_evaluate situation course h awaiting
  | unary isUnary h =>
    refine (m.evaluate h awaiting).bind ?_
    rintro v v' t t' ⟨⟨w₁, grown₁, m₁, -, -, same⟩, -⟩
    exact (m₁.check (same.unary isUnary)).bind fun _ _ _ _ h => h.finish
  | binary isBinary h h' =>
    refine (m.evaluate h awaiting).bind ?_
    rintro v v' t t' ⟨⟨w₁, grown₁, m₁, -, -, same₁⟩, -⟩
    refine (m₁.evaluate h' awaiting).bind ?_
    rintro u u' r r' ⟨⟨w₂, grown₂, m₂, -, -, same₂⟩, -⟩
    exact (m₂.check ((same₁.mono grown₂.le).binary isBinary same₂)).bind fun _ _ _ _ h => h.finish
  | logical h h' =>
    refine (m.evaluate h awaiting).bind ?_
    rintro v v' t t' ⟨⟨w₁, grown₁, m₁, -, -, same⟩, -⟩
    rw [same.decides]
    split
    · exact (Then.of_moment m₁ same).finish
    · exact m₁.handOver_evaluate situation course h' awaiting
  | reference isKnown ready => exact (m.lookUp isKnown ready).bind fun _ _ _ _ h => h.finish
  | @assign o value isKnown ordinary h =>
    refine (m.evaluate h awaiting).bind ?_
    rintro v v' t t' ⟨⟨w₁, grown₁, m₁, -, -, same⟩, answered⟩
    by_cases pending : p.pending = some o.name.lexeme
    · exact (m₁.assign_of_pending (Q := fun _ _ _ _ => False) isKnown pending awaiting
        ⟨o, value, s, .refl, ⟨p, isKnown, pending⟩, rfl, v, t, answered⟩).bind
        fun _ _ _ _ h => h.elim
    · refine (m₁.assign isKnown pending ordinary same).bind fun _ _ r r' h => ?_
      obtain ⟨w₂, grown₂, m₂, -, -, -⟩ := h
      exact (Then.of_moment m₂ (same.mono grown₂.le)).finish
  | @call callee paren arguments h h' =>
    refine (m.evaluate h awaiting).bind ?_
    rintro v v' t t' ⟨⟨w₁, grown₁, m₁, -, -, same⟩, -⟩
    refine (m₁.evaluateAll h' awaiting).bind fun vs vs' r r' h => ?_
    obtain ⟨w₂, grown₂, m₂, -, -, sames⟩ := h
    refine m₂.handOver fun begets => ?_
    have visited' := situation.coherent.sound.closed _ _ visited begets
    exact .call m₂.situation.coherent (m₂.grown.visited ▸ visited') (same.mono grown₂.le) sames
  | @get object property h =>
    refine (m.evaluate h awaiting).bind ?_
    rintro v v' t t' ⟨⟨w₁, grown₁, m₁, -, -, same⟩, answered⟩
    refine (m₁.readProperty same visited ?_).bind fun _ _ _ _ h => h.finish
    rintro address cls method rfl noField found
    exact ⟨makes_get answered noField found, .get answered noField found⟩
  | @set object value property h h' =>
    refine (m.evaluate h awaiting).bind ?_
    rintro v v' t t' ⟨⟨w₁, grown₁, m₁, -, -, same⟩, -⟩
    cases same with
    | @instance_ address cls cls' sameClass =>
      refine (m₁.evaluate h' awaiting).bind ?_
      rintro u u' r r' ⟨⟨w₂, grown₂, m₂, -, -, same₂⟩, -⟩
      refine Job.Agree.bind (Q := Then _ w₂ p r r' fun w' _ _ => Same w' u u')
        (.modify ?_) fun _ _ _ _ h => h.finish
      have coherent := m₂.situation.coherent
      refine ⟨w₂, .refl w₂, m₂.later (.refl w₂) ?_ rfl rfl, rfl, rfl, same₂⟩
      exact { coherent with heap := coherent.heap.setField address same₂ }
    | _ => exact m₁.fail nofun
  | @this keyword isKnown spelled d bound =>
    have ready : p.pending ≠ some keyword.name.lexeme := by
      intro pending
      exact (awaiting _ pending).1.1 spelled
    exact (m.lookUp isKnown ready).bind fun _ _ _ _ h => h.finish
  | @super keyword method isKnown spelled d bound above inherits =>
    exact (m.readSuper isKnown spelled bound above awaiting inherits visited).bind
      fun _ _ _ _ h => h.finish

end Lox.World
