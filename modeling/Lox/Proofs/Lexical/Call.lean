import Lox.Proofs.Lexical.Statement

/-!
# Calls in lockstep

Where the evaluator with distances calls a function in one frame with all its parameters, the
lexical evaluator opens a frame for each parameter. Both run the body around the same names, and go
back to the frames of the call.

## Main results

* `World.Moment.parameters`: parameters.
* `World.lockstep_closure`, `World.lockstep_instantiate`: functions and classes.
* `World.lockstep_call`: every call.
-/

namespace Lox

open Scope Evaluation

/-! ### Parameters -/

namespace Interpreter

/-- Bind names in the current frame, one after the other. -/
def defineAll (i : Interpreter) (bindings : List (String × Value)) : Interpreter :=
  bindings.foldl (fun i (x, v) => i.define i.frame x v) i

/-- Declare names one after the other, each in a frame of its own. -/
def declareAll (i : Interpreter) (bindings : List (String × Value)) : Interpreter :=
  bindings.foldl (fun i (x, v) => i.declare x v) i

end Interpreter

/-- A name that is bound in a new frame could have been there from the beginning. -/
theorem Heap.define_newFrame (h : Heap) (parent : Option FrameId) (b : Bindings) (x : String)
    (v : Value) :
    (h.newFrame parent b).2.define h.frames.size x v = (h.newFrame parent (b.insert x v)).2 := by
  have frames : (h.frames.push ⟨parent.filter (fun p => p < h.frames.size), b⟩).modify
      h.frames.size (fun frame => { frame with bindings := frame.bindings.insert x v }) =
        h.frames.push ⟨parent.filter (fun p => p < h.frames.size), b.insert x v⟩ := by
    apply Array.ext_getElem?
    intro n
    rw [Array.getElem?_modify, Array.getElem?_push, Array.getElem?_push]
    by_cases isLast : n = h.frames.size
    · subst isLast
      simp
    · rw [if_neg (Ne.symm isLast), if_neg isLast, if_neg isLast]
  unfold define newFrame
  simp only [Heap.mk.injEq, and_true]
  exact frames

/-- Parameters that are bound one after the other could all have been there from the beginning. -/
theorem Interpreter.defineAll_newFrame (i : Interpreter) (parent : FrameId)
    (bindings : List (String × Value)) (b : Bindings) :
    Interpreter.defineAll { (i.newFrame parent b).2 with frame := i.heap.frames.size } bindings =
      { (i.newFrame parent (bindings.foldl (fun b (x, v) => b.insert x v) b)).2 with
        frame := i.heap.frames.size } := by
  induction bindings generalizing b with
  | nil => rfl
  | cons binding bindings ih =>
    obtain ⟨x, v⟩ := binding
    have first : Interpreter.define { (i.newFrame parent b).2 with frame := i.heap.frames.size }
        i.heap.frames.size x v =
          { (i.newFrame parent (b.insert x v)).2 with frame := i.heap.frames.size } := by
      have heap := i.heap.define_newFrame (some parent) b x v
      unfold Interpreter.define Interpreter.newFrame
      simp only
      rw [heap]
    rw [List.foldl_cons, ← ih]
    change Interpreter.defineAll (Interpreter.define _ i.heap.frames.size x v) bindings = _
    rw [first]

theorem Lexical.declareAll_eq (bindings : List (String × Value)) (i : Interpreter) :
    Lexical.declareAll bindings i = .done (.ok ⟨⟩, i.declareAll bindings) := by
  induction bindings generalizing i with
  | nil => rfl
  | cons binding bindings ih =>
    obtain ⟨x, v⟩ := binding
    exact ih (i.declare x v)

namespace World

variable {w w' : World} {p : Position} {s s' t t' : Interpreter} {c : Context}

/-- Parameters are declared in lockstep. -/
theorem Moment.parameters (m : Moment c w p s s') (owns : c.Owns p s)
    {bindings bindings' : List (String × Value)}
    (same : List.Forall₂ (fun b b' => b'.1 = b.1 ∧ Same w b.2 b'.2) bindings bindings')
    (ordinary : ∀ x ∈ bindings.map Prod.fst, Ordinary x) (distinct : (bindings.map Prod.fst).Nodup)
    (fresh : ∀ x ∈ bindings.map Prod.fst, p.Fresh x) :
    ∃ w', LE w w' ∧ Moment c w' (p.declareAll (bindings.map Prod.fst)) (s.defineAll bindings)
        (s'.declareAll bindings') ∧
      c.Owns (p.declareAll (bindings.map Prod.fst)) (s.defineAll bindings) := by
  induction bindings generalizing w p s s' bindings' with
  | nil =>
    cases same
    exact ⟨w, .refl w, m, owns⟩
  | cons b rest ih =>
    obtain ⟨x, v⟩ := b
    obtain ⟨⟨x', v'⟩, rest', ⟨isName, sameValue⟩, others, rfl⟩ := List.forall₂_cons_left_iff.1 same
    obtain rfl : x' = x := isName
    rw [List.map_cons, List.nodup_cons] at distinct
    have head : x' ∈ ((x', v) :: rest).map Prod.fst := List.mem_cons_self
    have tail (y : String) (mem : y ∈ rest.map Prod.fst) :
        y ∈ ((x', v) :: rest).map Prod.fst := List.mem_cons_of_mem _ mem
    obtain ⟨w₁, grown, coherent, around⟩ :=
      m.situation.declare (ordinary x' head) (fresh x' head) sameValue
    have grown' : Extends (Declares (some x') s.frame) w w₁ :=
      grown.mono fun f y h => ⟨h.1, congrArg some h.2.symm⟩
    obtain ⟨m₁, owns₁⟩ := m.after owns grown' coherent rfl around
    have others₁ : List.Forall₂ (fun b b' => b'.1 = b.1 ∧ Same w₁ b.2 b'.2) rest rest' :=
      others.imp fun _ _ h => ⟨h.1, h.2.mono grown.le⟩
    have fresh₁ (y : String) (mem : y ∈ rest.map Prod.fst) : (p.declare x').Fresh y := by
      refine Position.fresh_declare (fresh y (tail y mem)) ?_
      rintro rfl
      exact distinct.1 mem
    obtain ⟨w₂, le, m₂, owns₂⟩ :=
      ih m₁ owns₁ others₁ (fun y mem => ordinary y (tail y mem)) distinct.2 fresh₁
    exact ⟨w₂, grown.le.trans le, m₂, owns₂⟩

/-! ### Functions -/

/-- Related ends of calls: related values, in the frames in which the calls began. -/
def Returned (c : Context) (w : World) (s s' : Interpreter) (v v' : Value) (t t' : Interpreter) :
    Prop :=
  ∃ w', LE w w' ∧ Extends nowhere c.base w' ∧ Coherent w' t t' ∧ t.frame = s.frame ∧
    t'.frame = s'.frame ∧ Same w' v v'

/-- Parameters and arguments belong together. -/
theorem forall₂_zip (names : List String) {vs vs' : List Value}
    (same : List.Forall₂ (Same w) vs vs') :
    List.Forall₂ (fun b b' => b'.1 = b.1 ∧ Same w b.2 b'.2) (names.zip vs) (names.zip vs') := by
  induction same generalizing names with
  | nil =>
    rw [List.zip_nil_right]
    exact .nil
  | cons first _ ih =>
    cases names with
    | nil => exact .nil
    | cons x names => exact .cons ⟨rfl, first⟩ (ih names)

/-- Declarations come before everything else. -/
theorem lockstep_declareAll {α β : Type} {Q : α → β → Interpreter → Interpreter → Prop}
    {job : Eval α} {job' : Eval β} {bindings : List (String × Value)}
    (h : Lockstep c Q job job' s (s'.declareAll bindings)) :
    Lockstep c Q job
      (do
        Lexical.declareAll bindings
        job') s s' := by
  unfold Lockstep Job.Agree
  change Routine.Agree _ _ _ _ _ _ _ (Routine.bind (Lexical.declareAll bindings s') _)
  rw [Lexical.declareAll_eq]
  exact h

section Closure

variable {closure closure' : Closure} {vs vs' : List Value}

/-- Bodies of functions are executed in lockstep. -/
theorem Coherent.executeBody (coherent : Coherent w s s') (grown : Extends nowhere c.base w)
    (keeps : c.frames s.frame s'.frame) (around : Around w closure.frame closure'.frame p.layers)
    (settled : p.pending = none) (wellScoped : closure.declaration.WellScoped c.base.known p)
    (same : List.Forall₂ (Same w) vs vs') (arity : vs.length = closure.arity) {maker : Task}
    (visited : w.visited maker) (makes : Makes maker s.heap.frames.size)
    (executes : Executes maker (.function closure.declaration) closure.frame none)
    (course : ∀ task, c.asks task → Relation.ReflTransGen (Routine.Begets body) maker task) :
    let names := closure.declaration.params.map Token.lexeme
    let bindings : Bindings := (names.zip vs).foldl (fun b (x, v) => b.insert x v) ∅
    Lockstep c (fun flow flow' t t' => ∃ w' q, LE w w' ∧ Extends nowhere c.base w' ∧
        Coherent w' t t' ∧ t.frame = s.frame ∧ t'.frame = s'.frame ∧ SameFlow w' q flow flow')
      (within s.heap.frames.size (executeAll closure.declaration.body))
      (within s'.heap.frames.size do
        Lexical.declareAll (names.zip vs')
        executeAll closure.declaration.body)
      (s.newFrame closure.frame bindings).2 (s'.newFrame closure'.frame ∅).2 := by
  intro names bindings
  cases wellScoped with
  | mk ordinary distinct h =>
    let q : Position := { p.enter (.function closure.declaration) [] with inFunction := true }
    obtain ⟨w₁, grown₁, m₁, owns₁⟩ :=
      coherent.enter grown around (q := q) rfl visited makes executes course
    have isNames : (names.zip vs).map Prod.fst = names :=
      List.map_fst_zip (Nat.le_of_eq ((List.length_map _).trans arity.symm))
    have sames : List.Forall₂ (Same w₁) vs vs' := same.imp fun _ _ => Same.mono grown₁.le
    obtain ⟨w₂, le₂, m₂, owns₂⟩ := m₁.parameters owns₁ (forall₂_zip names sames) (fun x mem => by
        rw [isNames] at mem
        obtain ⟨token, isParam, rfl⟩ := List.mem_map.1 mem
        exact ordinary token isParam)
      (isNames.symm ▸ distinct) (fun x _ layer isHead => by
        cases isHead
        exact List.not_mem_nil)
    rw [isNames, Position.declareAll_params] at m₂ owns₂
    have run := m₂.executeAll owns₂ h settled
    rw [Interpreter.defineAll_newFrame] at run
    have keeps' : c.frames (s.newFrame closure.frame bindings).2.frame
        (s'.newFrame closure'.frame ∅).2.frame := keeps
    refine (lockstep_within keeps' (lockstep_declareAll run)).mono (fun _ _ h => h)
      (fun _ _ _ h => h) ?_
    rintro flow flow' _ _ ⟨u, u', ⟨w₃, le₃, grown₃, coherent₃, -, sameFlow⟩, rfl, rfl⟩
    exact ⟨w₃, _, grown₁.le.trans (le₂.trans le₃), grown₃, { coherent₃ with }, rfl, rfl, sameFlow⟩

/-- The receiver of a method is the same for both evaluators. -/
theorem SameClosure.receiver (same : SameClosure w closure closure') (coherent : Coherent w s s')
    (isInitializer : closure.isInitializer = true) (line line' : Nat) (kind : TokenKind) :
    ∃ v v', s.heap.getAt closure.frame 0 "this" line = .ok v ∧
      s'.heap.get closure'.frame ⟨kind, "this", line'⟩ = .ok v' ∧ Same w v v' := by
  obtain ⟨p, around, -, -, isBound⟩ := same.place
  obtain ⟨layer, layers, isLayers, names⟩ := isBound isInitializer
  have isDistance : layerDistance? "this" p.layers = some 0 := by
    rw [isLayers, layerDistance?_of_mem (names ▸ List.mem_singleton_self _)]
  obtain ⟨v, v', -, isValue, isValue', isSame, -⟩ :=
    around.getAt coherent.heap coherent.sound isDistance line line' kind
  exact ⟨v, v', isValue, isValue', isSame⟩

/-- Functions are called in lockstep. -/
theorem Coherent.callClosure (coherent : Coherent w s s') (grown : Extends nowhere c.base w)
    (keeps : c.frames s.frame s'.frame) (same : SameClosure w closure closure')
    (sameArguments : List.Forall₂ (Same w) vs vs') (arity : vs.length = closure.arity)
    {maker : Task} (visited : w.visited maker) (makes : Makes maker s.heap.frames.size)
    (executes : Executes maker (.function closure.declaration) closure.frame none)
    (course : ∀ task, c.asks task → Relation.ReflTransGen (Routine.Begets body) maker task) :
    Lockstep c (Returned c w s s') (callClosure closure vs) (Lexical.callClosure closure' vs')
      s s' := by
  obtain ⟨declaration', frame', isInitializer'⟩ := closure'
  obtain ⟨p, around, settled, wellScoped, -⟩ := same.place
  obtain rfl : declaration' = closure.declaration := same.declaration
  obtain rfl : isInitializer' = closure.isInitializer := same.isInitializer
  rw [grown.known] at wellScoped
  have run := coherent.executeBody grown keeps around settled wellScoped sameArguments arity visited
    makes executes course
  refine Job.Agree.bind (Q := fun f f' t t' => f = s.heap.frames.size ∧
    f' = s'.heap.frames.size ∧ t = _ ∧ t' = _) (.modifyGet ⟨rfl, rfl, rfl, rfl⟩) ?_
  rintro _ _ _ _ ⟨rfl, rfl, rfl, rfl⟩
  refine run.bind ?_
  rintro flow flow' t t' ⟨w', q, le, grown', coherent', frame, frame', sameFlow⟩
  split
  · next isInitializer =>
    obtain ⟨v, v', isValue, isValue', isSame⟩ := (same.mono le).receiver coherent' isInitializer
      closure.declaration.name.line closure.declaration.name.line closure.declaration.name.kind
    refine Job.Agree.bind (Q := fun i i' u u' => i = t ∧ i' = t' ∧ u = t ∧ u' = t')
      (.get ⟨rfl, rfl, rfl, rfl⟩) ?_
    rintro _ _ _ _ ⟨rfl, rfl, rfl, rfl⟩
    rw [isValue, isValue']
    exact .pure ⟨w', le, grown', coherent', frame, frame', isSame⟩
  · cases sameFlow with
    | normal => exact .pure ⟨w', le, grown', coherent', frame, frame', .nil⟩
    | returned _ isSame => exact .pure ⟨w', le, grown', coherent', frame, frame', isSame⟩

end Closure

/-! ### Classes -/

section Class

variable {cls cls' : Class} {vs vs' : List Value} {line : Nat}

theorem Coherent.newInstance (coherent : Coherent w s s') (same : SameClass w cls cls') :
    Coherent w (s.newInstance cls).2 (s'.newInstance cls').2 ∧
      Same w (s.newInstance cls).1 (s'.newInstance cls').1 := by
  refine ⟨{ coherent with heap := coherent.heap.newInstance }, ?_⟩
  change Same w (.instance_ s.heap.fields.size cls) (.instance_ s'.heap.fields.size cls')
  rw [coherent.heap.fieldsSize]
  exact .instance_ same

/-- An instance is made, and the initializer is bound to it and called. -/
theorem instantiate_eq {method : Closure} (found : cls.findMethod? "init" = some method) :
    Lexical.instantiate cls vs s =
      (do
        let _ ← Lexical.callClosure
          ((s.newInstance cls).2.bindClosure method (s.newInstance cls).1).1 vs
        return (s.newInstance cls).1 : Eval Value)
        ((s.newInstance cls).2.bindClosure method (s.newInstance cls).1).2 := by
  unfold Lexical.instantiate
  rw [found]
  rfl

/-- Classes are called in lockstep. -/
theorem Coherent.instantiate (coherent : Coherent w s s') (grown : Extends nowhere c.base w)
    (keeps : c.frames s.frame s'.frame) (same : SameClass w cls cls')
    (sameArguments : List.Forall₂ (Same w) vs vs') (arity : vs.length = cls.arity) {maker : Task}
    (visited : w.visited maker)
    (initializes : ∀ method, cls.findMethod? "init" = some method →
      Makes maker s.heap.frames.size ∧ Makes maker (s.heap.frames.size + 1) ∧
        Binds maker method (.instance_ s.heap.fields.size cls) ∧
        Executes maker (.function method.declaration) s.heap.frames.size none)
    (course : ∀ task, c.asks task → Relation.ReflTransGen (Routine.Begets body) maker task) :
    Lockstep c (Returned c w s s') (instantiate cls vs) (Lexical.instantiate cls' vs') s s' := by
  obtain ⟨coherent₁, sameValue⟩ := coherent.newInstance same
  unfold Lockstep Job.Agree
  rcases rel_cases (same.findMethod? "init") with
    ⟨method, method', found, found', sameMethod⟩ | ⟨notFound, notFound'⟩
  · obtain ⟨makes, makes', binds, executes⟩ := initializes method found
    obtain ⟨w₂, grown₂, coherent₂, sameClosure⟩ :=
      coherent₁.bindClosure sameMethod same visited makes binds
    have sames : List.Forall₂ (Same w₂) vs vs' := sameArguments.imp fun _ _ => Same.mono grown₂.le
    have isArity : vs.length = method.arity := by
      rw [arity, Class.arity, found]
    have isSize : s.heap.frames.size + 1 =
        ((s.newInstance cls).2.bindClosure method (s.newInstance cls).1).2.heap.frames.size :=
      Heap.size_newFrame.symm
    have isAddress : (s'.newInstance cls').1 = .instance_ s.heap.fields.size cls' :=
      congrArg (Value.instance_ · cls') coherent.heap.fieldsSize
    rw [Evaluation.instantiate_eq found, World.instantiate_eq found', isAddress]
    have run := coherent₂.callClosure (grown.trans grown₂) keeps sameClosure sames isArity
      (grown₂.le.visited _ visited) (isSize ▸ makes') executes course
    refine Job.Agree.bind run ?_
    rintro _ _ t t' ⟨w₃, le₃, grown₃, coherent₃, frame, frame', -⟩
    exact .pure ⟨w₃, grown₂.le.trans le₃, grown₃, coherent₃, frame, frame',
      .instance_ (same.mono (grown₂.le.trans le₃))⟩
  · have plain : Evaluation.instantiate cls vs s =
        .done (.ok (s.newInstance cls).1, (s.newInstance cls).2) := by
      unfold Evaluation.instantiate
      rw [notFound]
      rfl
    have plain' : Lexical.instantiate cls' vs' s' =
        .done (.ok (s'.newInstance cls').1, (s'.newInstance cls').2) := by
      unfold Lexical.instantiate
      rw [notFound']
      rfl
    rw [plain, plain']
    exact .done fun _ => ⟨w, .refl w, grown, coherent₁, rfl, rfl, sameValue⟩

end Class

/-! ### Calls -/

theorem Coherent.readClock (coherent : Coherent w s s') (line : Nat) :
    Coherent w (s.readClock line).2 (s'.readClock line).2 ∧
      SameResult w (s.readClock line).1 (s'.readClock line).1 := by
  refine ⟨{ coherent with readings := congrArg (· + 1) coherent.readings }, ?_⟩
  unfold Interpreter.readClock
  rw [coherent.clock, coherent.readings]
  cases s.clock s.readings with
  | ok seconds => exact .ok .number
  | error reason => exact .error nofun

/-- What is called is called in lockstep. -/
theorem Coherent.perform (coherent : Coherent w s s') (grown : Extends nowhere c.base w)
    (keeps : c.frames s.frame s'.frame) {callee callee' : Value} {vs vs' : List Value}
    (same : Same w callee callee') (sameArguments : List.Forall₂ (Same w) vs vs')
    (arity : callee.arity? = some vs.length) {line : Nat} {r : Interpreter}
    (room : ¬ maxDepth ≤ r.depth) (isHeap : r.heap = s.heap)
    (visited : w.visited (calling callee vs line r))
    (course : ∀ task, c.asks task →
      Relation.ReflTransGen (Routine.Begets body) (calling callee vs line r) task) :
    Lockstep c (Returned c w s s') (perform callee vs line) (Lexical.perform callee' vs' line)
      s s' := by
  cases same with
  | clock =>
    refine Job.Agree.bind (Q := fun r r' t t' => SameResult w r r' ∧ Coherent w t t' ∧
      t.frame = s.frame ∧ t'.frame = s'.frame)
      (.modifyGet (by exact ⟨(coherent.readClock line).2, (coherent.readClock line).1, rfl, rfl⟩))
      ?_
    rintro r r' t t' ⟨sameResult, coherent', frame, frame'⟩
    cases sameResult with
    | ok sameValue => exact .pure ⟨w, .refl w, grown, coherent', frame, frame', sameValue⟩
    | error proper =>
      refine .throw ⟨proper, w, grown.anywhere, coherent', ?_⟩
      rwa [frame, frame']
  | @function identity closure closure' same =>
    have isArity : vs.length = closure.arity := (Option.some.inj arity).symm
    exact coherent.callClosure grown keeps same sameArguments isArity visited
      (isHeap ▸ makes_function isArity room) .function course
  | @classObject cls cls' same =>
    have isArity : vs.length = cls.arity := (Option.some.inj arity).symm
    refine coherent.instantiate grown keeps same sameArguments isArity visited
      (fun method found => ?_) course
    have isArity' : vs.length = method.arity := by
      rw [isArity, Class.arity, found]
    rw [← isHeap]
    have beyond : r.heap.frames.size < r.heap.frames.size + 2 := Nat.lt_add_of_pos_right (by decide)
    exact ⟨makes_initializer found isArity' room (Nat.le_refl _) beyond,
      makes_initializer found isArity' room (Nat.le_succ _) (Nat.lt_succ_self _), .init found,
      .initializer found⟩
  | _ => cases arity

section Call

variable {callee callee' : Value} {vs vs' : List Value} {line : Nat}

/-- Values are called in lockstep. -/
theorem Coherent.callValue (coherent : Coherent w s s')
    (visited : w.visited (calling callee vs line s)) (same : Same w callee callee')
    (sameArguments : List.Forall₂ (Same w) vs vs') :
    let c : Context := .of w ((.call callee vs line, s) : Goal .value)
      (.call callee' vs' line, s') coherent.sound visited
    Lockstep c (Returned c w s s') (callValue callee vs line) (Lexical.callValue callee' vs' line)
      s s' := by
  intro c
  have failed {cause : Fault.Cause} (proper : cause.kind ≠ .internal) :
      Lockstep c (Returned c w s s') (fail cause line) (fail cause line) s s' :=
    .throw ⟨proper, w, .refl w, coherent, rfl, rfl⟩
  unfold Evaluation.callValue Lexical.callValue
  rw [same.arity?]
  cases isArity : callee.arity? with
  | none => exact failed nofun
  | some arity =>
    dsimp only
    rw [sameArguments.length_eq]
    split
    · exact failed nofun
    · next isLength =>
      have isLength : arity = vs.length :=
        (Decidable.of_not_not isLength).symm.trans sameArguments.length_eq.symm
      refine Job.Agree.bind (Q := fun i i' t t' => i = s ∧ i' = s' ∧ t = s ∧ t' = s')
        (.get ⟨rfl, rfl, rfl, rfl⟩) ?_
      rintro _ _ s s' ⟨rfl, rfl, rfl, rfl⟩
      rw [coherent.depth]
      split
      · exact failed nofun
      · next room =>
        refine Job.Agree.bind (Q := fun _ _ t t' => t = { s with depth := s.depth + 1 } ∧
          t' = { s' with depth := s'.depth + 1 }) (.modify ⟨rfl, rfl⟩) ?_
        rintro _ _ _ _ ⟨rfl, rfl⟩
        have deeper : Coherent w { s with depth := s.depth + 1 }
            { s' with depth := s'.depth + 1 } :=
          { coherent with depth := congrArg (· + 1) coherent.depth }
        have run := deeper.perform (c := c) (.refl w) ⟨rfl, rfl⟩ same sameArguments
          (isLength ▸ isArity) room rfl visited fun task asked => .single (.inl asked)
        refine Job.Agree.always run ?_ ?_ ?_
        · rintro fault t ⟨culprit, w', t', grown, coherent', frames⟩
          exact ⟨culprit, w', { t' with depth := t.depth - 1 }, grown,
            { coherent' with depth := rfl }, frames⟩
        · rintro fault t t' ⟨proper, w', grown, coherent', frames⟩
          exact ⟨proper, w', grown,
            { coherent' with depth := congrArg (· - 1) coherent'.depth }, frames⟩
        · rintro v v' t t' ⟨w', le, grown, coherent', frame, frame', isSame⟩
          exact ⟨w', le, grown, { coherent' with depth := congrArg (· - 1) coherent'.depth },
            frame, frame', isSame⟩

/-- The two evaluators treat calls in lockstep. -/
theorem lockstep_call (coherent : Coherent w s s') (visited : w.visited (calling callee vs line s))
    (same : Same w callee callee') (sameArguments : List.Forall₂ (Same w) vs vs') :
    Lockstep (.of w ((.call callee vs line, s) : Goal .value) (.call callee' vs' line, s')
        coherent.sound visited)
      (Job.Ends step w.coupling (w, p) ((.call callee vs line, s) : Goal .value)
        (.call callee' vs' line, s'))
      (step .value (.call callee vs line)) (Lexical.step .value (.call callee' vs' line))
      s s' := by
  refine (coherent.callValue visited same sameArguments).bind ?_
  rintro v v' t t' ⟨w', -, grown, coherent', frame, frame', isSame⟩
  exact .pure (.value grown coherent' frame frame' isSame)

end Call

end World

end Lox
