import Lox.Proofs.Evaluation.Confined
import Lox.Proofs.Evaluation.Receiver
import Lox.Proofs.Routine.Growth

/-!
# Initializers

The evaluation of an expression, the execution of a statement and a call keep to a contract: they
keep the heap faithful, and frames keep their receivers. A call of a function that was declared as a
method under the name `init` yields its receiver, and a call of a class a new instance of it.

## Main definitions

* `Request.Honours`: what calls yield.
* `receivers`: the contract.
* `Safe`: a computation keeps to the contract, and the heap only grows.

## Main results

* `grown`: the treatments of all requests keep to the contract.
* `safe_interpret`: so do programs.
-/

namespace Lox

/-- The value with which a statement returns is faithful. -/
def Flow.Faithful (heap : Heap) : Flow → Prop
  | .normal => True
  | .returned value => value.Faithful heap

namespace Evaluation

/-! ### The contract -/

/-- Results of requests are faithful. -/
def Phase.Faithful (heap : Heap) : (p : Phase) → p.Result → Prop
  | .value => Value.Faithful heap
  | .flow => Flow.Faithful heap

/-- Requests are about formed code and faithful values. -/
def Request.Faithful (heap : Heap) : {p : Phase} → Request p → Prop
  | _, .evaluate e => e.Formed
  | _, .execute s => s.Formed
  | _, .call callee arguments _ => callee.Faithful heap ∧ ∀ v ∈ arguments, v.Faithful heap

/-- The treatment of a request ends with a faithful result or request. -/
def Continues (heap : Heap) {p : Phase} : Step p → Prop
  | .finished result => p.Faithful heap result
  | .handOver request => request.Faithful heap

/-- What a call yields that begins in a heap: a method that was declared under the name `init`
yields its receiver, a class an instance at the next address. -/
def Request.Honours (heap : Heap) : {p : Phase} → Request p → p.Result → Prop
  | _, .call (.function _ c) _ _, value =>
    ∀ receiver, heap.receiver? c.frame = some receiver → c.name = "init" → value = receiver
  | _, .call (.classObject c) _ _, value => value = .instance_ heap.fields.size c
  | _, _, _ => True

/-- A computation that began in a state is over, and its result has a property. -/
def Over {α : Type} (i : Interpreter) (Q : Heap → α → Prop)
    (left : Except Fault α × Interpreter) : Prop :=
  i.Before left.2 ∧ ∀ a, left.1 = .ok a → Q left.2.heap a

/-- Goals in faithful states have faithful answers, in later states. -/
def receivers : Contract Goal Answer where
  Pre goal := goal.2.Faithful ∧ goal.1.Faithful goal.2.heap
  Post {p} goal :=
    Over goal.2 fun heap result => p.Faithful heap result ∧ goal.1.Honours goal.2.heap result
  Next _ _ := True

/-- The heap of a state is later than that of another one. -/
def LaterHeap (i j : Interpreter) : Prop :=
  i.heap.Later j.heap

instance : IsPreorder Interpreter LaterHeap where
  refl i := .refl i.heap
  trans _ _ _ h h' := Heap.Later.trans h h'

/-- A computation that begins in a state keeps to the contract, with heaps that are later and later,
and its result has a property. -/
def Safe {α : Type} (i : Interpreter) (Q : Heap → α → Prop) (job : Eval α) : Prop :=
  Routine.Grows receivers LaterHeap Prod.snd (Over i Q) i (job i)

variable {α β : Type} {i j : Interpreter} {Q : Heap → α → Prop} {Q' : Heap → β → Prop} {p : Phase}

/-! ### Computations -/

namespace Safe

theorem pure {a : α} (state : i.Faithful) (result : Q i.heap a) : Safe i Q (Pure.pure a) :=
  .done (.refl _) ⟨state.refl, fun _ isResult => by cases isResult; exact result⟩

theorem throw {e : Fault} (state : i.Faithful) : Safe i Q (MonadExcept.throw e) :=
  .done (.refl _) ⟨state.refl, nofun⟩

theorem mono {job : Eval α} {Q' : Heap → α → Prop} (h : Safe i Q job)
    (h' : ∀ heap a, Q heap a → Q' heap a) : Safe i Q' job :=
  Routine.Grows.mono h fun _ ⟨before, result⟩ =>
    ⟨before, fun a isResult => h' _ a (result a isResult)⟩

theorem modifyGet {f : Interpreter → α × Interpreter} (before : i.Before (f i).2)
    (result : Q (f i).2.heap (f i).1) : Safe i Q (MonadState.modifyGet f) :=
  .done before.later ⟨before, fun _ isResult => by cases isResult; exact result⟩

theorem bind {job : Eval α} {next : α → Eval β} (h : Safe i Q job)
    (h' : ∀ a j, i.Before j → Q j.heap a → Safe j Q' (next a)) : Safe i Q' (job >>= next) := by
  refine Routine.Grows.bind h ?_
  rintro ⟨outcome, j⟩ ⟨before, result⟩
  cases outcome with
  | error e => exact .done (.refl _) ⟨before, nofun⟩
  | ok a =>
    refine Routine.Grows.mono (h' a j before (result a rfl)) ?_
    exact fun left ⟨before', result'⟩ => ⟨before.trans before', result'⟩

/-- The state at a point of a computation. -/
theorem get {next : Interpreter → Eval β} (h : Safe i Q' (next i)) :
    Safe i Q' (MonadState.get >>= next) :=
  h

theorem ask {r : Request p} (state : i.Faithful) (request : r.Faithful i.heap) :
    Safe i (fun heap result => p.Faithful heap result) (Job.ask r) := by
  refine .call (.refl _) ⟨state, request⟩ fun answer promised => .done (.refl _) ⟨promised.1, ?_⟩
  exact fun a isResult => (promised.2 a isResult).1

theorem check {r : Except Fault α} (state : i.Faithful) (h : ∀ a, r = .ok a → Q i.heap a) :
    Safe i Q (check r) := by
  cases r with
  | error e => exact .throw state
  | ok a => exact .pure state (h a rfl)

theorem fail (state : i.Faithful) (cause : Fault.Cause) (line : Nat) :
    Safe i Q (fail cause line : Eval α) :=
  .throw state

end Safe

/-- A computation in changed states, after which the change is undone. -/
theorem safe_always {job : Eval α} {restore : Interpreter → Interpreter}
    (before : i.heap.Later j.heap) (h : Safe j Q job)
    (restored : ∀ k, j.Before k → i.Before (restore k) ∧ (restore k).heap = k.heap) :
    Routine.Grows receivers LaterHeap Prod.snd (Over i Q) i (job.always restore j) := by
  refine (Routine.Grows.bind h ?_).behind before
  rintro ⟨outcome, k⟩ ⟨before', result⟩
  obtain ⟨before'', same⟩ := restored k before'
  refine .done ?_ ⟨before'', fun a isResult => same ▸ result a isResult⟩
  change k.heap.Later (restore k).heap
  rw [same]
  exact .refl _

theorem safe_evaluate {e : Expr} (state : i.Faithful) (formed : e.Formed) :
    Safe i Value.Faithful (evaluate e) :=
  .ask (r := .evaluate e) state formed

theorem safe_execute {s : Stmt} (state : i.Faithful) (formed : s.Formed) :
    Safe i Flow.Faithful (execute s) :=
  .ask (r := .execute s) state formed

/-- A computation in a frame without a receiver. -/
theorem safe_within {f : FrameId} {job : Eval α} (state : i.Faithful)
    (exists_ : f < i.heap.frames.size) (plain : i.heap.receiver? f = none)
    (h : ∀ j : Interpreter, j.Faithful → Safe j Q job) : Safe i Q (within f job) := by
  change Routine.Grows receivers LaterHeap Prod.snd (Over i Q) i
    (Job.always job (fun k => { k with frame := i.frame }) { i with frame := f })
  refine safe_always (.refl _) (h _ ⟨state.heap, exists_, plain⟩) fun k before => ⟨?_, rfl⟩
  exact state.before before.faithful.heap before.later rfl

/-- Statements in sequence. -/
theorem safe_executeAll {ss : List Stmt} (state : i.Faithful) (formed : ∀ s ∈ ss, s.Formed) :
    Safe i Flow.Faithful (executeAll ss) := by
  induction ss generalizing i with
  | nil => exact .pure state trivial
  | cons s ss ih =>
    obtain ⟨first, others⟩ := List.forall_mem_cons.1 formed
    refine .bind (safe_execute state first) fun flow j before isFlow => ?_
    cases flow with
    | normal => exact ih before.faithful others
    | returned value => exact .pure before.faithful isFlow

/-! ### Names -/

theorem safe_lookUp (state : i.Faithful) (o : Occurrence) : Safe i Value.Faithful (lookUp o) :=
  .get (.check state fun _ found => state.lookUp found)

theorem safe_define (state : i.Faithful) {name : Token} (ordinary : Ordinary name.lexeme)
    {v : Value} (value : v.Faithful i.heap) : Safe i (fun _ _ => True) (define name v) :=
  .modifyGet (state.define ordinary.1 value) trivial

theorem safe_assign (state : i.Faithful) {o : Occurrence} (ordinary : Ordinary o.name.lexeme)
    {v : Value} (value : v.Faithful i.heap) : Safe i (fun _ _ => True) (assign o v) := by
  refine .get (.bind (Q := fun _ _ => True) (.check state fun _ _ => trivial)
    fun f j before _ => ?_)
  exact .modifyGet (before.faithful.define ordinary.1 (value.mono before.later)) trivial

/-! ### Calls -/

/-- The frame of a call has no receiver, and binds faithful values. -/
theorem plain_parameters {heap : Heap} {d : FunctionDecl} {values : List Value}
    {bindings : Bindings} (formed : d.Formed) (faithful : ∀ v ∈ values, v.Faithful heap)
    (isBindings : ((d.params.map Token.lexeme).zip values).foldl
      (fun bindings (name, value) => bindings.insert name value) ∅ = bindings) :
    (∀ (x : String) (v : Value), bindings[x]? = some v → v.Faithful heap) ∧
      bindings["this"]? = none := by
  have each (x : String) (v : Value) (found : bindings[x]? = some v) :
      x ≠ "this" ∧ v.Faithful heap := by
    rw [← isBindings] at found
    refine forall_parameters (P := fun x v => x ≠ "this" ∧ v.Faithful heap)
      (fun x mem v mem' => ?_) (fun x v found => ?_) x v found
    · obtain ⟨-, ordinary, -⟩ := formed
      obtain ⟨t, isParameter, rfl⟩ := List.mem_map.1 mem
      exact ⟨(ordinary t isParameter).1, faithful v mem'⟩
    · rw [Std.TreeMap.getElem?_emptyc] at found
      cases found
  refine ⟨fun x v found => (each x v found).2, ?_⟩
  cases found : bindings["this"]? with
  | none => rfl
  | some v => exact absurd rfl (each "this" v found).1

/-- A call of a function yields a faithful value. If the function is a method that was declared
under the name `init`, the value is its receiver. -/
theorem safe_callClosure {c : Closure} {arguments : List Value} (state : i.Faithful)
    (closure : c.Faithful i.heap) (values : ∀ v ∈ arguments, v.Faithful i.heap) :
    Safe i (fun heap v => v.Faithful heap ∧
        ∀ receiver, i.heap.receiver? c.frame = some receiver → c.name = "init" → v = receiver)
      (callClosure c arguments) := by
  obtain ⟨bindings, plain⟩ := plain_parameters closure.formed values rfl
  obtain ⟨before, exists_, plain⟩ := state.newFrame (f := c.frame) bindings plain
  refine .bind (Q := fun heap f => f < heap.frames.size ∧ heap.receiver? f = none)
    (.modifyGet before ⟨exists_, plain⟩) fun f j before ⟨exists_, plain⟩ => ?_
  obtain ⟨-, -, body⟩ := closure.formed
  refine .bind (safe_within before.faithful exists_ plain fun k state => safe_executeAll state body)
    fun flow k before' isFlow => ?_
  have before := before.trans before'
  cases isInitializer : c.isInitializer with
  | true =>
    -- the receiver is still there once the body has been executed
    rw [closure.isInitializer, Bool.and_eq_true, Option.isSome_iff_exists, beq_iff_eq]
      at isInitializer
    obtain ⟨⟨v, isReceiver⟩, -⟩ := isInitializer
    have found := before.later.receiver_eq_some isReceiver
    have isValue : k.heap.getAt c.frame 0 "this" c.declaration.name.line = .ok v :=
      Heap.getAt_this found
    simp only [if_true]
    refine .get (.check before'.faithful fun w isResult => ?_)
    rw [isValue] at isResult
    cases isResult
    refine ⟨before'.faithful.heap.binding c.frame "this" v found, fun w isReceiver' _ => ?_⟩
    exact Option.some.inj (isReceiver.symm.trans isReceiver')
  | false =>
    have notInit (w : Value) (isReceiver : i.heap.receiver? c.frame = some w) :
        c.name ≠ "init" := by
      intro isName
      rw [closure.isInitializer, isReceiver, isName] at isInitializer
      cases isInitializer
    cases flow with
    | normal =>
      exact .pure before'.faithful ⟨trivial, fun w isReceiver isName =>
        absurd isName (notInit w isReceiver)⟩
    | returned value =>
      exact .pure before'.faithful ⟨isFlow, fun w isReceiver isName =>
        absurd isName (notInit w isReceiver)⟩

/-- A call of a class yields an instance at the next address. -/
theorem safe_instantiate {c : Class} {arguments : List Value} (state : i.Faithful)
    (isClass : c.Faithful i.heap) (values : ∀ v ∈ arguments, v.Faithful i.heap) :
    Safe i (fun heap v => v.Faithful heap ∧ v = .instance_ i.heap.fields.size c)
      (instantiate c arguments) := by
  obtain ⟨before, value⟩ := state.newInstance isClass
  refine .bind (Q := fun heap v => v.Faithful heap ∧ v = .instance_ i.heap.fields.size c)
    (.modifyGet before ⟨value, rfl⟩) fun v j before ⟨value, isInstance⟩ => ?_
  subst isInstance
  split
  · next m isMethod =>
    obtain ⟨before', closure, -⟩ := before.faithful.bindClosure
      ((isClass.mono before.later) "init" m isMethod) value
    refine .bind (.modifyGet before' closure) fun bound k before' closure => ?_
    have before := before.trans before'
    refine .bind (safe_callClosure before'.faithful closure fun v mem =>
      (values v mem).mono before.later) fun _ l before'' _ => ?_
    exact .pure before''.faithful ⟨(value.mono before'.later).mono before''.later, rfl⟩
  · exact .pure before.faithful ⟨value, rfl⟩

theorem safe_perform {callee : Value} {arguments : List Value} {line : Nat} (state : i.Faithful)
    (value : callee.Faithful i.heap) (values : ∀ v ∈ arguments, v.Faithful i.heap) :
    Safe i (fun heap v => v.Faithful heap ∧
        (Request.call callee arguments line).Honours i.heap v)
      (perform callee arguments line) := by
  cases callee with
  | clock =>
    have isNumber (v : Value) (isValue : (i.readClock line).1 = .ok v) :
        v.Faithful i.heap ∧ True := by
      obtain ⟨seconds, rfl⟩ := Interpreter.exists_of_readClock isValue
      exact ⟨trivial, trivial⟩
    exact .bind (Q := fun heap r => ∀ v, r = .ok v → v.Faithful heap ∧ True)
      (.modifyGet (state.before state.heap (.refl _) rfl) isNumber)
      fun r j before result => .check before.faithful result
  | function identity c => exact safe_callClosure state value values
  | classObject c => exact safe_instantiate state value values
  | _ => exact .fail state _ _

theorem safe_callValue {callee : Value} {arguments : List Value} {line : Nat} (state : i.Faithful)
    (value : callee.Faithful i.heap) (values : ∀ v ∈ arguments, v.Faithful i.heap) :
    Safe i (fun heap v => v.Faithful heap ∧
        (Request.call callee arguments line).Honours i.heap v)
      (callValue callee arguments line) := by
  unfold callValue
  split
  · exact .fail state _ _
  · split
    · exact .fail state _ _
    · refine .get ?_
      split
      · exact .fail state _ _
      · change Routine.Grows receivers LaterHeap Prod.snd (Over i _) i
          (Job.always (perform callee arguments line) (fun k => { k with depth := k.depth - 1 })
            { i with depth := i.depth + 1 })
        refine safe_always (.refl _) (safe_perform (state.atDepth _).faithful value values)
          fun k before => ⟨?_, rfl⟩
        exact state.before before.faithful.heap before.later before.frame

/-! ### Expressions -/

theorem safe_readProperty {object : Value} {property : Token} (state : i.Faithful)
    (value : object.Faithful i.heap) : Safe i Value.Faithful (readProperty object property) := by
  cases object with
  | instance_ address c =>
    obtain ⟨before, result⟩ := state.property value property
    exact .bind (Q := fun heap r => ∀ v, r = .ok v → v.Faithful heap) (.modifyGet before result)
      fun r j before result => .check before.faithful result
  | _ => exact .fail state _ _

theorem safe_readSuper (state : i.Faithful) (keyword : Occurrence) (method : Token) :
    Safe i Value.Faithful (readSuper keyword method) := by
  refine .get ?_
  have getAt {distance : Nat} {x : String} {j : Interpreter} (before : i.Before j) :
      Safe j Value.Faithful (check (i.heap.getAt i.frame distance x keyword.name.line)) :=
    .check before.faithful fun v found => (state.heap.getAt found).mono before.later
  split
  · exact .fail state _ _
  · refine .bind (getAt state.refl) fun v j before isClass => ?_
    split
    · refine .bind (getAt before) fun w k before' isInstance => ?_
      split
      · split
        · next found =>
          have kept := (isClass.mono before'.later) method.lexeme _ found
          obtain ⟨before, value⟩ := before'.faithful.bindMethod kept isInstance
          exact .modifyGet before value
        · exact .fail before'.faithful _ _
      · exact .fail before'.faithful _ _
    · exact .fail before.faithful _ _

/-- The arguments of a call. -/
theorem safe_arguments {es : List Expr} (state : i.Faithful) (formed : ∀ e ∈ es, e.Formed) :
    Safe i (fun heap vs => ∀ v ∈ vs, v.Faithful heap) (es.mapM evaluate) := by
  induction es generalizing i with
  | nil => exact .pure state nofun
  | cons e es ih =>
    rw [List.mapM_cons]
    obtain ⟨first, others⟩ := List.forall_mem_cons.1 formed
    refine .bind (safe_evaluate state first) fun v j before value => ?_
    refine .bind (ih before.faithful others) fun vs k before' values => ?_
    exact .pure before'.faithful (List.forall_mem_cons.2 ⟨value.mono before'.later, values⟩)

/-- The treatment of an expression. -/
theorem safe_evaluateStep {e : Expr} (state : i.Faithful) (formed : e.Formed) :
    Safe i (fun heap => Continues heap) (evaluateStep e) := by
  cases formed with
  | literal => exact .pure state (Value.plain_ofLiteral _).faithful
  | grouping inner => exact .pure state inner
  | unary _ right =>
    refine .bind (safe_evaluate state right) fun v j before _ => ?_
    refine .bind (Q := Value.Faithful) (.check before.faithful fun _ result =>
      (Value.plain_unary result).faithful)
      fun w k before value => ?_
    exact .pure before.faithful value
  | binary _ left right =>
    refine .bind (safe_evaluate state left) fun v j before _ => ?_
    refine .bind (safe_evaluate before.faithful right) fun w k before _ => ?_
    refine .bind (Q := Value.Faithful) (.check before.faithful fun _ result =>
      (Value.plain_binary result).faithful)
      fun u l before value => ?_
    exact .pure before.faithful value
  | logical left right =>
    refine .bind (safe_evaluate state left) fun v j before value => ?_
    split
    · exact .pure before.faithful value
    · exact .pure before.faithful right
  | reference =>
    exact .bind (safe_lookUp state _) fun v j before value => .pure before.faithful value
  | assign ordinary inner =>
    refine .bind (safe_evaluate state inner) fun v j before value => ?_
    refine .bind (safe_assign before.faithful ordinary value) fun _ k before' _ => ?_
    exact .pure before'.faithful (value.mono before'.later)
  | call callee arguments =>
    refine .bind (safe_evaluate state callee) fun v j before value => ?_
    refine .bind (safe_arguments before.faithful arguments) fun vs k before' values => ?_
    exact .pure before'.faithful ⟨value.mono before'.later, values⟩
  | get object =>
    refine .bind (safe_evaluate state object) fun v j before value => ?_
    exact .bind (safe_readProperty before.faithful value) fun w k before value =>
      .pure before.faithful value
  | set object value =>
    refine .bind (safe_evaluate state object) fun v j before isObject => ?_
    split
    · refine .bind (safe_evaluate before.faithful value) fun w k before value => ?_
      refine .bind (Q := fun _ _ => True)
        (.modifyGet (before.faithful.setField value) trivial) fun _ l before' _ => ?_
      exact .pure before'.faithful (value.mono before'.later)
    · exact .fail before.faithful _ _
  | this =>
    exact .bind (safe_lookUp state _) fun v j before value => .pure before.faithful value
  | super =>
    exact .bind (safe_readSuper state _ _) fun v j before value => .pure before.faithful value

/-! ### Statements -/

theorem safe_checkOutput (state : i.Faithful) (failure : Option String) (line : Nat) :
    Safe i (fun _ _ => True) (checkOutput failure line) := by
  cases failure with
  | none => exact .pure state trivial
  | some reason => exact .fail state _ _

theorem safe_print (state : i.Faithful) (value : Value) (line : Nat) :
    Safe i (fun _ _ => True) (print value line) :=
  .bind (Q := fun _ _ => True) (.modifyGet (state.before state.heap (.refl _) rfl) trivial)
    fun failure _ before _ => safe_checkOutput before.faithful failure line

theorem safe_superclassOf (state : i.Faithful) {superclass : Occurrence}
    (ordinary : Ordinary superclass.name.lexeme) :
    Safe i (fun heap c => c.Faithful heap) (superclassOf superclass) := by
  refine .bind (safe_evaluate state (.reference ordinary)) fun v j before isClass => ?_
  split
  · exact .pure before.faithful isClass
  · exact .fail before.faithful _ _

theorem safe_defineClass (state : i.Faithful) {name : Token} {superclass : Option Occurrence}
    {methods : List FunctionDecl} (ordinary : Ordinary name.lexeme)
    (above : ∀ o, superclass = some o → Ordinary o.name.lexeme) (formed : ∀ d ∈ methods, d.Formed) :
    Safe i (fun _ _ => True) (defineClass name superclass methods) := by
  have inherited : Safe i (fun heap c? => ∀ c, c? = some c → c.Faithful heap)
      (superclass.mapM superclassOf) := by
    cases superclass with
    | none => exact .pure state nofun
    | some o =>
      refine .bind (safe_superclassOf state (above o rfl)) fun c j before isClass => ?_
      refine .pure before.faithful ?_
      rintro _ ⟨⟩
      exact isClass
  refine .bind inherited fun c? j before isClass => ?_
  refine .bind (safe_define before.faithful ordinary trivial) fun _ k before' _ => ?_
  -- the methods live in a frame that exists
  have rest (l : Interpreter) (frame : FrameId) (later : k.Before l)
      (exists_ : frame < l.heap.frames.size) : Safe l (fun _ _ => True)
      (do
        let identity ← modifyGet Interpreter.newIdentity
        define name (.classObject ⟨identity, name.lexeme, c?, methodTable methods frame⟩)) := by
    refine .bind (Q := fun _ _ => True) (.modifyGet later.faithful.newIdentity trivial)
      fun identity m before'' _ => safe_define before''.faithful ordinary ?_
    refine Class.faithful_mk (fun c isSuperclass => ?_) fun x method found => ?_
    · exact (((isClass c isSuperclass).mono before'.later).mono later.later).mono before''.later
    · obtain ⟨d, mem, isName, rfl⟩ := exists_of_methodTable found
      exact ⟨isName, Nat.lt_of_lt_of_le exists_ before''.later.frames, formed d mem, rfl⟩
  cases c? with
  | none =>
    refine .get ?_
    exact rest k k.frame before'.faithful.refl before'.faithful.frame
  | some c =>
    have value : (Value.classObject c).Faithful k.heap := (isClass c rfl).mono before'.later
    obtain ⟨later, exists_, -⟩ := before'.faithful.newFrame (f := k.frame)
      (b := (∅ : Bindings).insert "super" (.classObject c)) (fun x v found => by
        obtain ⟨-, rfl⟩ := Bindings.of_getElem?_single found
        exact value) (Bindings.getElem?_single.trans (if_neg (by decide)))
    exact .bind (Q := fun heap f => f < heap.frames.size) (.modifyGet later exists_)
      fun frame l later exists_ => rest l frame later exists_

/-- The treatment of a statement. -/
theorem safe_executeStep {s : Stmt} (state : i.Faithful) (formed : s.Formed) :
    Safe i (fun heap => Continues heap) (executeStep s) := by
  cases formed with
  | block body =>
    obtain ⟨before, exists_, plain⟩ := state.newFrame (f := i.frame) (b := ∅)
      (fun x v found => by
        rw [Std.TreeMap.getElem?_emptyc] at found
        cases found) Std.TreeMap.getElem?_emptyc
    refine .bind (Q := fun heap f => f < heap.frames.size ∧ heap.receiver? f = none)
      (.modifyGet before ⟨exists_, plain⟩) fun f j before ⟨exists_, plain⟩ => ?_
    refine .bind (safe_within before.faithful exists_ plain fun k state =>
      safe_executeAll state body) fun flow k before isFlow => ?_
    exact .pure before.faithful isFlow
  | classDecl ordinary above methods =>
    exact .bind (safe_defineClass state ordinary above methods) fun _ j before _ =>
      .pure before.faithful trivial
  | expression value =>
    exact .bind (safe_evaluate state value) fun v j before _ => .pure before.faithful trivial
  | @functionDecl d formed =>
    refine .get ?_
    have closure : (⟨d, i.frame, false⟩ : Closure).Faithful i.heap := by
      refine ⟨state.frame, formed, ?_⟩
      rw [state.plain]
      rfl
    refine .bind (Q := Value.Faithful) (.modifyGet state.newIdentity
      (Closure.Faithful.mono closure Heap.later_newIdentity)) fun v j before value => ?_
    obtain ⟨named, -, -⟩ := formed
    exact .bind (safe_define before.faithful named value) fun _ k before _ =>
      .pure before.faithful trivial
  | conditional condition _ thenBranch _ elseBranch =>
    refine .bind (safe_evaluate state condition) fun v j before _ => ?_
    split
    · exact .pure before.faithful thenBranch
    · split
      · exact .pure before.faithful (elseBranch _ rfl)
      · exact .pure before.faithful trivial
  | print value =>
    refine .bind (safe_evaluate state value) fun v j before _ => ?_
    exact .bind (safe_print before.faithful v _) fun _ k before _ => .pure before.faithful trivial
  | @ret _ value? value =>
    cases value? with
    | none => exact .pure state trivial
    | some e =>
      exact .bind (safe_evaluate state (value e rfl)) fun v j before isValue =>
        .pure before.faithful isValue
  | @varDecl name initializer ordinary value =>
    have rest {j : Interpreter} {v : Value} (before : i.Before j) (isValue : v.Faithful j.heap) :
        Safe j (fun heap => Continues heap)
          (define name v >>= fun _ => finish (p := .flow) .normal) :=
      .bind (safe_define before.faithful ordinary isValue) fun _ k before _ =>
        .pure before.faithful trivial
    cases initializer with
    | none => exact rest state.refl trivial
    | some e => exact .bind (safe_evaluate state (value e rfl)) fun v j before => rest before
  | loop condition plain body =>
    refine .bind (safe_evaluate state condition) fun v j before _ => ?_
    split
    · refine .bind (safe_execute before.faithful body) fun flow k before' isFlow => ?_
      cases flow with
      | normal => exact .pure before'.faithful (.loop condition plain body)
      | returned value => exact .pure before'.faithful isFlow
    · exact .pure before.faithful trivial

/-! ### All requests -/

/-- The treatments of requests keep to the contract, with heaps that are later and later. -/
theorem grown : receivers.Grown LaterHeap body := by
  refine Contract.grown_of_grows fun p request s ⟨state, faithful⟩ => ?_
  -- only calls promise more than a faithful result, and they are not handed over
  suffices Safe s (fun heap ending => Continues heap ending ∧
      match ending with
      | .finished result => request.Honours s.heap result
      | .handOver _ => ∀ result, request.Honours s.heap result) (step p request) by
    refine Routine.Grows.mono this ?_
    rintro ⟨outcome, t⟩ ⟨before, result⟩
    rcases outcome with e | result' | next
    · exact ⟨before, nofun⟩
    · obtain ⟨continues, honours⟩ := result _ rfl
      exact ⟨before, fun a isResult => by cases isResult; exact ⟨continues, honours⟩⟩
    · obtain ⟨continues, honours⟩ := result _ rfl
      refine ⟨⟨before.faithful, continues⟩, trivial, fun a ⟨before', promised⟩ => ?_⟩
      exact ⟨before.trans before', fun b isResult => ⟨(promised b isResult).1, honours b⟩⟩
  cases request with
  | evaluate e =>
    refine (safe_evaluateStep state faithful).mono fun heap ending continues => ⟨continues, ?_⟩
    cases ending <;> simp [Request.Honours]
  | execute stmt =>
    refine (safe_executeStep state faithful).mono fun heap ending continues => ⟨continues, ?_⟩
    cases ending <;> simp [Request.Honours]
  | call callee arguments line =>
    exact .bind (safe_callValue state faithful.1 faithful.2) fun v j before result =>
      .pure before.faithful result

theorem receivers_honoured : receivers.Honoured body :=
  grown.honoured fun _ _ => trivial

/-- Programs keep to the contract. -/
theorem safe_interpret {program : List Stmt} (state : i.Faithful)
    (formed : ∀ s ∈ program, s.Formed) : Safe i (fun _ _ => True) (interpret program) := by
  refine .bind (safe_executeAll state formed) fun flow j before _ => ?_
  cases flow with
  | returned value => exact .fail before.faithful _ _
  | normal =>
    have later : j.Before j.flush.2 :=
      before.faithful.before before.faithful.heap (.refl _) rfl
    exact .bind (Q := fun _ _ => True) (.modifyGet later trivial)
      fun failure _ before _ => safe_checkOutput before.faithful failure 0

/-! ### Runs -/

/-- A computation that keeps to the contract and comes to its end. -/
theorem Safe.over {job : Eval α} {outcome : Except Fault α} (h : Safe i Q job)
    (ended : Ends job i outcome j) : Over i Q (outcome, j) := by
  have keeps : Routine.Keeps receivers (fun _ => True) (Over i Q) (job i) :=
    Routine.Grows.keeps h fun _ => trivial
  obtain ⟨n, result⟩ := ends_iff.1 ended
  exact receivers_honoured.result keeps (Routine.Rest.of_denote result)

section

variable {callee : Value} {arguments : List Value} {line : Nat} {v : Value}

/-- A call that yields a value has done so with one more call in progress. -/
theorem exists_ends_perform
    (answered : Routine.Answers body ((.call callee arguments line, i) : Goal .value) (.ok v, j)) :
    ∃ k, Ends (perform callee arguments line) { i with depth := i.depth + 1 } (.ok v) k := by
  have isStep : step .value (.call callee arguments line) =
      (callValue callee arguments line >>= fun v => finish v) := rfl
  have ended : Ends (callValue callee arguments line) i (.ok v) j := by
    rcases ends_ask_iff.1 (ends_ask_iff_answers.2 answered) with
      ⟨e, isError, -⟩ | ⟨a, isResult, treated⟩ | ⟨r, k, treated, -⟩
    · cases isError
    · cases isResult
      rw [isStep] at treated
      rcases ends_bind_iff.1 treated with ⟨e, isError, -⟩ | ⟨w, k, called, finished⟩
      · cases isError
      · obtain ⟨isResult, rfl⟩ := ends_pure_iff.1 finished
        cases isResult
        exact called
    · rw [isStep] at treated
      rcases ends_bind_iff.1 treated with ⟨e, isError, -⟩ | ⟨w, k, called, finished⟩
      · cases isError
      · cases (ends_pure_iff.1 finished).1
  unfold callValue at ended
  split at ended
  · cases (ends_throw_iff.1 ended).1
  · split at ended
    · cases (ends_throw_iff.1 ended).1
    · change Ends (if maxDepth ≤ i.depth then _ else _) i _ _ at ended
      split at ended
      · cases (ends_throw_iff.1 ended).1
      · change Ends (Job.always (perform callee arguments line) fun k =>
          { k with depth := k.depth - 1 })
          { i with depth := i.depth + 1 } (.ok v) j at ended
        obtain ⟨n, result⟩ := ends_iff.1 ended
        rw [Job.meaning_always] at result
        obtain ⟨⟨outcome, k⟩, performed, isOutcome⟩ := Option.map_eq_some_iff.1 result
        cases isOutcome
        exact ⟨k, ends_iff.2 ⟨n, performed⟩⟩

/-- A call of a class calls the initializer, if there is one, bound to the new instance. The call of
the initializer yields that instance. -/
theorem exists_ends_initializer {c : Class} {m : Closure} (state : i.Faithful)
    (isClass : c.Faithful i.heap) (values : ∀ v ∈ arguments, v.Faithful i.heap)
    (found : c.findMethod? "init" = some m)
    (answered : Routine.Answers body ((.call (.classObject c) arguments line, i) : Goal .value)
      (.ok v, j)) :
    let new := { i with depth := i.depth + 1 }.newInstance c
    let bound := new.2.bindClosure m new.1
    ∃ k, Ends (callClosure bound.1 arguments) bound.2 (.ok new.1) k := by
  intro new bound
  obtain ⟨k, ended⟩ := exists_ends_perform answered
  have ended : Ends (instantiate c arguments) { i with depth := i.depth + 1 } (.ok v) k := ended
  unfold Ends Job.run at ended
  rw [instantiate_eq found] at ended
  rcases ends_bind_iff.1 ended with ⟨e, isError, -⟩ | ⟨w, l, called, -⟩
  · cases isError
  obtain ⟨before, value⟩ := (state.atDepth (i.depth + 1)).faithful.newInstance isClass
  have kept := isClass.mono before.later "init" m found
  obtain ⟨before', closure, isReceiver⟩ := before.faithful.bindClosure kept value
  have faithful (v : Value) (mem : v ∈ arguments) : v.Faithful bound.2.heap :=
    ((values v mem).mono before.later).mono before'.later
  obtain ⟨-, result⟩ := (safe_callClosure before'.faithful closure faithful).over called
  obtain rfl := (result w rfl).2 _ isReceiver kept.named
  exact ⟨l, called⟩

end

end Evaluation

end Lox
