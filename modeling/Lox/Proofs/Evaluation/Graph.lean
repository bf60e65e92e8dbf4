import Lox.Proofs.Evaluation.Confined
import Lox.Proofs.Heap.Graph
import Lox.Proofs.Routine.Onward

/-!
# Running code keeps the heap rooted

The evaluation of an expression, the execution of a statement and a call keep to a contract: they
keep the heap rooted, they yield values that exist, and from each moment to every later one the heap
only grows. This does not depend on what the code is, nor on what the table says about the scopes of
its names.

## Main definitions

* `Interpreter.Rooted`, `Interpreter.Ahead`: states in which code may run, and states after them.
* `rooting`: the contract.
* `Leads`: a computation keeps to the contract, and the heap only grows.

## Main results

* `rooting_grown`: the treatments of all requests keep to the contract.
* `leads_interpret`: so do programs.
* `arrived_of_leads`: what keeps to the contract ends in a later state.
-/

namespace Lox

/-! ### States -/

namespace Interpreter

/-- A state in which code may run: its heap is rooted, and its frame exists. -/
structure Rooted (i : Interpreter) : Prop where
  heap : i.heap.Rooted
  frame : i.frame < i.heap.frames.size

/-- A state after another one, while code runs in one frame. -/
structure Ahead (i j : Interpreter) : Prop where
  rooted : j.Rooted
  grown : i.heap.Grown j.heap
  frame : j.frame = i.frame

/-- The heap of a state has grown into that of another one. -/
def GrownHeap (i j : Interpreter) : Prop :=
  i.heap.Grown j.heap

instance : IsPreorder Interpreter GrownHeap where
  refl i := .refl i.heap
  trans _ _ _ h h' := Heap.Grown.trans h h'

instance : IsTrans Interpreter Ahead where
  trans _ _ _ h h' := ⟨h'.rooted, h.grown.trans h'.grown, h'.frame.trans h.frame⟩

/-- The frame in which an assignment takes effect exists. -/
theorem lt_size_of_target {i : Interpreter} {o : Occurrence} {f : FrameId}
    (found : i.target o = .ok f) : f < i.heap.frames.size := by
  unfold target at found
  split at found
  · exact Heap.lt_size_of_targetAt found
  · exact Heap.lt_size_of_target found

namespace Rooted

variable {i j : Interpreter} {f : FrameId} {x : String} {v : Value} {b : Bindings}

variable (h : i.Rooted)

include h

theorem ahead (heap : j.heap.Rooted) (grown : i.heap.Grown j.heap) (frame : j.frame = i.frame) :
    i.Ahead j :=
  ⟨⟨heap, frame ▸ Nat.lt_of_lt_of_le h.frame grown.frames⟩, grown, frame⟩

/-- A state with the same heap and the same frame. -/
theorem unchanged (heap : j.heap = i.heap) (frame : j.frame = i.frame) : i.Ahead j :=
  h.ahead (heap ▸ h.heap) (heap ▸ .refl i.heap) frame

theorem refl : i.Ahead i :=
  h.unchanged rfl rfl

theorem define (exists_ : f < i.heap.frames.size) (value : v.Present i.heap) :
    i.Ahead (i.define f x v) :=
  h.ahead (h.heap.define exists_ value) (Heap.grown_define exists_) rfl

theorem newFrame (exists_ : f < i.heap.frames.size)
    (bindings : ∀ (x : String) (v : Value), b[x]? = some v → v.Present i.heap) :
    i.Ahead (i.newFrame f b).2 ∧ (i.newFrame f b).1 < (i.newFrame f b).2.heap.frames.size := by
  refine ⟨h.ahead (h.heap.newFrame exists_ bindings) Heap.grown_newFrame rfl, ?_⟩
  rw [size_newFrame]
  exact Nat.lt_succ_self _

theorem newIdentity : i.Ahead i.newIdentity.2 :=
  h.ahead h.heap.newIdentity Heap.grown_newIdentity rfl

theorem newInstance {c : Class} (isClass : c.Present i.heap) :
    i.Ahead (i.newInstance c).2 ∧ (i.newInstance c).1.Present (i.newInstance c).2.heap := by
  refine ⟨h.ahead h.heap.newInstance Heap.grown_newInstance rfl, ?_,
    isClass.mono Heap.grown_newInstance⟩
  change i.heap.fields.size < (i.heap.fields.push ∅).size
  rw [Array.size_push]
  exact Nat.lt_succ_self _

theorem setField {a : Nat} (value : v.Present i.heap) : i.Ahead (i.setField a x v) :=
  h.ahead (h.heap.setField value) Heap.grown_setField rfl

theorem newFunction {c : Closure} (closure : c.Present i.heap) :
    i.Ahead (i.newFunction c).2 ∧ (i.newFunction c).1.Present (i.newFunction c).2.heap :=
  ⟨h.newIdentity, Nat.lt_succ_self _, closure.mono Heap.grown_newIdentity⟩

theorem bindClosure {m : Closure} (method : m.Present i.heap) (value : v.Present i.heap) :
    i.Ahead (i.bindClosure m v).2 ∧ (i.bindClosure m v).1.Present (i.bindClosure m v).2.heap :=
  h.newFrame method fun x w isValue => by
    obtain ⟨-, rfl⟩ := Bindings.of_getElem?_single isValue
    exact value

theorem bindMethod {m : Closure} (method : m.Present i.heap) (value : v.Present i.heap) :
    i.Ahead (i.bindMethod m v).2 ∧ (i.bindMethod m v).1.Present (i.bindMethod m v).2.heap := by
  obtain ⟨ahead, closure⟩ := h.bindClosure method value
  obtain ⟨ahead', present⟩ := ahead.rooted.newFunction closure
  exact ⟨trans_of Ahead ahead ahead', present⟩

/-- The property of an instance. -/
theorem property {a : Nat} {c : Class} (receiver : (Value.instance_ a c).Present i.heap)
    (name : Token) :
    i.Ahead (i.property a c name).2 ∧
      ∀ v, (i.property a c name).1 = .ok v → v.Present (i.property a c name).2.heap := by
  unfold Interpreter.property
  split
  · next isField =>
    exact ⟨h.refl, fun v isValue => by cases isValue; exact h.heap.field a name.lexeme _ isField⟩
  · split
    · next isMethod =>
      obtain ⟨ahead, value⟩ := h.bindMethod (receiver.2.findMethod? isMethod) receiver
      exact ⟨ahead, fun v isValue => by cases isValue; exact value⟩
    · exact ⟨h.refl, nofun⟩

/-- What an occurrence of a name has for a value exists. -/
theorem lookUp {o : Occurrence} (found : i.lookUp o = .ok v) : v.Present i.heap := by
  unfold Interpreter.lookUp at found
  split at found
  · exact h.heap.getAt found
  · exact h.heap.get found

end Rooted

end Interpreter

/-- The value with which a statement returns exists. -/
def Flow.Present (heap : Heap) : Flow → Prop
  | .normal => True
  | .returned value => value.Present heap

namespace Evaluation

open Interpreter

/-! ### The contract -/

/-- Results of requests exist. -/
def Phase.Present (heap : Heap) : (p : Phase) → p.Result → Prop
  | .value => Value.Present heap
  | .flow => Flow.Present heap

/-- What is called, and the arguments, exist. -/
def Request.Present (heap : Heap) : {p : Phase} → Request p → Prop
  | _, .call callee arguments _ => callee.Present heap ∧ ∀ v ∈ arguments, v.Present heap
  | _, _ => True

/-- The treatment of a request ends with a result or a request that refers to what exists. -/
def Proceeds {p : Phase} (i : Interpreter) : Step p → Prop
  | .finished result => p.Present i.heap result
  | .handOver request => request.Present i.heap

/-- Goals in rooted states have answers in rooted states, and what they yield exists. -/
def rooting : Contract Goal Answer where
  Pre goal := goal.2.Rooted ∧ goal.1.Present goal.2.heap
  Post {p} goal := Job.Arrived Ahead goal.2 fun i result => p.Present i.heap result
  Next _ _ := True

/-- A computation that begins in a state keeps to the contract, the heap only grows, and the result
has a property. -/
abbrev Leads {α : Type} (i : Interpreter) (Q : Interpreter → α → Prop) (job : Eval α) : Prop :=
  Job.Onward rooting GrownHeap Ahead i Q job

variable {α : Type} {i j : Interpreter} {Q : Interpreter → α → Prop} {p : Phase} {callee : Value}
  {arguments : List Value} {line : Nat}

/-! ### Computations -/

theorem leads_modifyGet {f : Interpreter → α × Interpreter} (ahead : i.Ahead (f i).2)
    (result : Q (f i).2 (f i).1) : Leads i Q (modifyGet f) :=
  .modifyGet ahead.grown ahead result

theorem leads_modify {f : Interpreter → Interpreter} (ahead : i.Ahead (f i)) :
    Leads i (fun _ _ => True) (modify f) :=
  .modifyGet ahead.grown ahead trivial

theorem leads_check {r : Except Fault α} (state : i.Rooted) (h : ∀ a, r = .ok a → Q i a) :
    Leads i Q (check r) := by
  cases r with
  | error e => exact .throw state.refl
  | ok a => exact .pure state.refl (h a rfl)

theorem leads_fail (state : i.Rooted) (cause : Fault.Cause) (line : Nat) :
    Leads i Q (fail cause line : Eval α) :=
  .throw state.refl

theorem leads_ask {r : Request p} (state : i.Rooted) (request : r.Present i.heap) :
    Leads i (fun j result => p.Present j.heap result) (Job.ask r) := by
  have pre : rooting.Pre (r, i) := ⟨state, request⟩
  exact .ask pre fun _ promised => promised

theorem leads_evaluate (state : i.Rooted) (e : Expr) :
    Leads i (fun j v => v.Present j.heap) (evaluate e) :=
  leads_ask (r := .evaluate e) state trivial

theorem leads_execute (state : i.Rooted) (s : Stmt) :
    Leads i (fun j flow => flow.Present j.heap) (execute s) :=
  leads_ask (r := .execute s) state trivial

/-- A computation in another frame that exists. -/
theorem leads_within {f : FrameId} {P : Heap → α → Prop} {job : Eval α} (state : i.Rooted)
    (exists_ : f < i.heap.frames.size)
    (h : ∀ j : Interpreter, j.Rooted → Leads j (fun k a => P k.heap a) job) :
    Leads i (fun k a => P k.heap a) (within f job) := by
  change Routine.Grows rooting GrownHeap Prod.snd (Job.Arrived Ahead i fun k a => P k.heap a) i
    (Job.always job (fun k => { k with frame := i.frame }) { i with frame := f })
  refine Job.onward_always (.refl _) (h _ ⟨state.heap, exists_⟩) fun k ahead => ⟨.refl _, ?_, ?_⟩
  · exact state.ahead ahead.rooted.heap ahead.grown rfl
  · exact fun _ result => result

/-- Statements in sequence. -/
theorem leads_executeAll (state : i.Rooted) (ss : List Stmt) :
    Leads i (fun j flow => flow.Present j.heap) (executeAll ss) := by
  induction ss generalizing i with
  | nil => exact .pure state.refl trivial
  | cons s ss ih =>
    refine .bind (leads_execute state s) fun flow j ahead isFlow => ?_
    cases flow with
    | normal => exact ih ahead.rooted
    | returned value => exact .pure ahead.rooted.refl isFlow

/-! ### Names -/

theorem leads_lookUp (state : i.Rooted) (o : Occurrence) :
    Leads i (fun j v => v.Present j.heap) (lookUp o) :=
  .get (leads_check state fun _ found => state.lookUp found)

theorem leads_define (state : i.Rooted) (name : Token) {v : Value} (value : v.Present i.heap) :
    Leads i (fun _ _ => True) (define name v) :=
  leads_modify (state.define state.frame value)

theorem leads_assign (state : i.Rooted) (o : Occurrence) {v : Value} (value : v.Present i.heap) :
    Leads i (fun _ _ => True) (assign o v) := by
  refine .get (.bind (Q := fun j f => f < j.heap.frames.size)
    (leads_check state fun f found => lt_size_of_target found) fun f j ahead exists_ => ?_)
  exact leads_modify (ahead.rooted.define exists_ (value.mono ahead.grown))

/-! ### Calls -/

/-- A call of a function runs in a frame inside that of the function. -/
theorem leads_callClosure {c : Closure} (state : i.Rooted) (closure : c.Present i.heap)
    (values : ∀ v ∈ arguments, v.Present i.heap) :
    Leads i (fun j v => v.Present j.heap) (callClosure c arguments) := by
  have none_ (x : String) (v : Value) (found : (∅ : Bindings)[x]? = some v) :
      v.Present i.heap := by
    rw [Std.TreeMap.getElem?_emptyc] at found
    cases found
  refine .bind (Q := fun j f => f < j.heap.frames.size) (And.elim leads_modifyGet <|
    state.newFrame closure <| forall_parameters (P := fun _ v => v.Present i.heap)
      (fun _ _ v mem => values v mem) none_) fun f j ahead exists_ => ?_
  refine .bind (leads_within (P := fun heap flow => flow.Present heap) ahead.rooted exists_
    fun k state => leads_executeAll state _) fun flow k ahead isFlow => ?_
  split
  · exact .get (leads_check ahead.rooted fun v found => ahead.rooted.heap.getAt found)
  · cases flow with
    | normal => exact .pure ahead.rooted.refl trivial
    | returned value => exact .pure ahead.rooted.refl isFlow

/-- A call of a class makes an instance of it. -/
theorem leads_instantiate {c : Class} (state : i.Rooted) (isClass : c.Present i.heap)
    (values : ∀ v ∈ arguments, v.Present i.heap) :
    Leads i (fun j v => v.Present j.heap) (instantiate c arguments) := by
  obtain ⟨ahead, value⟩ := state.newInstance isClass
  refine .bind (Q := fun j v => v.Present j.heap) (leads_modifyGet ahead value)
    fun v j ahead value => ?_
  split
  · next m isMethod =>
    have method := (isClass.mono ahead.grown).findMethod? isMethod
    obtain ⟨ahead', closure⟩ := ahead.rooted.bindClosure method value
    refine .bind (Q := fun k c => Closure.Present k.heap c ∧ ∀ v ∈ arguments, v.Present k.heap)
      (leads_modifyGet ahead' ⟨closure, fun v mem =>
        ((values v mem).mono ahead.grown).mono ahead'.grown⟩) fun bound k ahead' promised => ?_
    obtain ⟨closure, values⟩ := promised
    refine .bind (leads_callClosure ahead'.rooted closure values) fun _ l ahead'' _ => ?_
    exact .pure ahead''.rooted.refl ((value.mono ahead'.grown).mono ahead''.grown)
  · exact .pure ahead.rooted.refl value

theorem leads_perform (state : i.Rooted) (value : callee.Present i.heap)
    (values : ∀ v ∈ arguments, v.Present i.heap) :
    Leads i (fun j v => v.Present j.heap) (perform callee arguments line) := by
  cases callee with
  | clock =>
    have isNumber (v : Value) (isValue : (i.readClock line).1 = .ok v) : v.Present i.heap := by
      obtain ⟨seconds, rfl⟩ := Interpreter.exists_of_readClock isValue
      trivial
    exact .bind (Q := fun j r => ∀ v, r = .ok v → v.Present j.heap)
      (leads_modifyGet (state.unchanged rfl rfl) isNumber)
      fun r j ahead result => leads_check ahead.rooted result
  | function identity c => exact leads_callClosure state value.2 values
  | classObject c => exact leads_instantiate state value values
  | _ => exact leads_fail state _ _

theorem leads_callValue (state : i.Rooted) (value : callee.Present i.heap)
    (values : ∀ v ∈ arguments, v.Present i.heap) :
    Leads i (fun j v => v.Present j.heap) (callValue callee arguments line) := by
  unfold callValue
  split
  · exact leads_fail state _ _
  · split
    · exact leads_fail state _ _
    · refine .get ?_
      split
      · exact leads_fail state _ _
      · change Routine.Grows rooting GrownHeap Prod.snd (Job.Arrived Ahead i _) i
          (Job.always (perform callee arguments line) (fun k => { k with depth := k.depth - 1 })
            { i with depth := i.depth + 1 })
        have deeper : i.Ahead { i with depth := i.depth + 1 } := state.unchanged rfl rfl
        refine Job.onward_always (.refl _) (leads_perform deeper.rooted value values)
          fun k ahead => ⟨.refl _, ?_, fun _ result => result⟩
        exact state.ahead ahead.rooted.heap ahead.grown ahead.frame

/-! ### Expressions -/

theorem leads_readProperty {object : Value} (state : i.Rooted) (value : object.Present i.heap)
    (property : Token) : Leads i (fun j v => v.Present j.heap) (readProperty object property) := by
  cases object with
  | instance_ address c =>
    obtain ⟨ahead, result⟩ := state.property value property
    exact .bind (Q := fun j r => ∀ v, r = .ok v → v.Present j.heap) (leads_modifyGet ahead result)
      fun r j ahead result => leads_check ahead.rooted result
  | _ => exact leads_fail state _ _

theorem leads_readSuper (state : i.Rooted) (keyword : Occurrence) (method : Token) :
    Leads i (fun j v => v.Present j.heap) (readSuper keyword method) := by
  refine .get ?_
  have getAt {distance : Nat} {x : String} {j : Interpreter} (ahead : i.Ahead j) :
      Leads j (fun k v => v.Present k.heap)
        (check (i.heap.getAt i.frame distance x keyword.name.line)) :=
    leads_check ahead.rooted fun v found => (state.heap.getAt found).mono ahead.grown
  split
  · exact leads_fail state _ _
  · refine .bind (getAt state.refl) fun v j ahead isClass => ?_
    split
    · refine .bind (getAt ahead) fun w k ahead' isInstance => ?_
      split
      · split
        · next found =>
          have method := (isClass.mono ahead'.grown).findMethod? found
          obtain ⟨ahead, value⟩ := ahead'.rooted.bindMethod method isInstance
          exact leads_modifyGet ahead value
        · exact leads_fail ahead'.rooted _ _
      · exact leads_fail ahead'.rooted _ _
    · exact leads_fail ahead.rooted _ _

/-- The arguments of a call. -/
theorem leads_arguments (state : i.Rooted) (es : List Expr) :
    Leads i (fun j vs => ∀ v ∈ vs, v.Present j.heap) (es.mapM evaluate) := by
  induction es generalizing i with
  | nil => exact .pure state.refl nofun
  | cons e es ih =>
    rw [List.mapM_cons]
    refine .bind (leads_evaluate state e) fun v j ahead value => ?_
    refine .bind (ih ahead.rooted) fun vs k ahead' values => ?_
    exact .pure ahead'.rooted.refl (List.forall_mem_cons.2 ⟨value.mono ahead'.grown, values⟩)

/-- The treatment of an expression. -/
theorem leads_evaluateStep (state : i.Rooted) (e : Expr) : Leads i Proceeds (evaluateStep e) := by
  cases e with
  | literal value => exact .pure state.refl (Value.plain_ofLiteral value).present
  | grouping inner => exact .pure state.refl trivial
  | unary operator right =>
    refine .bind (leads_evaluate state right) fun v j ahead _ => ?_
    refine .bind (Q := fun k v => v.Present k.heap) (leads_check ahead.rooted fun _ result =>
      (Value.plain_unary result).present) fun w k ahead value => ?_
    exact .pure ahead.rooted.refl value
  | binary left operator right =>
    refine .bind (leads_evaluate state left) fun v j ahead _ => ?_
    refine .bind (leads_evaluate ahead.rooted right) fun w k ahead _ => ?_
    refine .bind (Q := fun k v => v.Present k.heap) (leads_check ahead.rooted fun _ result =>
      (Value.plain_binary result).present) fun u l ahead value => ?_
    exact .pure ahead.rooted.refl value
  | logical left operator right =>
    refine .bind (leads_evaluate state left) fun v j ahead value => ?_
    split
    · exact .pure ahead.rooted.refl value
    · exact .pure ahead.rooted.refl trivial
  | reference name =>
    exact .bind (leads_lookUp state name) fun v j ahead value => .pure ahead.rooted.refl value
  | assign name value =>
    refine .bind (leads_evaluate state value) fun v j ahead value => ?_
    refine .bind (leads_assign ahead.rooted name value) fun _ k ahead' _ => ?_
    exact .pure ahead'.rooted.refl (value.mono ahead'.grown)
  | call callee paren arguments =>
    refine .bind (leads_evaluate state callee) fun v j ahead value => ?_
    refine .bind (leads_arguments ahead.rooted arguments) fun vs k ahead' values => ?_
    exact .pure ahead'.rooted.refl ⟨value.mono ahead'.grown, values⟩
  | get object property =>
    refine .bind (leads_evaluate state object) fun v j ahead value => ?_
    exact .bind (leads_readProperty ahead.rooted value property) fun w k ahead value =>
      .pure ahead.rooted.refl value
  | set object property value =>
    refine .bind (leads_evaluate state object) fun v j ahead isObject => ?_
    split
    · refine .bind (leads_evaluate ahead.rooted value) fun w k ahead value => ?_
      refine .bind (leads_modify (ahead.rooted.setField value)) fun _ l ahead' _ => ?_
      exact .pure ahead'.rooted.refl (value.mono ahead'.grown)
    · exact leads_fail ahead.rooted _ _
  | this keyword =>
    exact .bind (leads_lookUp state keyword) fun v j ahead value => .pure ahead.rooted.refl value
  | super keyword method =>
    exact .bind (leads_readSuper state keyword method) fun v j ahead value =>
      .pure ahead.rooted.refl value

/-! ### Statements -/

theorem leads_checkOutput (state : i.Rooted) (failure : Option String) (line : Nat) :
    Leads i (fun _ _ => True) (checkOutput failure line) := by
  cases failure with
  | none => exact .pure state.refl trivial
  | some reason => exact leads_fail state _ _

theorem leads_print (state : i.Rooted) (value : Value) (line : Nat) :
    Leads i (fun _ _ => True) (print value line) :=
  .bind (Q := fun _ _ => True) (leads_modifyGet (state.unchanged rfl rfl) trivial)
    fun failure _ ahead _ => leads_checkOutput ahead.rooted failure line

theorem leads_superclassOf (state : i.Rooted) (superclass : Occurrence) :
    Leads i (fun j c => Class.Present j.heap c) (superclassOf superclass) := by
  refine .bind (leads_evaluate state (.reference superclass)) fun v j ahead isClass => ?_
  split
  · exact .pure ahead.rooted.refl isClass
  · exact leads_fail ahead.rooted _ _

/-- A class is younger than its superclass, which it gets before its own number. -/
theorem leads_defineClass (state : i.Rooted) (name : Token) (superclass : Option Occurrence)
    (methods : List FunctionDecl) :
    Leads i (fun _ _ => True) (defineClass name superclass methods) := by
  have inherited : Leads i (fun j c? => ∀ c, c? = some c → Class.Present j.heap c)
      (superclass.mapM superclassOf) := by
    cases superclass with
    | none => exact .pure state.refl nofun
    | some o =>
      refine .bind (leads_superclassOf state o) fun c j ahead isClass => ?_
      refine .pure ahead.rooted.refl ?_
      rintro _ ⟨⟩
      exact isClass
  refine .bind inherited fun c? j ahead isClass => ?_
  refine .bind (leads_define ahead.rooted name trivial) fun _ k ahead' _ => ?_
  have isClass (c : Class) (isSuperclass : c? = some c) : c.Present k.heap :=
    (isClass c isSuperclass).mono ahead'.grown
  -- the methods live in a frame that exists
  have rest (l : Interpreter) (frame : FrameId) (ahead : k.Ahead l)
      (exists_ : frame < l.heap.frames.size) : Leads l (fun _ _ => True)
      (do
        let identity ← modifyGet Interpreter.newIdentity
        define name (.classObject ⟨identity, name.lexeme, c?, methodTable methods frame⟩)) := by
    have above (c : Class) (isSuperclass : c? = some c) : c.Present l.heap :=
      (isClass c isSuperclass).mono ahead.grown
    refine .bind (Q := fun m identity => identity = l.heap.nextIdentity ∧
        m.heap.nextIdentity = l.heap.nextIdentity + 1)
      (leads_modifyGet ahead.rooted.newIdentity ⟨rfl, rfl⟩) fun identity m ahead' isNew => ?_
    obtain ⟨rfl, next⟩ := isNew
    refine leads_define ahead'.rooted name (Class.present_mk ?_ (fun c isSuperclass => ?_)
      fun x method found => ?_)
    · rw [next]
      exact Nat.lt_succ_self _
    · exact ⟨(above c isSuperclass).mono ahead'.grown,
        (above c isSuperclass).identity c c.mem_chain_self⟩
    · obtain ⟨d, -, -, rfl⟩ := exists_of_methodTable found
      exact Nat.lt_of_lt_of_le exists_ ahead'.grown.frames
  cases c? with
  | none => exact .get (rest k k.frame ahead'.rooted.refl ahead'.rooted.frame)
  | some c =>
    obtain ⟨ahead, exists_⟩ := ahead'.rooted.newFrame (f := k.frame)
      (b := (∅ : Bindings).insert "super" (.classObject c)) ahead'.rooted.frame fun x v found => by
        obtain ⟨-, rfl⟩ := Bindings.of_getElem?_single found
        exact isClass c rfl
    exact .bind (Q := fun l f => f < l.heap.frames.size) (leads_modifyGet ahead exists_)
      fun frame l ahead exists_ => rest l frame ahead exists_

/-- The treatment of a statement. -/
theorem leads_executeStep (state : i.Rooted) (s : Stmt) : Leads i Proceeds (executeStep s) := by
  cases s with
  | block body =>
    obtain ⟨ahead, exists_⟩ := state.newFrame (f := i.frame) (b := ∅) state.frame
      fun x v found => by
        rw [Std.TreeMap.getElem?_emptyc] at found
        cases found
    refine .bind (Q := fun j f => f < j.heap.frames.size) (leads_modifyGet ahead exists_)
      fun f j ahead exists_ => ?_
    refine .bind (leads_within (P := fun heap flow => flow.Present heap) ahead.rooted exists_
      fun k state => leads_executeAll state body) fun flow k ahead isFlow => ?_
    exact .pure ahead.rooted.refl isFlow
  | classDecl name superclass methods =>
    exact .bind (leads_defineClass state name superclass methods) fun _ j ahead _ =>
      .pure ahead.rooted.refl trivial
  | expression value =>
    exact .bind (leads_evaluate state value) fun v j ahead _ => .pure ahead.rooted.refl trivial
  | functionDecl d =>
    refine .get ?_
    obtain ⟨ahead, value⟩ := state.newFunction (c := ⟨d, i.frame, false⟩) state.frame
    refine .bind (Q := fun j v => v.Present j.heap) (leads_modifyGet ahead value)
      fun v j ahead value => ?_
    exact .bind (leads_define ahead.rooted d.name value) fun _ k ahead _ =>
      .pure ahead.rooted.refl trivial
  | conditional condition thenBranch elseBranch =>
    refine .bind (leads_evaluate state condition) fun v j ahead _ => ?_
    split
    · exact .pure ahead.rooted.refl trivial
    · split <;> exact .pure ahead.rooted.refl trivial
  | print value =>
    refine .bind (leads_evaluate state value) fun v j ahead _ => ?_
    exact .bind (leads_print ahead.rooted v _) fun _ k ahead _ => .pure ahead.rooted.refl trivial
  | ret keyword value? =>
    cases value? with
    | none => exact .pure state.refl trivial
    | some e =>
      exact .bind (leads_evaluate state e) fun v j ahead value => .pure ahead.rooted.refl value
  | varDecl name initializer =>
    have rest {j : Interpreter} {v : Value} (ahead : i.Ahead j) (value : v.Present j.heap) :
        Leads j Proceeds (define name v >>= fun _ => finish (p := .flow) .normal) :=
      .bind (leads_define ahead.rooted name value) fun _ k ahead _ =>
        .pure ahead.rooted.refl trivial
    cases initializer with
    | none => exact rest state.refl trivial
    | some e => exact .bind (leads_evaluate state e) fun v j ahead => rest ahead
  | loop condition body =>
    refine .bind (leads_evaluate state condition) fun v j ahead _ => ?_
    split
    · refine .bind (leads_execute ahead.rooted body) fun flow k ahead isFlow => ?_
      cases flow with
      | normal => exact .pure ahead.rooted.refl trivial
      | returned value => exact .pure ahead.rooted.refl isFlow
    · exact .pure ahead.rooted.refl trivial

/-! ### All requests -/

/-- The treatments of requests keep to the contract, with heaps that only grow. -/
theorem rooting_grown : rooting.Grown GrownHeap body := by
  refine Contract.grown_of_grows fun p request s ⟨state, present⟩ => ?_
  have leads : Leads s Proceeds (step p request) := by
    cases request with
    | evaluate e => exact leads_evaluateStep state e
    | execute stmt => exact leads_executeStep state stmt
    | call callee arguments line =>
      exact .bind (leads_callValue state present.1 present.2) fun v j ahead value =>
        .pure ahead.rooted.refl value
  refine Routine.Grows.mono leads ?_
  rintro ⟨outcome, t⟩ ⟨ahead, result⟩
  rcases outcome with e | result' | next
  · exact ⟨ahead, nofun⟩
  · exact ⟨ahead, fun a isResult => by cases isResult; exact result _ rfl⟩
  · refine ⟨⟨ahead.rooted, result _ rfl⟩, trivial, fun a ⟨ahead', promised⟩ => ?_⟩
    exact ⟨trans_of Ahead ahead ahead', promised⟩

theorem rooting_honoured : rooting.Honoured body :=
  rooting_grown.honoured fun _ _ => trivial

/-- Programs keep to the contract. -/
theorem leads_interpret (state : i.Rooted) (program : List Stmt) :
    Leads i (fun _ _ => True) (interpret program) := by
  refine .bind (leads_executeAll state program) fun flow j ahead _ => ?_
  cases flow with
  | returned value => exact leads_fail ahead.rooted _ _
  | normal =>
    exact .bind (Q := fun _ _ => True) (leads_modifyGet (ahead.rooted.unchanged rfl rfl) trivial)
      fun failure _ ahead _ => leads_checkOutput ahead.rooted failure 0

/-- A computation that keeps to the contract ends in a later state, and its result has the property
there. -/
theorem arrived_of_leads {job : Eval α} (h : Leads i Q job) {outcome : Except Fault α}
    (ended : Ends job i outcome j) : i.Ahead j ∧ ∀ a, outcome = .ok a → Q j a := by
  obtain ⟨n, ended⟩ := ends_iff.1 ended
  have keeps : Routine.Keeps rooting (fun _ => True) _ (job i) :=
    Routine.Grows.keeps h fun _ => trivial
  exact Contract.result_of_keeps (fun _ _ _ pre => rooting_honoured.solve pre) keeps ended

end Evaluation

end Lox
