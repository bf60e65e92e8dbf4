import Lox.Evaluation.Step
import Lox.Proofs.Heap
import Lox.Proofs.Routine.Course

/-!
# Where frames come from

Every frame but the global one is made in the treatment of some goal: a block and the body of a
function get a frame when they are executed, a class with a superclass gets one for its methods, and
a method gets one when it is bound to a receiver. This file says when the treatment of a goal
itself, and not that of a goal inside it, makes a frame, and which parts of a program the goal then
executes.

## Main definitions

* `Evaluation.Task`: a goal of the evaluation; `Evaluation.body`: the treatment of goals.
* `Evaluation.Makes`: the treatment of a goal itself makes a frame.
* `Evaluation.Binds`: the treatment of a goal binds a method to a receiver.
* `Evaluation.Executes`: a goal executes the part of a program that opens a scope.
* `Evaluation.Defines`: the treatment of a goal defines a class.
* `Evaluation.InMethod`: the frames around running code are those of a method that was bound.
-/

namespace Lox.Evaluation

/-- A request in a state. -/
abbrev Goal : Phase → Type :=
  Job.Goal Interpreter Request

/-- The outcome of a request and the state it leaves. -/
abbrev Answer : Phase → Type :=
  Job.Answer Interpreter Fault Phase.Result

/-- A goal of either sort. -/
abbrev Task : Type :=
  Routine.Task Goal

/-- A computation that ends the treatment of a goal. -/
abbrev Treatment (p : Phase) : Type :=
  Routine Goal Answer (Reply Goal Answer p)

/-- The treatment of every goal. -/
abbrev body : (p : Phase) → Goal p → Treatment p :=
  Job.body step

/-- The goal to evaluate an expression. -/
abbrev evaluating (e : Expr) (s : Interpreter) : Task :=
  ⟨.value, .evaluate e, s⟩

/-- The goal to execute a statement. -/
abbrev executing (stmt : Stmt) (s : Interpreter) : Task :=
  ⟨.flow, .execute stmt, s⟩

/-- The goal to call a value. -/
abbrev calling (callee : Value) (arguments : List Value) (line : Nat) (s : Interpreter) : Task :=
  ⟨.value, .call callee arguments line, s⟩

/-- The state in which a treatment asks for its next goal, or ends. -/
def Treatment.pause {p : Phase} : Treatment p → Interpreter
  | .call goal _ => goal.2
  | .done (.answer a) => a.2
  | .done (.become goal) => goal.2

/-- The treatment of a goal goes on in a state: at its beginning, or with the answer to a goal that
it asked for. -/
inductive Resumes (task : Task) : Interpreter → Treatment task.1 → Prop
  | start : Resumes task task.2.2 (body task.1 task.2)
  | answered {p : Phase} {goal : Goal p} {next : Answer p → Treatment task.1} {answer : Answer p}
      (before : Routine.Rest body (body task.1 task.2) (.call goal next))
      (isAnswer : Routine.Answers body goal answer) : Resumes task answer.2 (next answer)

/-- The treatment of a goal itself makes a frame: it goes on in a state without the frame, and asks
for its next goal, or ends, in a state with it. -/
def Makes (task : Task) (f : FrameId) : Prop :=
  ∃ s treatment, Resumes task s treatment ∧
    s.heap.frames.size ≤ f ∧ f < treatment.pause.heap.frames.size

/-- The treatment of a goal binds a method to a receiver. -/
inductive Binds : Task → Closure → Value → Prop
  | get {object : Expr} {property : Token} {s t : Interpreter} {address : Nat} {c : Class}
      {method : Closure}
      (isInstance : Routine.Answers body ((.evaluate object, s) : Goal .value)
        (.ok (.instance_ address c), t))
      (noField : t.heap.field? address property.lexeme = none)
      (found : c.findMethod? property.lexeme = some method) :
      Binds (evaluating (.get object property) s) method (.instance_ address c)
  | super {keyword : Occurrence} {name : Token} {s : Interpreter} {distance address : Nat}
      {c superclass : Class} {method : Closure}
      (isEntry : s.distances[keyword.id]? = some distance)
      (isClass : s.heap.getAt s.frame distance "super" keyword.name.line =
        .ok (.classObject superclass))
      (isInstance : s.heap.getAt s.frame (distance - 1) "this" keyword.name.line =
        .ok (.instance_ address c))
      (found : superclass.findMethod? name.lexeme = some method) :
      Binds (evaluating (.super keyword name) s) method (.instance_ address c)
  | init {c : Class} {arguments : List Value} {line : Nat} {s : Interpreter} {method : Closure}
      (found : c.findMethod? "init" = some method) :
      Binds (calling (.classObject c) arguments line s) method
        (.instance_ s.heap.fields.size c)

/-- A goal executes the part of a program that opens a scope, in code whose frame is given: a block
in the frame of the goal, the body of a function in the frame of its closure, and a class in the
frame of the goal, for the frame with its superclass, or in the frame of a method that is bound. The
frame for a superclass or a receiver binds it from the beginning. -/
inductive Executes : Task → Node → FrameId → Option (String × Value) → Prop
  | block {statements : List Stmt} {s : Interpreter} :
      Executes (executing (.block statements) s) (.statement (.block statements)) s.frame none
  | function {identity : Nat} {c : Closure} {arguments : List Value} {line : Nat}
      {s : Interpreter} :
      Executes (calling (.function identity c) arguments line s) (.function c.declaration) c.frame
        none
  | initializer {c : Class} {method : Closure} {arguments : List Value} {line : Nat}
      {s : Interpreter} (found : c.findMethod? "init" = some method) :
      Executes (calling (.classObject c) arguments line s) (.function method.declaration)
        s.heap.frames.size none
  | superclass {name : Token} {superclass : Occurrence} {methods : List FunctionDecl}
      {s t : Interpreter} {c : Class}
      (isClass : Routine.Answers body ((.evaluate (.reference superclass), s) : Goal .value)
        (.ok (.classObject c), t)) :
      Executes (executing (.classDecl name (some superclass) methods) s)
        (.statement (.classDecl name (some superclass) methods)) s.frame
        (some ("super", .classObject c))
  | receiver {task : Task} {method : Closure} {value : Value} {name : Token}
      {superclass : Option Occurrence} {methods : List FunctionDecl}
      (binds : Binds task method value) (declared : method.declaration ∈ methods) :
      Executes task (.statement (.classDecl name superclass methods)) method.frame
        (some ("this", value))

/-- The treatment of a goal defines a class with a superclass and a name, by a list of methods. -/
inductive Defines : Task → Option Class → String → List FunctionDecl → Prop
  | root {name : Token} {methods : List FunctionDecl} {s : Interpreter} :
      Defines (executing (.classDecl name none methods) s) none name.lexeme methods
  | derived {name : Token} {superclass : Occurrence} {methods : List FunctionDecl}
      {s t : Interpreter} {c : Class}
      (isClass : Routine.Answers body ((.evaluate (.reference superclass), s) : Goal .value)
        (.ok (.classObject c), t)) :
      Defines (executing (.classDecl name (some superclass) methods) s) (some c) name.lexeme methods

/-- Around running code, at a distance, is the frame in which a method of a class was bound to a
receiver; and around that one is the frame that was made when the class was defined, with a
superclass that its superclass expression had for a value. -/
structure InMethod (came : Task → Prop) (heap : Heap) (f : FrameId) (distance : Nat) (name : Token)
    (o : Occurrence) (methods : List FunctionDecl) (superclass : Class) (receiver : Value) :
    Prop where
  binding : ∃ (f₀ : FrameId) (task : Task) (method : Closure),
    heap.ancestor? f distance = some f₀ ∧ came task ∧ Makes task f₀ ∧ Binds task method receiver ∧
      method.declaration ∈ methods ∧ heap.ancestor? f (distance + 1) = some method.frame
  definition : ∃ (f₁ : FrameId) (s t : Interpreter), heap.ancestor? f (distance + 1) = some f₁ ∧
    came (executing (.classDecl name (some o) methods) s) ∧
      Makes (executing (.classDecl name (some o) methods) s) f₁ ∧
      Routine.Answers body ((.evaluate (.reference o), s) : Goal .value)
        (.ok (.classObject superclass), t)

/-- Methods are bound to instances. -/
theorem Binds.exists_instance {task : Task} {method : Closure} {v : Value}
    (h : Binds task method v) : ∃ address c, v = .instance_ address c := by
  cases h <;> exact ⟨_, _, rfl⟩

section

variable {task : Task} {n : Node} {f : FrameId} {v : Value}

/-- A frame with a receiver is that of a method which is bound. -/
theorem Executes.exists_receiver (h : Executes task n f (some ("this", v))) :
    ∃ method name superclass methods, n = .statement (.classDecl name superclass methods) ∧
      f = method.frame ∧ Binds task method v ∧ method.declaration ∈ methods := by
  generalize isGiven : some ("this", v) = given at h
  cases h with
  | superclass =>
    have isName : "this" = "super" := congrArg Prod.fst (Option.some.inj isGiven)
    exact absurd isName (by decide)
  | receiver binds declared =>
    cases isGiven
    exact ⟨_, _, _, _, rfl, rfl, binds, declared⟩
  | _ => cases isGiven

/-- A frame with a superclass is that of a class statement, and the superclass is what its
superclass expression has as value. -/
theorem Executes.exists_superclass (h : Executes task n f (some ("super", v))) :
    ∃ name superclass methods s c t,
      task = executing (.classDecl name (some superclass) methods) s ∧
      n = .statement (.classDecl name (some superclass) methods) ∧ f = s.frame ∧
      v = .classObject c ∧
      Routine.Answers body ((.evaluate (.reference superclass), s) : Goal .value)
        (.ok (.classObject c), t) := by
  generalize isGiven : some ("super", v) = given at h
  cases h with
  | superclass isClass =>
    cases isGiven
    exact ⟨_, _, _, _, _, _, rfl, rfl, rfl, rfl, isClass⟩
  | receiver =>
    have isName : "super" = "this" := congrArg Prod.fst (Option.some.inj isGiven)
    exact absurd isName (by decide)
  | _ => cases isGiven

end

/-! ### Methods that are bound -/

section

variable {s t : Interpreter} {keyword : Occurrence} {name property : Token} {object : Expr}
  {distance address : Nat} {c superclass : Class} {method : Closure}

/-- A property that is no field is a method, bound to the instance. -/
theorem readProperty_eq (noField : t.heap.field? address property.lexeme = none)
    (found : c.findMethod? property.lexeme = some method) :
    readProperty (.instance_ address c) property t =
      .done (.ok (t.bindMethod method (.instance_ address c)).1,
        (t.bindMethod method (.instance_ address c)).2) := by
  have isProperty : t.property address c property =
      (.ok (t.bindMethod method (.instance_ address c)).1,
        (t.bindMethod method (.instance_ address c)).2) := by
    rw [Interpreter.property, noField, found]
  change check (t.property address c property).1 (t.property address c property).2 = _
  rw [isProperty]
  rfl

/-- What `super` finds with a class and an instance at hand. -/
theorem readSuper_eq (isEntry : s.distances[keyword.id]? = some distance)
    (isClass : s.heap.getAt s.frame distance "super" keyword.name.line =
      .ok (.classObject superclass))
    (isInstance : s.heap.getAt s.frame (distance - 1) "this" keyword.name.line =
      .ok (.instance_ address c)) :
    readSuper keyword name s =
      (match superclass.findMethod? name.lexeme with
        | some found => modifyGet fun i => i.bindMethod found (.instance_ address c)
        | none => fail (.undefinedProperty name.lexeme) name.line : Eval Value) s := by
  have getState {next : Interpreter → Eval Value} : (MonadState.get >>= next) s = next s s := rfl
  rw [readSuper, getState, isEntry]
  change Routine.bind (check (s.heap.getAt s.frame distance "super" keyword.name.line) s) _ = _
  rw [isClass]
  change Routine.bind (check (s.heap.getAt s.frame (distance - 1) "this" keyword.name.line) s) _ = _
  rw [isInstance]
  rfl

/-- Reading a method of an instance makes a frame. -/
theorem makes_get
    (isInstance : Routine.Answers body ((.evaluate object, s) : Goal .value)
      (.ok (.instance_ address c), t))
    (noField : t.heap.field? address property.lexeme = none)
    (found : c.findMethod? property.lexeme = some method) :
    Makes (evaluating (.get object property) s) t.heap.frames.size := by
  refine ⟨t, _, .answered .refl isInstance, Nat.le_refl _, ?_⟩
  change _ < (Treatment.pause (Routine.bind (Routine.bind
    (readProperty (.instance_ address c) property t) _) _)).heap.frames.size
  rw [readProperty_eq noField found]
  exact Nat.lt_of_lt_of_eq (Nat.lt_succ_self _) (t.size_bindMethod ..).symm

/-- Reading a method above the class of the running one makes a frame. -/
theorem makes_super (isEntry : s.distances[keyword.id]? = some distance)
    (isClass : s.heap.getAt s.frame distance "super" keyword.name.line =
      .ok (.classObject superclass))
    (isInstance : s.heap.getAt s.frame (distance - 1) "this" keyword.name.line =
      .ok (.instance_ address c))
    (found : superclass.findMethod? name.lexeme = some method) :
    Makes (evaluating (.super keyword name) s) s.heap.frames.size := by
  refine ⟨s, _, .start, Nat.le_refl _, ?_⟩
  change _ < (Treatment.pause (Routine.bind (Routine.bind
    (readSuper keyword name s) _) _)).heap.frames.size
  rw [readSuper_eq isEntry isClass isInstance, found]
  exact Nat.lt_of_lt_of_eq (Nat.lt_succ_self _) (s.size_bindMethod ..).symm

end

/-! ### Scopes that are entered -/

section

variable {s t : Interpreter}

/-- Executing a block makes a frame. -/
theorem makes_block (statements : List Stmt) (s : Interpreter) :
    Makes (executing (.block statements) s) s.heap.frames.size := by
  refine ⟨s, _, .start, Nat.le_refl _, ?_⟩
  refine Nat.lt_of_lt_of_eq (Nat.lt_succ_self _) ((s.size_newFrame s.frame ∅).symm.trans ?_)
  cases statements <;> rfl

/-- Executing a class with a superclass makes a frame. -/
theorem makes_class {name : Token} {superclass : Occurrence} {methods : List FunctionDecl}
    {c : Class}
    (isClass : Routine.Answers body ((.evaluate (.reference superclass), s) : Goal .value)
      (.ok (.classObject c), t)) :
    Makes (executing (.classDecl name (some superclass) methods) s) t.heap.frames.size := by
  refine ⟨t, _, .answered .refl isClass, Nat.le_refl _, ?_⟩
  have size (i : Interpreter) (f g : FrameId) (v u : Value) (b : Bindings) :
      (((i.define f name.lexeme v).newFrame f b).2.newIdentity.2.define g name.lexeme
        u).heap.frames.size = i.heap.frames.size + 1 := by
    simp
  exact Nat.lt_of_lt_of_eq (Nat.lt_succ_self _) (size t _ _ _ _ _).symm

end

/-! ### Calls -/

section

variable {α : Type} {s : Interpreter} {callee : Value} {arguments : List Value} {line : Nat}

/-- The state in which a job asks for its first goal, or ends. -/
def paused : Routine Goal Answer (Except Fault α × Interpreter) → Interpreter
  | .call goal _ => goal.2
  | .done (_, t) => t

theorem pause_body (p : Phase) (request : Request p) (s : Interpreter) :
    (body p (request, s)).pause = paused (step p request s) := by
  change Treatment.pause (Routine.bind (step p request s) _) = _
  cases step p request s with
  | call goal next => rfl
  | done result =>
    obtain ⟨outcome, t⟩ := result
    rcases outcome with fault | result | request <;> rfl

theorem paused_check (r : Except Fault α) (s : Interpreter) : paused (check r s) = s := by
  cases r <;> rfl

theorem paused_map {β : Type} (f : α → β) (job : Eval α) (s : Interpreter) :
    paused ((do return f (← job) : Eval β) s) = paused (job s) := by
  change paused (Routine.bind (job s) _) = _
  cases job s with
  | call goal next => rfl
  | done result =>
    obtain ⟨outcome, t⟩ := result
    cases outcome <;> rfl

/-- A call that is allowed. -/
theorem callValue_eq (arity : callee.arity? = some arguments.length) (room : ¬ maxDepth ≤ s.depth) :
    callValue callee arguments line s =
      Job.always (perform callee arguments line) (fun i => { i with depth := i.depth - 1 })
        { s with depth := s.depth + 1 } := by
  unfold callValue
  simp only [arity, ne_eq, not_true_eq_false, if_false]
  change (if maxDepth ≤ s.depth then _ else _ : Eval Value) s = _
  rw [if_neg room]
  rfl

/-- The frames that a call makes by itself. -/
theorem makes_call (arity : callee.arity? = some arguments.length) (room : ¬ maxDepth ≤ s.depth)
    {f : FrameId} (old : s.heap.frames.size ≤ f)
    (new : f < (paused (perform callee arguments line
      { s with depth := s.depth + 1 })).heap.frames.size) :
    Makes (calling callee arguments line s) f := by
  refine ⟨s, _, .start, old, ?_⟩
  rw [pause_body]
  change f < (paused ((do return .finished (← callValue callee arguments line) :
    Eval (Step .value)) s)).heap.frames.size
  rw [paused_map, callValue_eq arity room]
  change f < (paused (Routine.bind
    (perform callee arguments line { s with depth := s.depth + 1 }) _)).heap.frames.size
  cases result : perform callee arguments line { s with depth := s.depth + 1 } with
  | call goal next =>
    rw [result] at new
    exact new
  | done result' =>
    rw [result] at new
    exact new

theorem size_callClosure (c : Closure) (arguments : List Value) (s : Interpreter) :
    (paused (callClosure c arguments s)).heap.frames.size = s.heap.frames.size + 1 := by
  obtain ⟨⟨name, params, stmts⟩, frame, isInitializer⟩ := c
  cases stmts with
  | cons first rest => exact Heap.size_newFrame
  | nil =>
    cases isInitializer with
    | false => exact Heap.size_newFrame
    | true =>
      change (paused (check _ _)).heap.frames.size = _
      rw [paused_check]
      exact Heap.size_newFrame

/-- Calling a function makes a frame. -/
theorem makes_function {identity : Nat} {c : Closure} (arity : arguments.length = c.arity)
    (room : ¬ maxDepth ≤ s.depth) :
    Makes (calling (.function identity c) arguments line s) s.heap.frames.size := by
  have isArity : (Value.function identity c).arity? = some arguments.length :=
    congrArg some arity.symm
  refine makes_call isArity room (Nat.le_refl _) ?_
  change _ < (paused (callClosure c arguments _)).heap.frames.size
  rw [size_callClosure]
  exact Nat.lt_succ_self _

/-- An instance is made, and the initializer is bound to it and called. -/
theorem instantiate_eq {c : Class} {method : Closure} (found : c.findMethod? "init" = some method) :
    instantiate c arguments s =
      (do
        let _ ← callClosure
          ((s.newInstance c).2.bindClosure method (s.newInstance c).1).1 arguments
        return (s.newInstance c).1 : Eval Value)
        ((s.newInstance c).2.bindClosure method (s.newInstance c).1).2 := by
  unfold instantiate
  rw [found]
  rfl

/-- Calling a class with an initializer makes a frame for the receiver and one for the call. -/
theorem makes_initializer {c : Class} {method : Closure}
    (found : c.findMethod? "init" = some method)
    (arity : arguments.length = method.arity) (room : ¬ maxDepth ≤ s.depth) {f : FrameId}
    (old : s.heap.frames.size ≤ f) (new : f < s.heap.frames.size + 2) :
    Makes (calling (.classObject c) arguments line s) f := by
  have isArity : (Value.classObject c).arity? = some arguments.length := by
    rw [Value.arity?, Class.arity, found, arity]
  refine makes_call isArity room old ?_
  change f < (paused (instantiate c arguments _)).heap.frames.size
  rw [instantiate_eq found, paused_map, size_callClosure]
  exact Nat.lt_of_lt_of_eq new (congrArg (· + 1) (Heap.size_newFrame).symm)

end

end Lox.Evaluation
