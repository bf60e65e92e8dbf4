import Lox.Interpreter
import Lox.Routine.Job

/-!
# Evaluating expressions and executing statements

Each expression, each statement and each call is a request of its own, so that programs may be
nested as deeply as memory allows. An expression yields a value; a statement ends normally or by
returning a value to the call around it.

## Main definitions

* `Flow`: how a statement ends.
* `Evaluation.Request`: what can be evaluated; `Eval`: computations on interpreters.
* `Evaluation.within`: a computation in another frame.
* `Evaluation.executeAll`: statements in sequence.
-/

namespace Lox

/-- How a statement ended. -/
inductive Flow where
  | normal
  /-- A `return` was executed; the call around it ends with the value. -/
  | returned (value : Value)

namespace Evaluation

/-- The two sorts of requests. -/
inductive Phase where
  | value
  | flow

/-- What a request yields. -/
abbrev Phase.Result : Phase → Type
  | .value => Value
  | .flow => Flow

/-- What can be evaluated. -/
inductive Request : Phase → Type where
  | evaluate (e : Expr) : Request .value
  | execute (s : Stmt) : Request .flow
  /-- Call a value with arguments; the line is that of the closing parenthesis. -/
  | call (callee : Value) (arguments : List Value) (line : Nat) : Request .value

end Evaluation

/-- A computation on an interpreter that may end with a fault. -/
abbrev Eval (α : Type) : Type :=
  Job Interpreter Fault Evaluation.Request Evaluation.Phase.Result α

namespace Evaluation

/-- The treatment of a request ends with its result or with another request. -/
abbrev Step (p : Phase) : Type :=
  Job.Step Request Phase.Result p

/-- End with a result. -/
@[inline] def finish {p : Phase} (result : p.Result) : Eval (Step p) :=
  pure (.finished result)

/-- Go on with another request. -/
@[inline] def handOver {p : Phase} (request : Request p) : Eval (Step p) :=
  pure (.handOver request)

/-- The value of an expression. -/
@[inline] def evaluate (e : Expr) : Eval Value :=
  Job.ask (Request.evaluate e)

/-- The end of a statement. -/
@[inline] def execute (s : Stmt) : Eval Flow :=
  Job.ask (Request.execute s)

/-- The value of a call. -/
@[inline] def call (callee : Value) (arguments : List Value) (line : Nat) : Eval Value :=
  Job.ask (Request.call callee arguments line)

/-- End with a fault. -/
@[inline] def fail {α : Type} (cause : Fault.Cause) (line : Nat) : Eval α :=
  throw ⟨cause, line⟩

/-- Go on with a value, or end with a fault. -/
@[inline] def check {α : Type} : Except Fault α → Eval α
  | .ok a => pure a
  | .error fault => throw fault

/-- The frame of the code that runs. -/
def currentFrame : Eval FrameId :=
  return (← get).frame

/-- Bind a name in the current frame. -/
def define (name : Token) (value : Value) : Eval Unit :=
  modify fun i => i.define i.frame name.lexeme value

/-- The value of an occurrence of a name. -/
def lookUp (occurrence : Occurrence) : Eval Value := do
  check ((← get).lookUp occurrence)

/-- Assign to an occurrence of a name. -/
def assign (occurrence : Occurrence) (value : Value) : Eval Unit := do
  let f ← check ((← get).target occurrence)
  modify fun i => i.define f occurrence.name.lexeme value

/-- Do something in another frame. -/
def within {α : Type} (f : FrameId) (job : Eval α) : Eval α := do
  let outer ← modifyGet fun i => (i.frame, { i with frame := f })
  Job.always job fun i => { i with frame := outer }

/-- Execute statements up to the first that returns. -/
def executeAll : List Stmt → Eval Flow
  | [] => pure .normal
  | s :: ss => do
    match ← execute s with
    | .normal => executeAll ss
    | .returned value => pure (.returned value)

end Evaluation

end Lox
