import Lox.Evaluation.Basic

/-!
# Calls

Functions, classes and the clock can be called, each with a fixed number of arguments. The number of
calls in progress is bounded, and is afterwards what it was before, whatever the outcome.

## Main definitions

* `Evaluation.callClosure`, `Evaluation.instantiate`: calls of functions and of classes.
* `Evaluation.callValue`: the call of any value.
-/

namespace Lox.Evaluation

/-- Call a closure: its body runs in a new frame with the parameters, inside the frame of the
closure. An initializer yields the instance it is bound to, any other function what it returns. -/
def callClosure (c : Closure) (arguments : List Value) : Eval Value := do
  let parameters := c.declaration.params.map Token.lexeme
  let bindings : Bindings :=
    (parameters.zip arguments).foldl (fun bindings (name, value) => bindings.insert name value) ∅
  let f ← modifyGet fun i => i.newFrame c.frame bindings
  let flow ← within f (executeAll c.declaration.body)
  if c.isInitializer then
    check ((← get).heap.getAt c.frame 0 "this" c.declaration.name.line)
  else
    match flow with
    | .returned value => pure value
    | .normal => pure .nil

/-- Call a class: make an instance, and run the initializer on it if there is one. -/
def instantiate (c : Class) (arguments : List Value) : Eval Value := do
  let value ← modifyGet fun i => i.newInstance c
  if let some initializer := c.findMethod? "init" then
    let bound ← modifyGet fun i => i.bindClosure initializer value
    let _ ← callClosure bound arguments
  return value

/-- What a call does once it is allowed. -/
def perform (callee : Value) (arguments : List Value) (line : Nat) : Eval Value :=
  match callee with
  | .clock => do
    check (← modifyGet fun i => i.readClock line)
  | .function _ c => callClosure c arguments
  | .classObject c => instantiate c arguments
  | _ => fail .calleeChangedKind line

/-- Call a value: it has to be callable, with as many arguments as are given, and not too many calls
may be in progress. -/
def callValue (callee : Value) (arguments : List Value) (line : Nat) : Eval Value := do
  match callee.arity? with
  | none => fail .notCallable line
  | some arity =>
    if arguments.length ≠ arity then
      fail (.arityMismatch arity arguments.length) line
    else if maxDepth ≤ (← get).depth then
      fail .stackOverflow line
    else
      modify fun i => { i with depth := i.depth + 1 }
      Job.always (perform callee arguments line) fun i => { i with depth := i.depth - 1 }

end Lox.Evaluation
