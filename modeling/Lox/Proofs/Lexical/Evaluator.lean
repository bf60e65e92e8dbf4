import Lox.Evaluation.Step

/-!
# Evaluation by lexical scoping

A second evaluator that knows no distances. Every local declaration opens a frame of its own around
the rest of its scope, and every name is looked up outward from the current frame, down to the
global names. Everything that has to do neither with declarations nor with names is as in
`Evaluation`.

The frames that blocks and calls open are empty; they mark that declarations inside are local. The
superclass of a class and the receiver of a method are each bound in a frame of their own.

## Main definitions

* `Lexical.lookUp`, `Lexical.assign`, `Lexical.declare`: names and declarations.
* `Lexical.callValue`, `Lexical.evaluateStep`, `Lexical.executeStep`: calls, expressions and
  statements.
* `Lexical.step`: the treatment of every request.
-/

namespace Lox

/-- Declare a name: among the global names at the top level, in a new frame around what follows
anywhere else. -/
def Interpreter.declare (i : Interpreter) (name : String) (value : Value) : Interpreter :=
  if i.frame = globalFrame then i.define globalFrame name value
  else
    let (f, i) := i.newFrame i.frame ((∅ : Bindings).insert name value)
    { i with frame := f }

namespace Lexical

open Evaluation

/-! ### Names -/

/-- The value of a name. -/
def lookUp (name : Token) : Eval Value := do
  let i ← get
  check (i.heap.get i.frame name)

/-- Assign to a name. -/
def assign (name : Token) (value : Value) : Eval Unit := do
  let i ← get
  let f ← check (i.heap.target i.frame name)
  modify fun i => i.define f name.lexeme value

/-- Declare a name. -/
def declare (name : String) (value : Value) : Eval Unit :=
  modify fun i => i.declare name value

/-! ### Calls -/

/-- Declare parameters in order. -/
def declareAll : List (String × Value) → Eval Unit
  | [] => pure ⟨⟩
  | (name, value) :: rest => do
    declare name value
    declareAll rest

/-- Call a closure: the parameters are declared one after the other, and then the body runs. -/
def callClosure (c : Closure) (arguments : List Value) : Eval Value := do
  let f ← modifyGet fun i => i.newFrame c.frame ∅
  let flow ← within f do
    declareAll ((c.declaration.params.map Token.lexeme).zip arguments)
    executeAll c.declaration.body
  if c.isInitializer then
    check ((← get).heap.get c.frame { c.declaration.name with lexeme := "this" })
  else
    match flow with
    | .returned value => pure value
    | .normal => pure .nil

/-- Call a class. -/
def instantiate (c : Class) (arguments : List Value) : Eval Value := do
  let value ← modifyGet fun i => i.newInstance c
  if let some initializer := c.findMethod? "init" then
    let bound ← modifyGet fun i => i.bindClosure initializer value
    let _ ← callClosure bound arguments
  return value

/-- What a call does once it is allowed. -/
def perform (callee : Value) (arguments : List Value) (line : Nat) : Eval Value :=
  match callee with
  | .clock => do
    check (← modifyGet fun i => i.readClock line)
  | .function _ c => callClosure c arguments
  | .classObject c => instantiate c arguments
  | _ => fail .calleeChangedKind line

/-- Call a value. -/
def callValue (callee : Value) (arguments : List Value) (line : Nat) : Eval Value := do
  match callee.arity? with
  | none => fail .notCallable line
  | some arity =>
    if arguments.length ≠ arity then
      fail (.arityMismatch arity arguments.length) line
    else if maxDepth ≤ (← get).depth then
      fail .stackOverflow line
    else
      modify fun i => { i with depth := i.depth + 1 }
      Job.always (perform callee arguments line) fun i => { i with depth := i.depth - 1 }

/-! ### Expressions -/

/-- The method above the class of the running method, bound to the same instance. -/
def readSuper (keyword : Token) (method : Token) : Eval Value := do
  match ← lookUp { keyword with lexeme := "super" } with
  | .classObject superclass =>
    match ← lookUp { keyword with lexeme := "this" } with
    | .instance_ address c =>
      match superclass.findMethod? method.lexeme with
      | some found => modifyGet fun i => i.bindMethod found (.instance_ address c)
      | none => fail (.undefinedProperty method.lexeme) method.line
    | _ => fail .thisNotInstance keyword.line
  | _ => fail .superNotClass keyword.line

/-- The treatment of an expression. -/
def evaluateStep : Expr → Eval (Step .value)
  | .reference name => do
    finish (← lookUp name.name)
  | .assign name value => do
    let value ← evaluate value
    assign name.name value
    finish value
  | .this keyword => do
    finish (← lookUp keyword.name)
  | .super keyword method => do
    finish (← readSuper keyword.name method)
  | e => Evaluation.evaluateStep e

/-! ### Statements -/

/-- Define a class. Its name is declared before the class exists, so that the methods see it. -/
def defineClass (name : Token) (superclass : Option Occurrence) (methods : List FunctionDecl) :
    Eval Unit := do
  let superclass ← superclass.mapM superclassOf
  declare name.lexeme .nil
  let frame ←
    match superclass with
    | some c =>
      modifyGet fun i => i.newFrame i.frame ((∅ : Bindings).insert "super" (.classObject c))
    | none => currentFrame
  let identity ← modifyGet Interpreter.newIdentity
  define name (.classObject ⟨identity, name.lexeme, superclass, methodTable methods frame⟩)

/-- Define a function. Its name is declared before the function exists, so that the body sees it. -/
def defineFunction (d : FunctionDecl) : Eval Unit := do
  declare d.name.lexeme .nil
  let frame ← currentFrame
  define d.name (← modifyGet fun i => i.newFunction ⟨d, frame, false⟩)

/-- The treatment of a statement. -/
def executeStep : Stmt → Eval (Step .flow)
  | .classDecl name superclass methods => do
    defineClass name superclass methods
    finish .normal
  | .functionDecl declaration => do
    defineFunction declaration
    finish .normal
  | .varDecl name initializer => do
    let value ←
      match initializer with
      | some initializer => evaluate initializer
      | none => pure .nil
    declare name.lexeme value
    finish .normal
  | s => Evaluation.executeStep s

/-- The treatment of every request. -/
def step : (p : Phase) → Request p → Eval (Step p)
  | _, .evaluate e => evaluateStep e
  | _, .execute s => executeStep s
  | _, .call callee arguments line => do
    finish (← callValue callee arguments line)

end Lexical

end Lox
