import Lox.Evaluation.Call

/-!
# The meaning of expressions, statements and programs

## Main definitions

* `Evaluation.evaluateStep`, `Evaluation.executeStep`: the treatment of expressions and statements.
* `Evaluation.step`: the treatment of every request.
* `Evaluation.interpret`: the run of a program.
-/

namespace Lox.Evaluation

/-! ### Expressions -/

/-- The property of a value. -/
def readProperty (object : Value) (property : Token) : Eval Value := do
  match object with
  | .instance_ address c =>
    check (← modifyGet fun i => i.property address c property)
  | _ => fail .readOfNoInstance property.line

/-- The method above the class of the running method, bound to the same instance. The instance is
bound one frame inside the superclass. -/
def readSuper (keyword : Occurrence) (method : Token) : Eval Value := do
  let line := keyword.name.line
  let i ← get
  match i.distances[keyword.id]? with
  | none => fail .unresolvedSuper line
  | some distance =>
    match ← check (i.heap.getAt i.frame distance "super" line) with
    | .classObject superclass =>
      match ← check (i.heap.getAt i.frame (distance - 1) "this" line) with
      | .instance_ address c =>
        match superclass.findMethod? method.lexeme with
        | some found => modifyGet fun i => i.bindMethod found (.instance_ address c)
        | none => fail (.undefinedProperty method.lexeme) method.line
      | _ => fail .thisNotInstance line
    | _ => fail .superNotClass line

/-- The treatment of an expression. -/
def evaluateStep : Expr → Eval (Step .value)
  | .literal value _ => finish (Value.ofLiteral value)
  | .grouping inner => handOver (.evaluate inner)
  | .unary operator right => do
    let right ← evaluate right
    finish (← check (Value.unary operator right))
  | .binary left operator right => do
    let left ← evaluate left
    let right ← evaluate right
    finish (← check (Value.binary left operator right))
  | .logical left operator right => do
    let left ← evaluate left
    if Value.decides operator left then finish left else handOver (.evaluate right)
  | .reference name => do
    finish (← lookUp name)
  | .assign name value => do
    let value ← evaluate value
    assign name value
    finish value
  | .call callee paren arguments => do
    let callee ← evaluate callee
    let arguments ← arguments.mapM evaluate
    handOver (.call callee arguments paren.line)
  | .get object property => do
    let object ← evaluate object
    finish (← readProperty object property)
  | .set object property value => do
    match ← evaluate object with
    | .instance_ address _ =>
      let value ← evaluate value
      modify fun i => i.setField address property.lexeme value
      finish value
    | _ => fail .writeOfNoInstance property.line
  | .this keyword => do
    finish (← lookUp keyword)
  | .super keyword method => do
    finish (← readSuper keyword method)

/-! ### Statements -/

/-- End with a fault if the sink has failed. -/
def checkOutput (failure : Option String) (line : Nat) : Eval Unit :=
  match failure with
  | some reason => fail (.outputFailed reason) line
  | none => pure ()

/-- Print a value on a line of its own; the line of the expression is that of a failure. -/
def print (value : Value) (line : Nat) : Eval Unit := do
  checkOutput (← modifyGet fun i => i.write (value.text ++ "\n")) line

/-- The class that a superclass expression denotes. -/
def superclassOf (superclass : Occurrence) : Eval Class := do
  match ← evaluate (.reference superclass) with
  | .classObject c => return c
  | _ => fail .superclassNotClass superclass.name.line

/-- The methods of a class by name; of two with one name the later counts. -/
def methodTable (methods : List FunctionDecl) (frame : FrameId) : Std.TreeMap String Closure :=
  methods.foldl
    (fun table d => table.insert d.name.lexeme ⟨d, frame, d.name.lexeme == "init"⟩) ∅

/-- Define a class. Its name is bound to nil until the class exists. The methods live in a frame
that binds the superclass, if there is one. -/
def defineClass (name : Token) (superclass : Option Occurrence) (methods : List FunctionDecl) :
    Eval Unit := do
  let superclass ← superclass.mapM superclassOf
  define name .nil
  let frame ←
    match superclass with
    | some c =>
      modifyGet fun i => i.newFrame i.frame ((∅ : Bindings).insert "super" (.classObject c))
    | none => currentFrame
  let identity ← modifyGet Interpreter.newIdentity
  define name (.classObject ⟨identity, name.lexeme, superclass, methodTable methods frame⟩)

/-- The treatment of a statement. -/
def executeStep : Stmt → Eval (Step .flow)
  | .block body => do
    let f ← modifyGet fun i => i.newFrame i.frame ∅
    finish (← within f (executeAll body))
  | .classDecl name superclass methods => do
    defineClass name superclass methods
    finish .normal
  | .expression value => do
    let _ ← evaluate value
    finish .normal
  | .functionDecl declaration => do
    let frame ← currentFrame
    define declaration.name (← modifyGet fun i => i.newFunction ⟨declaration, frame, false⟩)
    finish .normal
  | .conditional condition thenBranch elseBranch => do
    if (← evaluate condition).isTruthy then
      handOver (.execute thenBranch)
    else
      match elseBranch with
      | some elseBranch => handOver (.execute elseBranch)
      | none => finish .normal
  | .print value => do
    print (← evaluate value) value.line
    finish .normal
  | .ret _ value => do
    match value with
    | some value => finish (.returned (← evaluate value))
    | none => finish (.returned .nil)
  | .varDecl name initializer => do
    let value ←
      match initializer with
      | some initializer => evaluate initializer
      | none => pure .nil
    define name value
    finish .normal
  | .loop condition body => do
    if (← evaluate condition).isTruthy then
      match ← execute body with
      | .normal => handOver (.execute (.loop condition body))
      | .returned value => finish (.returned value)
    else
      finish .normal

/-- The treatment of every request. -/
def step : (p : Phase) → Request p → Eval (Step p)
  | _, .evaluate e => evaluateStep e
  | _, .execute s => executeStep s
  | _, .call callee arguments line => do
    finish (← callValue callee arguments line)

/-! ### Programs -/

/-- Run a program: its statements in order, and then the sink is flushed. -/
def interpret (program : List Stmt) : Eval Unit := do
  match ← executeAll program with
  | .returned _ => fail .escapedReturn 0
  | .normal => checkOutput (← modifyGet Interpreter.flush) 0

end Lox.Evaluation
