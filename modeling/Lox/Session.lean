import Lox.Diagnostic
import Lox.Evaluation.Step
import Lox.Tree.Parser.Basic

/-!
# Sessions

A session is a sequence of programs, expressions and direct operations on one interpreter. A source
text is first read: cut into tokens, parsed, and bound to scopes; only a text without any error is
executed. Functions that execute take a number of moves and have no result if it is not enough.

## Main definitions

* `Interpreter.parse`, `Interpreter.load`: the static phases.
* `Interpreter.execute`, `Interpreter.run`, `Interpreter.evaluate`: programs and expressions.
* `Interpreter.globals`, `Interpreter.call`, `Interpreter.setProperty`: direct operations.
-/

namespace Lox

namespace Interpreter

/-! ### Static phases -/

/-- Parse tokens as a program. -/
def parseTokens (i : Interpreter) (tokens : List Token) :
    Except (List Diagnostic) (List Stmt) × Interpreter :=
  let (result, nextId) := parseProgram tokens i.nextId
  (result.mapError (·.map .grammatical), { i with nextId := nextId })

/-- Parse a source text as a program. -/
def parse (i : Interpreter) (source : String) :
    Except (List Diagnostic) (List Stmt) × Interpreter :=
  match tokenize source with
  | .ok tokens => i.parseTokens tokens
  | .error errors => (.error (errors.map .lexical), i)

/-- Parse a source text as an expression. -/
def parseExpr (i : Interpreter) (source : String) :
    Except (List Diagnostic) Expr × Interpreter :=
  match tokenize source with
  | .ok tokens =>
    let (result, nextId) := parseExpression tokens i.nextId
    (result.mapError (·.map .grammatical), { i with nextId := nextId })
  | .error errors => (.error (errors.map .lexical), i)

/-- Take over the distances that a static reading found, and give its violations. -/
def adopt (i : Interpreter) (verdict : Scope.Verdict) : List Diagnostic × Interpreter :=
  (verdict.errors.map .scoping, i.recordDistances verdict.distances)

/-- Bind the names of a program to scopes. -/
def bindProgram (i : Interpreter) (program : List Stmt) : List Diagnostic × Interpreter :=
  i.adopt (Scope.analyse (Scope.programEvents program))

/-- Bind the names of an expression to scopes. -/
def bindExpr (i : Interpreter) (e : Expr) : List Diagnostic × Interpreter :=
  i.adopt (Scope.analyse (Scope.expressionEvents e))

/-- Read a source text as a program that is ready to run. -/
def load (i : Interpreter) (source : String) :
    Except (List Diagnostic) (List Stmt) × Interpreter :=
  match i.parse source with
  | (.error errors, i) => (.error errors, i)
  | (.ok program, i) =>
    match i.bindProgram program with
    | ([], i) => (.ok program, i)
    | (errors, i) => (.error errors, i)

/-- Read a source text as an expression that is ready to be evaluated. -/
def loadExpr (i : Interpreter) (source : String) :
    Except (List Diagnostic) Expr × Interpreter :=
  match i.parseExpr source with
  | (.error errors, i) => (.error errors, i)
  | (.ok e, i) =>
    match i.bindExpr e with
    | ([], i) => (.ok e, i)
    | (errors, i) => (.error errors, i)

/-! ### Execution -/

/-- The outcome of a computation. -/
def perform {α : Type} (moves : Nat) (job : Eval α) (i : Interpreter) :
    Option (Except Fault α × Interpreter) :=
  Job.run Evaluation.step moves job i

/-- Run a program that has been read; the result is its fault, if it has one. -/
def execute (moves : Nat) (program : List Stmt) (i : Interpreter) :
    Option (List Diagnostic × Interpreter) :=
  (i.perform moves (Evaluation.interpret program)).map fun (outcome, i) =>
    match outcome with
    | .ok () => ([], i)
    | .error fault => ([.fault fault], i)

/-- Read and run a program. The result is the list of its errors. -/
def run (moves : Nat) (source : String) (i : Interpreter) :
    Option (List Diagnostic × Interpreter) :=
  match i.load source with
  | (.error errors, i) => some (errors, i)
  | (.ok program, i) => i.execute moves program

/-- Read and evaluate an expression. -/
def evaluate (moves : Nat) (source : String) (i : Interpreter) :
    Option (Except (List Diagnostic) Value × Interpreter) :=
  match i.loadExpr source with
  | (.error errors, i) => some (.error errors, i)
  | (.ok e, i) =>
    (i.perform moves (Evaluation.evaluate e)).map fun (outcome, i) =>
      (outcome.mapError fun fault => [.fault fault], i)

/-! ### Direct operations -/

/-- A name in a place that no source text has. -/
def nameAt (name : String) (line : Nat) : Token :=
  ⟨.identifier, name, line⟩

/-- The global names with their values, in order of the names. -/
def globals (i : Interpreter) : List (String × Value) :=
  match i.heap.frames[globalFrame]? with
  | some frame => frame.bindings.toList
  | none => []

/-- The value of a global name. -/
def global? (i : Interpreter) (name : String) : Option Value :=
  i.heap.binding? globalFrame name

/-- The value of a global name, asked for on a line. -/
def getGlobal (i : Interpreter) (name : String) (line : Nat) : Except Fault Value :=
  i.heap.get globalFrame (nameAt name line)

/-- Bind a global name. -/
def defineGlobal (i : Interpreter) (name : String) (value : Value) : Interpreter :=
  i.define globalFrame name value

/-- Assign to a global name. -/
def assignGlobal (i : Interpreter) (name : String) (line : Nat) (value : Value) :
    Except Fault Value × Interpreter :=
  match i.heap.target globalFrame (nameAt name line) with
  | .ok f => (.ok value, i.define f name value)
  | .error fault => (.error fault, i)

/-- Call the value of a global name. -/
def callGlobal (moves : Nat) (name : String) (line : Nat) (arguments : List Value)
    (i : Interpreter) : Option (Except Fault Value × Interpreter) :=
  match i.getGlobal name line with
  | .error fault => some (.error fault, i)
  | .ok callee => i.perform moves (Evaluation.call callee arguments line)

/-- The property of an instance, asked for on a line. -/
def getProperty (i : Interpreter) (address : Nat) (c : Class) (name : String) (line : Nat) :
    Except Fault Value × Interpreter :=
  i.property address c (nameAt name line)

end Interpreter

end Lox
