import Lox.Heap
import Lox.Scope.Analysis
import Lox.Sink

/-!
# The state of a session

An interpreter holds all that outlives a program: the heap with the global frame, the distances that
the static reading found for occurrences, the sink, the clock, and the number of the next
occurrence. While a program runs it also holds the current frame and the number of calls in
progress.

All interpreters of a process number their occurrences from one sequence, so that a session may
begin at any number, and may find later that numbers have been used elsewhere.

## Main definitions

* `Interpreter`, `Interpreter.start`: the state, and the state of a new session.
* `Interpreter.skip`: numbers of occurrences are left out.
* `Interpreter.lookUp`, `Interpreter.target`: where an occurrence of a name finds its value.
-/

namespace Lox

/-- The time in seconds at each reading, or the reason why it cannot be told. -/
abbrev Clock : Type :=
  Nat → Except String Float

/-- The state of a session. -/
structure Interpreter where
  heap : Heap
  /-- The innermost frame of the code that runs. -/
  frame : FrameId
  /-- The number of calls in progress. -/
  depth : Nat
  /-- The distances of the occurrences that are bound to a scope. -/
  distances : Std.TreeMap NodeId Nat
  /-- The number of the next occurrence that is read. -/
  nextId : NodeId
  sink : Sink
  clock : Clock
  /-- The number of times the clock was read. -/
  readings : Nat

/-- The frame of the global names. -/
def globalFrame : FrameId :=
  0

/-- The most calls that may be in progress at once. -/
def maxDepth : Nat :=
  1024

namespace Interpreter

/-- A new session, whose only global name is that of the clock. -/
def start (sink : Sink) (clock : Clock) : Interpreter where
  heap := (Heap.empty.newFrame none ((∅ : Bindings).insert "clock" .clock)).2
  frame := globalFrame
  depth := 0
  distances := ∅
  nextId := 0
  sink := sink
  clock := clock
  readings := 0

/-- The value of an occurrence: in the frame at its distance, or else among the global names. -/
def lookUp (i : Interpreter) (occurrence : Occurrence) : Except Fault Value :=
  let name := occurrence.name
  match i.distances[occurrence.id]? with
  | some distance => i.heap.getAt i.frame distance name.lexeme name.line
  | none => i.heap.get globalFrame name

/-- The frame in which an assignment to an occurrence takes effect. -/
def target (i : Interpreter) (occurrence : Occurrence) : Except Fault FrameId :=
  let name := occurrence.name
  match i.distances[occurrence.id]? with
  | some distance => i.heap.targetAt i.frame distance name
  | none => i.heap.target globalFrame name

/-- Bind a name in a frame. -/
def define (i : Interpreter) (f : FrameId) (name : String) (value : Value) : Interpreter :=
  { i with heap := i.heap.define f name value }

/-- Add a frame. -/
def newFrame (i : Interpreter) (parent : FrameId) (bindings : Bindings) : FrameId × Interpreter :=
  let (f, heap) := i.heap.newFrame (some parent) bindings
  (f, { i with heap := heap })

/-- The number of a new object with an identity. -/
def newIdentity (i : Interpreter) : Nat × Interpreter :=
  let (identity, heap) := i.heap.newIdentity
  (identity, { i with heap := heap })

/-- Add an instance of a class. -/
def newInstance (i : Interpreter) (c : Class) : Value × Interpreter :=
  let (address, heap) := i.heap.newInstance
  (.instance_ address c, { i with heap := heap })

/-- Give a field of an instance a value. -/
def setField (i : Interpreter) (address : Nat) (name : String) (value : Value) : Interpreter :=
  { i with heap := i.heap.setField address name value }

/-- A method with `this` bound to a receiver, in a new frame inside that of the method. -/
def bindClosure (i : Interpreter) (method : Closure) (receiver : Value) : Closure × Interpreter :=
  let (f, i) := i.newFrame method.frame ((∅ : Bindings).insert "this" receiver)
  ({ method with frame := f }, i)

/-- A closure as a value: a function object of its own. -/
def newFunction (i : Interpreter) (c : Closure) : Value × Interpreter :=
  let (identity, i) := i.newIdentity
  (.function identity c, i)

/-- A method bound to a receiver, as a value. -/
def bindMethod (i : Interpreter) (method : Closure) (receiver : Value) : Value × Interpreter :=
  let (c, i) := i.bindClosure method receiver
  i.newFunction c

/-- The property of an instance: a field, or else a method bound to the instance. -/
def property (i : Interpreter) (address : Nat) (c : Class) (name : Token) :
    Except Fault Value × Interpreter :=
  match i.heap.field? address name.lexeme with
  | some value => (.ok value, i)
  | none =>
    match c.findMethod? name.lexeme with
    | some method =>
      let (value, i) := i.bindMethod method (.instance_ address c)
      (.ok value, i)
    | none => (.error ⟨.undefinedProperty name.lexeme, name.line⟩, i)

/-- Write a text to the sink. The result is the reason if it fails. -/
def write (i : Interpreter) (text : String) : Option String × Interpreter :=
  let (failure, sink) := i.sink.write text
  (failure, { i with sink := sink })

/-- Flush the sink. The result is the reason if it fails. -/
def flush (i : Interpreter) : Option String × Interpreter :=
  let (failure, sink) := i.sink.flush
  (failure, { i with sink := sink })

/-- Read the clock; the line is that of a failure. -/
def readClock (i : Interpreter) (line : Nat) : Except Fault Value × Interpreter :=
  let time :=
    match i.clock i.readings with
    | .ok seconds => .ok (.number seconds)
    | .error reason => .error ⟨.clockFailed reason, line⟩
  (time, { i with readings := i.readings + 1 })

/-- Leave out some numbers of occurrences, which were used elsewhere. -/
def skip (i : Interpreter) (count : Nat) : Interpreter :=
  { i with nextId := i.nextId + count }

/-- Record the distances of occurrences. -/
def recordDistances (i : Interpreter) (distances : List (NodeId × Nat)) : Interpreter :=
  let known := distances.foldl (fun known (id, distance) => known.insert id distance) i.distances
  { i with distances := known }

end Interpreter

end Lox
