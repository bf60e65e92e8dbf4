import Lox.Fault
import Lox.Tree.Basic
import Std.Data.TreeMap

/-!
# Values

Numbers, strings, booleans and nil are plain values. Functions, classes and instances are objects
with an identity: a function object and a class carry a number that no other one has, an instance
the address of its fields.

## Main definitions

* `Closure`, `Class`, `Value`: the values; `ValueSort`: their sorts.
* `Class.findMethod?`: the nearest declaration of a method.
* `Value.isTruthy`, `Value.equal`, `Value.text`: tests, equality and text.
* `Value.unary`, `Value.binary`: the operators.
-/

namespace Lox

/-- The number of a frame of bindings. -/
abbrev FrameId : Type :=
  Nat

/-- A declared function and the frame in which its free names have their meaning. -/
structure Closure where
  declaration : FunctionDecl
  frame : FrameId
  isInitializer : Bool

/-- The number of parameters. -/
def Closure.arity (c : Closure) : Nat :=
  c.declaration.params.length

/-- The name under which a function was declared. -/
def Closure.name (c : Closure) : String :=
  c.declaration.name.lexeme

/-- A class: its own methods, and the class from which it inherits the others. -/
structure Class where
  identity : Nat
  name : String
  superclass : Option Class
  methods : Std.TreeMap String Closure

/-- The declaration of a method in the nearest class at or above the given one. -/
def Class.findMethod? : Class → String → Option Closure
  | ⟨_, _, none, methods⟩, name => methods[name]?
  | ⟨_, _, some superclass, methods⟩, name =>
    match methods[name]? with
    | some method => some method
    | none => superclass.findMethod? name
termination_by structural c => c

/-- The number of arguments with which a class is called: that of its initializer. -/
def Class.arity (c : Class) : Nat :=
  match c.findMethod? "init" with
  | some initializer => initializer.arity
  | none => 0

/-- The values of the language. -/
inductive Value where
  | nil
  | boolean (b : Bool)
  | number (x : Float)
  | string (s : String)
  /-- The function that reads the clock. -/
  | clock
  | function (identity : Nat) (c : Closure)
  | classObject (c : Class)
  | instance_ (address : Nat) (c : Class)
  deriving Inhabited

/-- The sorts of values. -/
inductive ValueSort where
  | nil
  | boolean
  | number
  | string
  | function
  | class_
  | instance_
  deriving DecidableEq, Repr

/-- The word for a sort of values. -/
def ValueSort.word : ValueSort → String
  | nil => "nil"
  | boolean => "boolean"
  | number => "number"
  | string => "string"
  | function => "function"
  | class_ => "class"
  | instance_ => "instance"

namespace Value

/-- The value of a constant. -/
def ofLiteral : Literal → Value
  | .number x => .number x
  | .string s => .string s
  | .boolean b => .boolean b
  | .nil => .nil

/-- Everything counts as true but nil and false. -/
def isTruthy : Value → Bool
  | nil => false
  | boolean b => b
  | _ => true

/-- Equality: numbers as floating-point numbers, strings and booleans by what they are, objects by
identity. Values of different sorts differ. -/
def equal : Value → Value → Bool
  | nil, nil => true
  | boolean b, boolean b' => b == b'
  | number x, number x' => x == x'
  | string s, string s' => s == s'
  | clock, clock => true
  | function identity _, function identity' _ => identity == identity'
  | classObject c, classObject c' => c.identity == c'.identity
  | instance_ address _, instance_ address' _ => address == address'
  | _, _ => false

/-- The sort of a value. -/
def sort : Value → ValueSort
  | nil => .nil
  | boolean _ => .boolean
  | number _ => .number
  | string _ => .string
  | clock | function .. => .function
  | classObject _ => .class_
  | instance_ .. => .instance_

/-- How numbers are shown to users of programs. -/
def numberStyle : Number.Style :=
  { Number.Style.plain with infinity := "Infinity" }

/-- The text of a value. -/
def text : Value → String
  | nil => "nil"
  | boolean true => "true"
  | boolean false => "false"
  | number x => numberStyle.write x
  | string s => s
  | clock => "<native fn>"
  | function _ c => "<fn " ++ c.name ++ ">"
  | classObject c => c.name
  | instance_ _ c => c.name ++ " instance"

/-- The number of arguments that a value takes when it is called, if it can be called. -/
def arity? : Value → Option Nat
  | clock => some 0
  | function _ c => some c.arity
  | classObject c => some c.arity
  | _ => none

/-! ### Operators -/

/-- The value of an operator before its operand. -/
def unary (operator : Token) (right : Value) : Except Fault Value :=
  match operator.kind with
  | .symbol .minus =>
    match right with
    | number x => .ok (number (-x))
    | _ => .error ⟨.operandNotNumber, operator.line⟩
  | .symbol .bang => .ok (boolean !right.isTruthy)
  | _ => .error ⟨.invalidUnary operator.lexeme, operator.line⟩

/-- The value of an operator that takes numbers only. -/
def arithmetic (operator : Token) (x y : Float) : Except Fault Value :=
  match operator.kind with
  | .symbol .minus => .ok (number (x - y))
  | .symbol .star => .ok (number (x * y))
  | .symbol .slash => .ok (number (x / y))
  | .symbol .greater => .ok (boolean (y < x))
  | .symbol .greaterEqual => .ok (boolean (y ≤ x))
  | .symbol .less => .ok (boolean (x < y))
  | .symbol .lessEqual => .ok (boolean (x ≤ y))
  | _ => .error ⟨.invalidBinary operator.lexeme, operator.line⟩

/-- The value of an operator between its operands. -/
def binary (left : Value) (operator : Token) (right : Value) : Except Fault Value :=
  match operator.kind with
  | .symbol .equalEqual => .ok (boolean (left.equal right))
  | .symbol .bangEqual => .ok (boolean !left.equal right)
  | .symbol .plus =>
    match left, right with
    | number x, number y => .ok (number (x + y))
    | string s, string s' => .ok (string (s ++ s'))
    | _, _ => .error ⟨.operandsNotAddable, operator.line⟩
  | _ =>
    match left, right with
    | number x, number y => arithmetic operator x y
    | _, _ => .error ⟨.operandsNotNumbers, operator.line⟩

/-- Whether the left operand of a logical operator decides its value: of `or` a true one, of any
other a false one. -/
def decides (operator : Token) (left : Value) : Bool :=
  match operator.kind with
  | .keyword .or_ => left.isTruthy
  | _ => !left.isTruthy

end Value

end Lox
