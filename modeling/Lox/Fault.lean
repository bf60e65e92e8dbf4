import Lox.Token.Basic

/-!
# Faults

A running program ends early with a fault: a rule of the language is broken, the output cannot be
written, the clock cannot be read, calls nest too deeply, or the evaluation meets a tree that the
static reading would have refused.

## Main definitions

* `Fault`, `Fault.Cause`: the faults and the lines where they arise.
* `Fault.message`, `Fault.kind`: their wording and classification.
-/

namespace Lox

/-- What ends a running program. -/
inductive Fault.Cause where
  | operandNotNumber
  | operandsNotNumbers
  | operandsNotAddable
  | readOfNoInstance
  | writeOfNoInstance
  | superclassNotClass
  | undefinedVariable (name : String)
  | undefinedProperty (name : String)
  | notCallable
  | arityMismatch (expected given : Nat)
  | stackOverflow
  /-- A `return` was executed outside every call. -/
  | escapedReturn
  /-- The frame that should bind a name does not. -/
  | misplacedVariable (name : String) (distance : Nat)
  | unresolvedSuper
  | superNotClass
  | thisNotInstance
  | invalidUnary (lexeme : String)
  | invalidBinary (lexeme : String)
  /-- A value that takes arguments cannot be called after all. -/
  | calleeChangedKind
  | clockFailed (reason : String)
  | outputFailed (reason : String)
  deriving DecidableEq, Repr

/-- A fault and the line where it arises. -/
structure Fault where
  cause : Fault.Cause
  line : Nat
  deriving DecidableEq, Repr

/-- The classes of faults. -/
inductive Fault.Kind where
  | type
  | undefinedVariable
  | undefinedProperty
  | notCallable
  | arityMismatch
  | stackOverflow
  | internal
  | io
  deriving DecidableEq, Repr

namespace Fault

/-- The class of a cause. -/
def Cause.kind : Cause → Kind
  | operandNotNumber | operandsNotNumbers | operandsNotAddable | readOfNoInstance
  | writeOfNoInstance | superclassNotClass | clockFailed _ => .type
  | undefinedVariable _ => .undefinedVariable
  | undefinedProperty _ => .undefinedProperty
  | notCallable => .notCallable
  | arityMismatch .. => .arityMismatch
  | stackOverflow => .stackOverflow
  | escapedReturn | misplacedVariable .. | unresolvedSuper | superNotClass | thisNotInstance
  | invalidUnary _ | invalidBinary _ | calleeChangedKind => .internal
  | outputFailed _ => .io

/-- The message of a cause. -/
def Cause.message : Cause → String
  | operandNotNumber => "Operand must be a number."
  | operandsNotNumbers => "Operands must be numbers."
  | operandsNotAddable => "Operands must be two numbers or two strings."
  | readOfNoInstance => "Only instances have properties."
  | writeOfNoInstance => "Only instances have fields."
  | superclassNotClass => "Superclass must be a class."
  | undefinedVariable name => "Undefined variable '" ++ name ++ "'."
  | undefinedProperty name => "Undefined property '" ++ name ++ "'."
  | notCallable => "Can only call functions and classes."
  | arityMismatch expected given =>
    "Expected " ++ toString expected ++ " arguments but got " ++ toString given ++ "."
  | stackOverflow => "Stack overflow."
  | escapedReturn => "Return escaped every function call."
  | misplacedVariable name distance =>
    "Resolved variable '" ++ name ++ "' not found " ++ toString distance ++ " scope(s) out."
  | unresolvedSuper => "Unresolved 'super' expression."
  | superNotClass => "'super' is not bound to a class."
  | thisNotInstance => "'this' is not bound to an instance."
  | invalidUnary lexeme => "Invalid unary operator '" ++ lexeme ++ "'."
  | invalidBinary lexeme => "Invalid binary operator '" ++ lexeme ++ "'."
  | calleeChangedKind => "Callee changed kind."
  | clockFailed reason => "Clock error: " ++ reason
  | outputFailed reason => "Output failed: " ++ reason

/-- The class of a fault. -/
def kind (fault : Fault) : Kind :=
  fault.cause.kind

/-- The message of a fault. -/
def message (fault : Fault) : String :=
  fault.cause.message

/-- Whether a fault ends a whole session and not only a program. -/
def isFatal (fault : Fault) : Bool :=
  fault.kind == .stackOverflow || fault.kind == .internal

/-- The word for a class of faults. -/
def Kind.word : Kind → String
  | type => "Type"
  | undefinedVariable => "UndefinedVariable"
  | undefinedProperty => "UndefinedProperty"
  | notCallable => "NotCallable"
  | arityMismatch => "ArityMismatch"
  | stackOverflow => "StackOverflow"
  | internal => "Internal"
  | io => "Io"

end Fault

end Lox
