import Lox.Token.Basic

/-!
# Syntax errors

A syntax error is found at a token. Most often something else was expected there; two further errors
do not stop the reading of the text around them.

## Main definitions

* `Expectation`: what the grammar asks for.
* `SyntaxError`, `SyntaxError.message`: the errors and their wording.
-/

namespace Lox

/-- The two sorts of functions that are read alike. -/
inductive FunctionSort where
  | function
  | method
  deriving DecidableEq, Repr

/-- The two sorts of lists between parentheses. -/
inductive ListSort where
  | parameters
  | arguments
  deriving DecidableEq, Repr

/-- What an identifier stands for. -/
inductive NameRole where
  | className
  | superclassName
  | functionName (sort : FunctionSort)
  | parameterName
  | variableName
  | propertyName
  | superclassMethod
  deriving DecidableEq, Repr

/-- Where a symbol stands. -/
inductive Place where
  | beforeClassBody
  | afterClassBody
  | afterFunctionName (sort : FunctionSort)
  | beforeFunctionBody (sort : FunctionSort)
  | afterList (sort : ListSort)
  | afterVariable
  | afterKeyword (k : Keyword)
  | afterCondition
  | afterLoopCondition
  | afterForClauses
  | afterValue
  | afterReturnValue
  | afterExpression
  | afterBlock
  deriving DecidableEq, Repr

/-- What the grammar asks for at some place. -/
inductive Expectation where
  | expression
  | endOfExpression
  | name (role : NameRole)
  | symbol (s : Symbol) (place : Place)
  deriving DecidableEq, Repr

/-- What is wrong at a token. -/
inductive SyntaxError.Cause where
  | missing (expected : Expectation)
  | invalidAssignmentTarget
  | tooMany (sort : ListSort)
  deriving DecidableEq, Repr

/-- An error and the token at which it was found. -/
structure SyntaxError where
  token : Token
  cause : SyntaxError.Cause

/-- The most parameters or arguments that a list may have. -/
def maxArity : Nat :=
  255

/-- The word for a sort of functions. -/
def FunctionSort.word : FunctionSort → String
  | .function => "function"
  | .method => "method"

/-- The word for a sort of lists. -/
def ListSort.word : ListSort → String
  | .parameters => "parameters"
  | .arguments => "arguments"

/-- The words for what an identifier stands for. -/
def NameRole.words : NameRole → String
  | .className => "class name"
  | .superclassName => "superclass name"
  | .functionName sort => sort.word ++ " name"
  | .parameterName => "parameter name"
  | .variableName => "variable name"
  | .propertyName => "property name after '.'"
  | .superclassMethod => "superclass method name"

/-- The words for where a symbol stands. -/
def Place.words : Place → String
  | .beforeClassBody => "before class body"
  | .afterClassBody => "after class body"
  | .afterFunctionName sort => "after " ++ sort.word ++ " name"
  | .beforeFunctionBody sort => "before " ++ sort.word ++ " body"
  | .afterList sort => "after " ++ sort.word
  | .afterVariable => "after variable declaration"
  | .afterKeyword k => "after '" ++ k.spelling ++ "'"
  | .afterCondition => "after condition"
  | .afterLoopCondition => "after loop condition"
  | .afterForClauses => "after for clauses"
  | .afterValue => "after value"
  | .afterReturnValue => "after return value"
  | .afterExpression => "after expression"
  | .afterBlock => "after block"

/-- The words for what was expected. -/
def Expectation.words : Expectation → String
  | .expression => "expression"
  | .endOfExpression => "end of expression"
  | .name role => role.words
  | .symbol s place => "'" ++ s.spelling ++ "' " ++ place.words

/-- The message of a syntax error. -/
def SyntaxError.message (e : SyntaxError) : String :=
  match e.cause with
  | .missing expected => "Expected " ++ expected.words
  | .invalidAssignmentTarget => "Invalid assignment target"
  | .tooMany sort => "Can't have more than " ++ toString maxArity ++ " " ++ sort.word

end Lox
