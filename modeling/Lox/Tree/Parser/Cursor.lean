import Lox.Tree.Parser.Error
import Lox.Routine.Job
import Lox.Tree.Basic

/-!
# Reading tokens

The parser reads a list of tokens from the front. The token that ends the input is kept apart, so
that it can be looked at again and again but never passed. While reading, occurrences are numbered
and errors that do not stop the reading are recorded.

## Main definitions

* `Cursor`: the tokens that are left, the next number of an occurrence, and the recorded errors.
* `Parser.Phrase`, `Parser.Request`: what the parser can be asked to read.
* `Parse`: computations that read tokens.
-/

namespace Lox

/-- A position among tokens, with what was noted on the way to it. The most recent error is
first. -/
structure Cursor where
  rest : List Token
  last : Token
  nextId : NodeId
  errors : List SyntaxError

/-- The beginning of a list of tokens. The first token that ends the input ends the list; if there
is none, the input ends on the line of the last token, or on the first line. -/
def Cursor.ofTokens (tokens : List Token) (nextId : NodeId) : Cursor where
  rest := tokens.takeWhile fun t => !t.kind.isEnd
  last := (tokens.find? fun t => t.kind.isEnd).getD
    ⟨.endOfInput, "", (tokens.getLast?.map Token.line).getD 1⟩
  nextId := nextId
  errors := []

/-- The token at the cursor. -/
def Cursor.peek (cursor : Cursor) : Token :=
  cursor.rest.headD cursor.last

/-- Whether the cursor has reached the end of the input. -/
def Cursor.atEnd (cursor : Cursor) : Bool :=
  cursor.rest.isEmpty

/-- Pass the token at the cursor, unless it ends the input. -/
def Cursor.advance (cursor : Cursor) : Cursor :=
  { cursor with rest := cursor.rest.tail }

/-- The tokens from the next one at which a statement may begin: behind a semicolon, or at a keyword
that starts a statement. The token before the given ones is `previous`. -/
def Cursor.nextStart (previous : Token) : List Token → List Token
  | [] => []
  | t :: rest =>
    let starts :=
      match t.kind with
      | .keyword k => k.startsStatement
      | _ => false
    if previous.isSymbol .semicolon || starts then t :: rest else nextStart t rest

/-- Pass the token at which a statement failed, and go to where the next one may begin. -/
def Cursor.synchronize (cursor : Cursor) : Cursor :=
  match cursor.rest with
  | [] => cursor
  | failed :: rest => { cursor with rest := nextStart failed rest }

namespace Parser

/-- The sorts of phrases that the parser reads. -/
inductive Phrase where
  | expression
  | expressions
  | statement
  | statements
  | function
  | functions
  | names

/-- What reading a phrase yields. -/
abbrev Phrase.Tree : Phrase → Type
  | .expression => Expr
  | .expressions => List Expr
  | .statement => Stmt
  | .statements => List Stmt
  | .function => FunctionDecl
  | .functions => List FunctionDecl
  | .names => List Token

/-- The levels of binary operators, from the loosest to the tightest. -/
inductive Level where
  | disjunction
  | conjunction
  | equality
  | comparison
  | term
  | factor
  deriving DecidableEq, Repr

/-- What the parser can be asked to read at the cursor. -/
inductive Request : Phrase → Type where
  /-- Declarations up to the end of the input, recovering after each that fails. -/
  | program : Request .statements
  | declaration : Request .statement
  | statement : Request .statement
  /-- Declarations up to a closing brace. -/
  | block : Request .statements
  /-- Methods up to a closing brace. -/
  | methods : Request .functions
  /-- A function from its name on. -/
  | function (sort : FunctionSort) : Request .function
  /-- Parameters after the given number of others. -/
  | parameters (before : Nat) : Request .names
  /-- Arguments after the given number of others. -/
  | arguments (before : Nat) : Request .expressions
  | expression : Request .expression
  /-- Operators of a level and what they join. -/
  | level (l : Level) : Request .expression
  /-- The remaining operators of a level, to the right of an expression. -/
  | operators (l : Level) (left : Expr) : Request .expression
  | unary : Request .expression
  /-- A primary expression with its calls and properties. -/
  | operand : Request .expression
  /-- The remaining calls and properties of an expression. -/
  | suffixes (callee : Expr) : Request .expression

end Parser

/-- A computation that reads tokens and may fail at one of them. -/
abbrev Parse (α : Type) : Type :=
  Job Cursor SyntaxError Parser.Request Parser.Phrase.Tree α

namespace Parse

/-- Read the requested phrase. -/
@[inline] def ask {p : Parser.Phrase} (request : Parser.Request p) : Parse p.Tree :=
  Job.ask request

/-- The token at the cursor. -/
def peek : Parse Token :=
  return (← get).peek

/-- Whether the input is at its end. -/
def atEnd : Parse Bool :=
  return (← get).atEnd

/-- Whether the given symbol is next. -/
def sees (s : Symbol) : Parse Bool :=
  return (← get).peek.isSymbol s

/-- Pass the next token. -/
def advance : Parse Unit :=
  modify Cursor.advance

/-- Pass the next token if it is the given symbol, and say whether it was. -/
def accept (s : Symbol) : Parse Bool := do
  if ← sees s then
    advance
    return true
  else
    return false

/-- Fail at the next token. -/
def missing {α : Type} (expected : Expectation) : Parse α := do
  throw ⟨← peek, .missing expected⟩

/-- Pass the given symbol, which has to be next. -/
def expectSymbol (s : Symbol) (place : Place) : Parse Token := do
  let t ← peek
  if t.isSymbol s then
    advance
    return t
  else
    missing (.symbol s place)

/-- Pass an identifier, which has to be next. -/
def expectName (role : NameRole) : Parse Token := do
  let t ← peek
  match t.kind with
  | .identifier =>
    advance
    return t
  | _ => missing (.name role)

/-- Note an error and go on. -/
def record (token : Token) (cause : SyntaxError.Cause) : Parse Unit :=
  modify fun cursor => { cursor with errors := ⟨token, cause⟩ :: cursor.errors }

/-- Number an occurrence of a name. -/
def occurrence (name : Token) : Parse Occurrence :=
  modifyGet fun cursor => (⟨cursor.nextId, name⟩, { cursor with nextId := cursor.nextId + 1 })

end Parse

end Lox
