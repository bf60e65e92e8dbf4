import Lox.Tree.Parser.Cursor

/-!
# The grammar

How each phrase is read, in terms of the phrases inside it.

```text
program        → declaration* END ;
declaration    → "class" classDecl | "fun" function | "var" varDecl | statement ;
classDecl      → IDENT ( "<" IDENT )? "{" function* "}" ;
function       → IDENT "(" ( IDENT ( "," IDENT )* )? ")" "{" block ;
varDecl        → IDENT ( "=" expression )? ";" ;
statement      → "for" forStmt | "if" ifStmt | "print" expression ";"
               | "return" expression? ";" | "while" whileStmt | "{" block | expression ";" ;
forStmt        → "(" ( "var" varDecl | expression ";" | ";" )
                 expression? ";" expression? ")" statement ;
ifStmt         → "(" expression ")" statement ( "else" statement )? ;
whileStmt      → "(" expression ")" statement ;
block          → declaration* "}" ;

expression     → ( operand "." )? IDENT "=" expression | disjunction ;
disjunction    → conjunction ( "or" conjunction )* ;
conjunction    → equality ( "and" equality )* ;
equality       → comparison ( ( "!=" | "==" ) comparison )* ;
comparison     → term ( ( ">" | ">=" | "<" | "<=" ) term )* ;
term           → factor ( ( "-" | "+" ) factor )* ;
factor         → unary ( ( "/" | "*" ) unary )* ;
unary          → ( "!" | "-" ) unary | operand ;
operand        → primary ( "(" arguments? ")" | "." IDENT )* ;
primary        → NUMBER | STRING | "true" | "false" | "nil" | "this"
               | IDENT | "(" expression ")" | "super" "." IDENT ;
```

## Main definitions

* `Parser.step`: the treatment of every request.
-/

namespace Lox.Parser

open Parse

/-- The treatment of a request ends with a tree or with another request. -/
abbrev Step (p : Phrase) : Type :=
  Job.Step Request Phrase.Tree p

/-- End with a tree. -/
@[inline] def finish {p : Phrase} (tree : p.Tree) : Parse (Step p) :=
  pure (.finished tree)

/-- Go on with another request. -/
@[inline] def handOver {p : Phrase} (request : Request p) : Parse (Step p) :=
  pure (.handOver request)

/-! ### Expressions -/

/-- The request for the operands of a level. -/
def Level.operand : Level → Request .expression
  | .disjunction => .level .conjunction
  | .conjunction => .level .equality
  | .equality => .level .comparison
  | .comparison => .level .term
  | .term => .level .factor
  | .factor => .unary

/-- Whether a token is an operator of the level. -/
def Level.accepts (l : Level) (t : Token) : Bool :=
  match l, t.kind with
  | .disjunction, .keyword .or_ => true
  | .conjunction, .keyword .and_ => true
  | .equality, .symbol .bangEqual | .equality, .symbol .equalEqual => true
  | .comparison, .symbol .greater | .comparison, .symbol .greaterEqual
  | .comparison, .symbol .less | .comparison, .symbol .lessEqual => true
  | .term, .symbol .minus | .term, .symbol .plus => true
  | .factor, .symbol .slash | .factor, .symbol .star => true
  | _, _ => false

/-- The expression that an operator of the level makes of its operands. -/
def Level.combine : Level → Expr → Token → Expr → Expr
  | .disjunction | .conjunction => .logical
  | _ => .binary

/-- Read a primary expression. -/
def primary : Parse Expr := do
  let t ← peek
  match t.kind with
  | .keyword .false_ =>
    advance
    return .literal (.boolean false) t.line
  | .keyword .true_ =>
    advance
    return .literal (.boolean true) t.line
  | .keyword .nil_ =>
    advance
    return .literal .nil t.line
  | .number x =>
    advance
    return .literal (.number x) t.line
  | .string s =>
    advance
    return .literal (.string s) t.line
  | .keyword .this_ =>
    advance
    return .this (← occurrence t)
  | .identifier =>
    advance
    return .reference (← occurrence t)
  | .keyword .super_ =>
    advance
    let _ ← expectSymbol .dot (.afterKeyword .super_)
    let method ← expectName .superclassMethod
    return .super (← occurrence t) method
  | .symbol .leftParen =>
    advance
    let inner ← ask .expression
    let _ ← expectSymbol .rightParen .afterExpression
    return .grouping inner
  | _ => missing .expression

/-- The assignment to an expression, if it can be assigned to. A bad target is reported once the
assigned value has been read, and stands for the whole. -/
def assignment (target : Expr) (equals : Token) (value : Expr) : Parse Expr := do
  match target with
  | .reference name => return .assign (← occurrence name.name) value
  | .get object property => return .set object property value
  | _ =>
    record equals .invalidAssignmentTarget
    return target

/-- Read an expression. -/
def expression : Parse (Step .expression) := do
  let target ← ask (.level .disjunction)
  let equals ← peek
  if equals.isSymbol .equal then
    advance
    let value ← ask .expression
    finish (← assignment target equals value)
  else
    finish target

/-- Read the remaining operators of a level; they group to the left. -/
def operators (l : Level) (left : Expr) : Parse (Step .expression) := do
  let operator ← peek
  if l.accepts operator then
    advance
    let right ← ask l.operand
    handOver (.operators l (l.combine left operator right))
  else
    finish left

/-- Read an expression with operators before it. -/
def unary : Parse (Step .expression) := do
  let operator ← peek
  if operator.isSymbol .bang || operator.isSymbol .minus then
    advance
    let right ← ask .unary
    finish (.unary operator right)
  else
    handOver .operand

/-- Note that a list is too long, if it is when the next item is read. -/
def checkArity (sort : ListSort) (before : Nat) : Parse Unit := do
  if maxArity ≤ before then
    record (← peek) (.tooMany sort)

/-- Read the remaining arguments of a call. -/
def arguments (before : Nat) : Parse (Step .expressions) := do
  checkArity .arguments before
  let e ← ask .expression
  if ← accept .comma then
    let es ← ask (.arguments (before + 1))
    finish (e :: es)
  else
    finish [e]

/-- Read the remaining calls and properties of an expression. -/
def suffixes (callee : Expr) : Parse (Step .expression) := do
  if ← accept .leftParen then
    let es ← if ← sees .rightParen then pure [] else ask (.arguments 0)
    let paren ← expectSymbol .rightParen (.afterList .arguments)
    handOver (.suffixes (.call callee paren es))
  else if ← accept .dot then
    let property ← expectName .propertyName
    handOver (.suffixes (.get callee property))
  else
    finish callee

/-! ### Declarations -/

/-- Read the remaining parameters of a function. -/
def parameters (before : Nat) : Parse (Step .names) := do
  checkArity .parameters before
  let name ← expectName .parameterName
  if ← accept .comma then
    let names ← ask (.parameters (before + 1))
    finish (name :: names)
  else
    finish [name]

/-- Read a function from its name on. -/
def function (sort : FunctionSort) : Parse (Step .function) := do
  let name ← expectName (.functionName sort)
  let _ ← expectSymbol .leftParen (.afterFunctionName sort)
  let params ← if ← sees .rightParen then pure [] else ask (.parameters 0)
  let _ ← expectSymbol .rightParen (.afterList .parameters)
  let _ ← expectSymbol .leftBrace (.beforeFunctionBody sort)
  let body ← ask .block
  finish ⟨name, params, body⟩

/-- Whether a braced list is over, at its brace or at the end of the input. -/
def atClosing : Parse Bool := do
  if ← sees .rightBrace then return true else atEnd

/-- Read methods up to a closing brace. -/
def methods : Parse (Step .functions) := do
  if ← atClosing then
    finish []
  else
    let d ← ask (.function .method)
    let ds ← ask .methods
    finish (d :: ds)

/-- Read a class from its name on. -/
def classDeclaration : Parse Stmt := do
  let name ← expectName .className
  let superclass ←
    if ← accept .less then
      let parent ← expectName .superclassName
      some <$> occurrence parent
    else
      pure none
  let _ ← expectSymbol .leftBrace .beforeClassBody
  let ds ← ask .methods
  let _ ← expectSymbol .rightBrace .afterClassBody
  return .classDecl name superclass ds

/-- Read a variable from its name on. -/
def varDeclaration : Parse Stmt := do
  let name ← expectName .variableName
  let initializer ← if ← accept .equal then some <$> ask .expression else pure none
  let _ ← expectSymbol .semicolon .afterVariable
  return .varDecl name initializer

/-- Read a declaration. -/
def declaration : Parse (Step .statement) := do
  match (← peek).kind with
  | .keyword .class_ =>
    advance
    finish (← classDeclaration)
  | .keyword .fun_ =>
    advance
    finish (.functionDecl (← ask (.function .function)))
  | .keyword .var_ =>
    advance
    finish (← varDeclaration)
  | _ => handOver .statement

/-! ### Statements -/

/-- Read the condition after a keyword. -/
def condition (k : Keyword) : Parse Expr := do
  let _ ← expectSymbol .leftParen (.afterKeyword k)
  let e ← ask .expression
  let _ ← expectSymbol .rightParen .afterCondition
  return e

/-- Read an expression, unless the given symbol is next. -/
def optionalExpression (terminator : Symbol) : Parse (Option Expr) := do
  if ← sees terminator then return none else some <$> ask .expression

/-- Read an expression and the semicolon behind it. -/
def expressionStatement : Parse Stmt := do
  let e ← ask .expression
  let _ ← expectSymbol .semicolon .afterExpression
  return .expression e

/-- The loop that stands for a `for` statement: the increment follows the body in a block of their
own, and the initializer and the loop are in a block around both. -/
def lowerFor (initializer : Option Stmt) (condition : Expr) (increment : Option Expr)
    (body : Stmt) : Stmt :=
  let body :=
    match increment with
    | some e => .block [body, .expression e]
    | none => body
  let loop : Stmt := .loop condition body
  match initializer with
  | some s => .block [s, loop]
  | none => loop

/-- Read a `for` statement from its parenthesis on. A missing condition is true. -/
def forStatement (keyword : Token) : Parse Stmt := do
  let _ ← expectSymbol .leftParen (.afterKeyword .for_)
  let initializer ←
    match (← peek).kind with
    | .symbol .semicolon =>
      advance
      pure none
    | .keyword .var_ =>
      advance
      some <$> varDeclaration
    | _ => some <$> expressionStatement
  let condition ← optionalExpression .semicolon
  let _ ← expectSymbol .semicolon .afterLoopCondition
  let increment ← optionalExpression .rightParen
  let _ ← expectSymbol .rightParen .afterForClauses
  let body ← ask .statement
  let condition := condition.getD (.literal (.boolean true) keyword.line)
  return lowerFor initializer condition increment body

/-- Read an `if` statement from its parenthesis on. -/
def ifStatement : Parse Stmt := do
  let e ← condition .if_
  let thenBranch ← ask .statement
  if (← peek).isKeyword .else_ then
    advance
    return .conditional e thenBranch (some (← ask .statement))
  else
    return .conditional e thenBranch none

/-- Read a statement. -/
def statement : Parse (Step .statement) := do
  let t ← peek
  match t.kind with
  | .keyword .for_ =>
    advance
    finish (← forStatement t)
  | .keyword .if_ =>
    advance
    finish (← ifStatement)
  | .keyword .print_ =>
    advance
    let e ← ask .expression
    let _ ← expectSymbol .semicolon .afterValue
    finish (.print e)
  | .keyword .return_ =>
    advance
    let e ← optionalExpression .semicolon
    let _ ← expectSymbol .semicolon .afterReturnValue
    finish (.ret t e)
  | .keyword .while_ =>
    advance
    let e ← condition .while_
    let body ← ask .statement
    finish (.loop e body)
  | .symbol .leftBrace =>
    advance
    finish (.block (← ask .block))
  | _ => finish (← expressionStatement)

/-- Read declarations up to a closing brace, and the brace. -/
def block : Parse (Step .statements) := do
  if ← atClosing then
    let _ ← expectSymbol .rightBrace .afterBlock
    finish []
  else
    let s ← ask .declaration
    let ss ← ask .block
    finish (s :: ss)

/-- Read the declarations that are left. One that fails is left out, and its error noted. -/
def program : Parse (Step .statements) := do
  if ← atEnd then
    finish []
  else
    let s ← tryCatch (some <$> ask .declaration) fun e => do
      record e.token e.cause
      modify Cursor.synchronize
      return none
    let ss ← ask .program
    finish (s.toList ++ ss)

/-- The treatment of every request. -/
def step : (p : Phrase) → Request p → Parse (Step p)
  | _, .program => program
  | _, .declaration => declaration
  | _, .statement => statement
  | _, .block => block
  | _, .methods => methods
  | _, .function sort => function sort
  | _, .parameters before => parameters before
  | _, .arguments before => arguments before
  | _, .expression => expression
  | _, .level l => do
    let left ← ask l.operand
    handOver (.operators l left)
  | _, .operators l left => operators l left
  | _, .unary => unary
  | _, .operand => do
    let e ← primary
    handOver (.suffixes e)
  | _, .suffixes callee => suffixes callee

end Lox.Parser
