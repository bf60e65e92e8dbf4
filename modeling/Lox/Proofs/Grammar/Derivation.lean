import Lox.Tree.Parser.Cursor

/-!
# The grammar of the language

A derivation reads a list of tokens as a phrase and gives it a tree. The rules are those of the
grammar, with three things made explicit:

* binary operators group to the left, by rules that recur on the left, and the tree of an operand is
  that of the next tighter level;
* a statement that is not `short` does not end in an `if` without `else`. The branch before an
  `else` is such a statement, so that each `else` belongs to the nearest `if`;
* lists between parentheses have at most 255 items.

The numbers of occurrences are no matter of the grammar: a derivation may number them as it likes.

## Main definitions

* `Grammar.Nonterminal`: the sorts of phrases, with the types of their trees.
* `Grammar.Derives`: the derivations.
* `Expr.unnumbered`, `Stmt.unnumbered`, `FunctionDecl.unnumbered`: trees without the numbers of
  their occurrences.
-/

namespace Lox

/-! ### Kinds of tokens -/

namespace Token

variable {t : Token} {s : Symbol} {k : Keyword}

theorem isSymbol_iff : t.isSymbol s = true ↔ t.kind = .symbol s := by
  obtain ⟨kind, lexeme, line⟩ := t
  cases kind <;> simp [isSymbol]

theorem isKeyword_iff : t.isKeyword k = true ↔ t.kind = .keyword k := by
  obtain ⟨kind, lexeme, line⟩ := t
  cases kind <;> simp [isKeyword]

end Token

/-! ### Trees up to numbers -/

/-- An occurrence without its number. -/
def Occurrence.unnumbered (o : Occurrence) : Occurrence :=
  ⟨0, o.name⟩

mutual

/-- An expression without the numbers of its occurrences. -/
def Expr.unnumbered : Expr → Expr
  | .literal value line => .literal value line
  | .grouping inner => .grouping inner.unnumbered
  | .unary operator right => .unary operator right.unnumbered
  | .binary left operator right => .binary left.unnumbered operator right.unnumbered
  | .logical left operator right => .logical left.unnumbered operator right.unnumbered
  | .reference name => .reference name.unnumbered
  | .assign name value => .assign name.unnumbered value.unnumbered
  | .call callee paren arguments =>
    .call callee.unnumbered paren (Expr.unnumberedList arguments)
  | .get object property => .get object.unnumbered property
  | .set object property value => .set object.unnumbered property value.unnumbered
  | .this keyword => .this keyword.unnumbered
  | .super keyword method => .super keyword.unnumbered method

/-- Expressions without the numbers of their occurrences. -/
def Expr.unnumberedList : List Expr → List Expr
  | [] => []
  | e :: es => e.unnumbered :: Expr.unnumberedList es

end

mutual

/-- A statement without the numbers of its occurrences. -/
def Stmt.unnumbered : Stmt → Stmt
  | .block body => .block (Stmt.unnumberedList body)
  | .classDecl name superclass methods =>
    .classDecl name (superclass.map Occurrence.unnumbered) (FunctionDecl.unnumberedList methods)
  | .expression value => .expression value.unnumbered
  | .functionDecl declaration => .functionDecl declaration.unnumbered
  | .conditional condition thenBranch elseBranch =>
    .conditional condition.unnumbered thenBranch.unnumbered (Stmt.unnumberedOption elseBranch)
  | .print value => .print value.unnumbered
  | .ret keyword value => .ret keyword (value.map Expr.unnumbered)
  | .varDecl name initializer => .varDecl name (initializer.map Expr.unnumbered)
  | .loop condition body => .loop condition.unnumbered body.unnumbered

/-- Statements without the numbers of their occurrences. -/
def Stmt.unnumberedList : List Stmt → List Stmt
  | [] => []
  | s :: ss => s.unnumbered :: Stmt.unnumberedList ss

/-- An optional statement without the numbers of its occurrences. -/
def Stmt.unnumberedOption : Option Stmt → Option Stmt
  | none => none
  | some s => some s.unnumbered

/-- A function without the numbers of its occurrences. -/
def FunctionDecl.unnumbered : FunctionDecl → FunctionDecl
  | ⟨name, params, body⟩ => ⟨name, params, Stmt.unnumberedList body⟩

/-- Functions without the numbers of their occurrences. -/
def FunctionDecl.unnumberedList : List FunctionDecl → List FunctionDecl
  | [] => []
  | d :: ds => d.unnumbered :: FunctionDecl.unnumberedList ds

end

namespace Grammar

open Lox.Parser (Level)

/-! ### Operators -/

/-- The operators of a level. -/
def operators : Level → List TokenKind
  | .disjunction => [.keyword .or_]
  | .conjunction => [.keyword .and_]
  | .equality => [.symbol .bangEqual, .symbol .equalEqual]
  | .comparison =>
    [.symbol .greater, .symbol .greaterEqual, .symbol .less, .symbol .lessEqual]
  | .term => [.symbol .minus, .symbol .plus]
  | .factor => [.symbol .slash, .symbol .star]

/-- The tree of two operands that an operator of the level joins. -/
def joined (l : Level) (left : Expr) (operator : Token) (right : Expr) : Expr :=
  match l with
  | .disjunction | .conjunction => .logical left operator right
  | .equality | .comparison | .term | .factor => .binary left operator right

/-- The constant that a kind of tokens stands for. -/
def literal? : TokenKind → Option Literal
  | .keyword .false_ => some (.boolean false)
  | .keyword .true_ => some (.boolean true)
  | .keyword .nil_ => some .nil
  | .number x => some (.number x)
  | .string s => some (.string s)
  | _ => none

/-- What a `for` statement stands for: a loop whose body is followed by the increment, behind the
initializer in a block of their own. A missing condition is true. -/
def forLoop (keyword : Token) (initializer : Option Stmt) (condition increment : Option Expr)
    (body : Stmt) : Stmt :=
  let round : Stmt := increment.elim body fun e => .block [body, .expression e]
  let loop : Stmt := .loop (condition.getD (.literal (.boolean true) keyword.line)) round
  initializer.elim loop fun s => .block [s, loop]

/-! ### Derivations -/

/-- The sorts of expressions, from the loosest to the tightest. -/
inductive Tier where
  /-- Every expression, assignments included. -/
  | whole
  /-- Operands joined by operators of a level or of tighter ones. -/
  | level (l : Level)
  | unary
  | call
  | primary

/-- The operands of a level. -/
def operand : Level → Tier
  | .disjunction => .level .conjunction
  | .conjunction => .level .equality
  | .equality => .level .comparison
  | .comparison => .level .term
  | .term => .level .factor
  | .factor => .unary

/-- The sorts of phrases. -/
inductive Nonterminal where
  | program
  /-- Any number of declarations. -/
  | declarations
  | declaration
  | classDecl
  /-- Any number of methods. -/
  | functions
  | function
  /-- The parameters of a function, of which there may be none. -/
  | parameters
  | names
  | varDecl
  /-- A statement; unless it is `short`, it does not end in an `if` without `else`. -/
  | statement (short : Bool)
  | forInit
  /-- An expression, or nothing. -/
  | optional
  /-- The arguments of a call, of which there may be none. -/
  | arguments
  | values
  | expression (tier : Tier)

/-- The trees of a sort of phrases. -/
abbrev Nonterminal.Tree : Nonterminal → Type
  | .program | .declarations => List Stmt
  | .declaration | .classDecl | .varDecl | .statement _ => Stmt
  | .functions => List FunctionDecl
  | .function => FunctionDecl
  | .parameters | .names => List Token
  | .forInit => Option Stmt
  | .optional => Option Expr
  | .arguments | .values => List Expr
  | .expression _ => Expr

/-- The most items that a list between parentheses may have. -/
def longest : Nat :=
  255

/-- The derivations: a list of tokens is read as a phrase and has a tree. -/
inductive Derives : (n : Nonterminal) → List Token → n.Tree → Prop
  -- program → declaration* END
  | program {ts : List Token} {eof : Token} {p : List Stmt} (h : Derives .declarations ts p)
      (isEnd : eof.kind.isEnd) : Derives .program (ts ++ [eof]) p
  | noDeclarations : Derives .declarations [] []
  | declarations {ts us : List Token} {s : Stmt} {ss : List Stmt} (h : Derives .declaration ts s)
      (h' : Derives .declarations us ss) : Derives .declarations (ts ++ us) (s :: ss)
  -- declaration → "class" classDecl | "fun" function | "var" varDecl | statement
  | classDeclaration {t : Token} {ts : List Token} {s : Stmt} (isClass : t.isKeyword .class_)
      (h : Derives .classDecl ts s) : Derives .declaration (t :: ts) s
  | functionDeclaration {t : Token} {ts : List Token} {d : FunctionDecl} (isFun : t.isKeyword .fun_)
      (h : Derives .function ts d) : Derives .declaration (t :: ts) (.functionDecl d)
  | varDeclaration {t : Token} {ts : List Token} {s : Stmt} (isVar : t.isKeyword .var_)
      (h : Derives .varDecl ts s) : Derives .declaration (t :: ts) s
  | statement {ts : List Token} {s : Stmt} (h : Derives (.statement true) ts s) :
      Derives .declaration ts s
  -- classDecl → IDENT ( "<" IDENT )? "{" function* "}"
  | base {name opening closing : Token} {ts : List Token} {ds : List FunctionDecl}
      (isName : name.kind = .identifier) (isOpening : opening.isSymbol .leftBrace)
      (h : Derives .functions ts ds) (isClosing : closing.isSymbol .rightBrace) :
      Derives .classDecl (name :: opening :: (ts ++ [closing])) (.classDecl name none ds)
  | derived {name less opening closing : Token} {parent : Occurrence} {ts : List Token}
      {ds : List FunctionDecl} (isName : name.kind = .identifier) (isLess : less.isSymbol .less)
      (isParent : parent.name.kind = .identifier) (isOpening : opening.isSymbol .leftBrace)
      (h : Derives .functions ts ds) (isClosing : closing.isSymbol .rightBrace) :
      Derives .classDecl (name :: less :: parent.name :: opening :: (ts ++ [closing]))
        (.classDecl name (some parent) ds)
  | noFunctions : Derives .functions [] []
  | functions {ts us : List Token} {d : FunctionDecl} {ds : List FunctionDecl}
      (h : Derives .function ts d) (h' : Derives .functions us ds) :
      Derives .functions (ts ++ us) (d :: ds)
  -- function → IDENT "(" ( IDENT ( "," IDENT )* )? ")" "{" block
  | function {name left right opening closing : Token} {ts us params : List Token}
      {body : List Stmt} (isName : name.kind = .identifier) (isLeft : left.isSymbol .leftParen)
      (h : Derives .parameters ts params) (isRight : right.isSymbol .rightParen)
      (isOpening : opening.isSymbol .leftBrace) (h' : Derives .declarations us body)
      (isClosing : closing.isSymbol .rightBrace) :
      Derives .function (name :: left :: (ts ++ right :: opening :: (us ++ [closing])))
        ⟨name, params, body⟩
  | noParameters : Derives .parameters [] []
  | parameters {ts params : List Token} (h : Derives .names ts params)
      (atMost : params.length ≤ longest) : Derives .parameters ts params
  | lastName {name : Token} (isName : name.kind = .identifier) : Derives .names [name] [name]
  | names {name comma : Token} {ts params : List Token} (isName : name.kind = .identifier)
      (isComma : comma.isSymbol .comma) (h : Derives .names ts params) :
      Derives .names (name :: comma :: ts) (name :: params)
  -- varDecl → IDENT ( "=" expression )? ";"
  | declared {name semicolon : Token} (isName : name.kind = .identifier)
      (isSemicolon : semicolon.isSymbol .semicolon) :
      Derives .varDecl [name, semicolon] (.varDecl name none)
  | initialized {name equal semicolon : Token} {ts : List Token} {e : Expr}
      (isName : name.kind = .identifier) (isEqual : equal.isSymbol .equal)
      (h : Derives (.expression .whole) ts e) (isSemicolon : semicolon.isSymbol .semicolon) :
      Derives .varDecl (name :: equal :: (ts ++ [semicolon])) (.varDecl name (some e))
  -- statement → "for" forStmt | "if" ifStmt | "print" expression ";"
  --           | "return" expression? ";" | "while" whileStmt | "{" block | expression ";"
  | forLoop {short : Bool} {t left semicolon right : Token} {ts us vs ws : List Token}
      {initializer : Option Stmt} {condition increment : Option Expr} {body : Stmt}
      (isFor : t.isKeyword .for_) (isLeft : left.isSymbol .leftParen)
      (h : Derives .forInit ts initializer) (h' : Derives .optional us condition)
      (isSemicolon : semicolon.isSymbol .semicolon) (h'' : Derives .optional vs increment)
      (isRight : right.isSymbol .rightParen) (hBody : Derives (.statement short) ws body) :
      Derives (.statement short)
        (t :: left :: (ts ++ (us ++ semicolon :: (vs ++ right :: ws))))
        (forLoop t initializer condition increment body)
  | ifThen {t left right : Token} {ts us : List Token} {e : Expr} {thenBranch : Stmt}
      (isIf : t.isKeyword .if_) (isLeft : left.isSymbol .leftParen)
      (h : Derives (.expression .whole) ts e) (isRight : right.isSymbol .rightParen)
      (hThen : Derives (.statement true) us thenBranch) :
      Derives (.statement true) (t :: left :: (ts ++ right :: us))
        (.conditional e thenBranch none)
  | ifThenElse {short : Bool} {t left right otherwise : Token} {ts us vs : List Token} {e : Expr}
      {thenBranch elseBranch : Stmt} (isIf : t.isKeyword .if_) (isLeft : left.isSymbol .leftParen)
      (h : Derives (.expression .whole) ts e) (isRight : right.isSymbol .rightParen)
      (hThen : Derives (.statement false) us thenBranch) (isElse : otherwise.isKeyword .else_)
      (hElse : Derives (.statement short) vs elseBranch) :
      Derives (.statement short) (t :: left :: (ts ++ right :: (us ++ otherwise :: vs)))
        (.conditional e thenBranch (some elseBranch))
  | print {short : Bool} {t semicolon : Token} {ts : List Token} {e : Expr}
      (isPrint : t.isKeyword .print_) (h : Derives (.expression .whole) ts e)
      (isSemicolon : semicolon.isSymbol .semicolon) :
      Derives (.statement short) (t :: (ts ++ [semicolon])) (.print e)
  | returns {short : Bool} {t semicolon : Token} {ts : List Token} {e : Option Expr}
      (isReturn : t.isKeyword .return_) (h : Derives .optional ts e)
      (isSemicolon : semicolon.isSymbol .semicolon) :
      Derives (.statement short) (t :: (ts ++ [semicolon])) (.ret t e)
  | whileLoop {short : Bool} {t left right : Token} {ts us : List Token} {e : Expr} {body : Stmt}
      (isWhile : t.isKeyword .while_) (isLeft : left.isSymbol .leftParen)
      (h : Derives (.expression .whole) ts e) (isRight : right.isSymbol .rightParen)
      (hBody : Derives (.statement short) us body) :
      Derives (.statement short) (t :: left :: (ts ++ right :: us)) (.loop e body)
  | block {short : Bool} {opening closing : Token} {ts : List Token} {body : List Stmt}
      (isOpening : opening.isSymbol .leftBrace) (h : Derives .declarations ts body)
      (isClosing : closing.isSymbol .rightBrace) :
      Derives (.statement short) (opening :: (ts ++ [closing])) (.block body)
  | effect {short : Bool} {semicolon : Token} {ts : List Token} {e : Expr}
      (h : Derives (.expression .whole) ts e) (isSemicolon : semicolon.isSymbol .semicolon) :
      Derives (.statement short) (ts ++ [semicolon]) (.expression e)
  | forNothing {semicolon : Token} (isSemicolon : semicolon.isSymbol .semicolon) :
      Derives .forInit [semicolon] none
  | forVar {t : Token} {ts : List Token} {s : Stmt} (isVar : t.isKeyword .var_)
      (h : Derives .varDecl ts s) : Derives .forInit (t :: ts) (some s)
  | forEffect {semicolon : Token} {ts : List Token} {e : Expr}
      (h : Derives (.expression .whole) ts e) (isSemicolon : semicolon.isSymbol .semicolon) :
      Derives .forInit (ts ++ [semicolon]) (some (.expression e))
  | absent : Derives .optional [] none
  | present {ts : List Token} {e : Expr} (h : Derives (.expression .whole) ts e) :
      Derives .optional ts (some e)
  -- expression → ( call "." )? IDENT "=" expression | disjunction
  | assign {name : Occurrence} {equal : Token} {ts : List Token} {value : Expr}
      (isName : name.name.kind = .identifier) (isEqual : equal.isSymbol .equal)
      (h : Derives (.expression .whole) ts value) :
      Derives (.expression .whole) (name.name :: equal :: ts) (.assign name value)
  | set {dot property equal : Token} {ts us : List Token} {object value : Expr}
      (h : Derives (.expression .call) ts object) (isDot : dot.isSymbol .dot)
      (isProperty : property.kind = .identifier) (isEqual : equal.isSymbol .equal)
      (h' : Derives (.expression .whole) us value) :
      Derives (.expression .whole) (ts ++ dot :: property :: equal :: us)
        (.set object property value)
  | value {ts : List Token} {e : Expr} (h : Derives (.expression (.level .disjunction)) ts e) :
      Derives (.expression .whole) ts e
  -- level → operand ( operator operand )*
  | join {l : Level} {operator : Token} {ts us : List Token} {left right : Expr}
      (h : Derives (.expression (.level l)) ts left) (isOperator : operator.kind ∈ operators l)
      (h' : Derives (.expression (operand l)) us right) :
      Derives (.expression (.level l)) (ts ++ operator :: us) (joined l left operator right)
  | operand {l : Level} {ts : List Token} {e : Expr} (h : Derives (.expression (operand l)) ts e) :
      Derives (.expression (.level l)) ts e
  -- unary → ( "!" | "-" ) unary | call
  | unary {operator : Token} {ts : List Token} {right : Expr}
      (isOperator : operator.isSymbol .bang ∨ operator.isSymbol .minus)
      (h : Derives (.expression .unary) ts right) :
      Derives (.expression .unary) (operator :: ts) (.unary operator right)
  | callee {ts : List Token} {e : Expr} (h : Derives (.expression .call) ts e) :
      Derives (.expression .unary) ts e
  -- call → primary ( "(" arguments? ")" | "." IDENT )*
  | call {left right : Token} {ts us : List Token} {callee : Expr} {es : List Expr}
      (h : Derives (.expression .call) ts callee) (isLeft : left.isSymbol .leftParen)
      (h' : Derives .arguments us es) (isRight : right.isSymbol .rightParen) :
      Derives (.expression .call) (ts ++ left :: (us ++ [right])) (.call callee right es)
  | get {dot property : Token} {ts : List Token} {object : Expr}
      (h : Derives (.expression .call) ts object) (isDot : dot.isSymbol .dot)
      (isProperty : property.kind = .identifier) :
      Derives (.expression .call) (ts ++ [dot, property]) (.get object property)
  | primary {ts : List Token} {e : Expr} (h : Derives (.expression .primary) ts e) :
      Derives (.expression .call) ts e
  | noArguments : Derives .arguments [] []
  | arguments {ts : List Token} {es : List Expr} (h : Derives .values ts es)
      (atMost : es.length ≤ longest) : Derives .arguments ts es
  | lastValue {ts : List Token} {e : Expr} (h : Derives (.expression .whole) ts e) :
      Derives .values ts [e]
  | values {comma : Token} {ts us : List Token} {e : Expr} {es : List Expr}
      (h : Derives (.expression .whole) ts e) (isComma : comma.isSymbol .comma)
      (h' : Derives .values us es) : Derives .values (ts ++ comma :: us) (e :: es)
  -- primary → NUMBER | STRING | "true" | "false" | "nil" | "this"
  --         | IDENT | "(" expression ")" | "super" "." IDENT
  | literal {t : Token} {value : Literal} (isLiteral : literal? t.kind = some value) :
      Derives (.expression .primary) [t] (.literal value t.line)
  | this {keyword : Occurrence} (isThis : keyword.name.isKeyword .this_) :
      Derives (.expression .primary) [keyword.name] (.this keyword)
  | reference {name : Occurrence} (isName : name.name.kind = .identifier) :
      Derives (.expression .primary) [name.name] (.reference name)
  | grouping {left right : Token} {ts : List Token} {inner : Expr}
      (isLeft : left.isSymbol .leftParen) (h : Derives (.expression .whole) ts inner)
      (isRight : right.isSymbol .rightParen) :
      Derives (.expression .primary) (left :: (ts ++ [right])) (.grouping inner)
  | super {keyword : Occurrence} {dot method : Token} (isSuper : keyword.name.isKeyword .super_)
      (isDot : dot.isSymbol .dot) (isMethod : method.kind = .identifier) :
      Derives (.expression .primary) [keyword.name, dot, method] (.super keyword method)

end Grammar

end Lox
