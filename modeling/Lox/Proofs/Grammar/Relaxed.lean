import Lox.Proofs.Grammar.Derivation

/-!
# The relaxed grammar

Two rules of the grammar are kept by the parser without being enforced while it reads: what stands
to the left of an equals sign has to be a variable or a property, and lists between parentheses have
at most 255 items. The relaxed grammar has neither rule, and its derivations collect the violations
of both, in the order in which they come to light: that of a target once the value assigned has been
read, and that of the length of a list at each item too many, before the item.

All other rules are those of the grammar.

## Main definitions

* `Grammar.Relaxed`: the derivations of the relaxed grammar, with their violations.
* `Grammar.targetViolations`, `Grammar.overlong`: what is wrong with a target, and with a list.
-/

namespace Lox.Grammar

open Lox.Parser (Level)

/-- What is wrong with the target of an assignment, unless it is a variable or a property. -/
def targetViolations (target : Expr) (equal : Token) : List SyntaxError :=
  match target with
  | .reference _ | .get _ _ => []
  | _ => [⟨equal, .invalidAssignmentTarget⟩]

/-- The tree of an assignment; a bad target stands for the whole. -/
def assigned (target value : Expr) : Expr :=
  match target with
  | .reference name => .assign name value
  | .get object property => .set object property value
  | _ => target

/-- What is wrong with an item of a list after the given number of others. -/
def excess (sort : ListSort) (before : Nat) (first : Token) : List SyntaxError :=
  if longest ≤ before then [⟨first, .tooMany sort⟩] else []

/-- The violations in the items of a list after the given number of others. Of each item its first
token is given, and the violations in it. -/
def overlong (sort : ListSort) : Nat → List (Token × List SyntaxError) → List SyntaxError
  | _, [] => []
  | before, (first, found) :: items =>
    excess sort before first ++ (found ++ overlong sort (before + 1) items)

/-- What a derivation collects: the violations in the phrase, in order; in the items of a list they
are kept apart, with the first token of each item. -/
abbrev Nonterminal.Found : Nonterminal → Type
  | .names | .values => List (Token × List SyntaxError)
  | _ => List SyntaxError

/-- The derivations of the relaxed grammar: a list of tokens is read as a phrase, has a tree, and
contains violations. -/
inductive Relaxed : (n : Nonterminal) → List Token → n.Tree → n.Found → Prop
  -- program → declaration* END
  | program {ts : List Token} {eof : Token} {p : List Stmt} {es : List SyntaxError}
      (h : Relaxed .declarations ts p es) (isEnd : eof.kind.isEnd) :
      Relaxed .program (ts ++ [eof]) p es
  | noDeclarations : Relaxed .declarations [] [] []
  | declarations {ts us : List Token} {s : Stmt} {ss : List Stmt} {es es' : List SyntaxError}
      (h : Relaxed .declaration ts s es) (h' : Relaxed .declarations us ss es') :
      Relaxed .declarations (ts ++ us) (s :: ss) (es ++ es')
  -- declaration → "class" classDecl | "fun" function | "var" varDecl | statement
  | classDeclaration {t : Token} {ts : List Token} {s : Stmt} {es : List SyntaxError}
      (isClass : t.isKeyword .class_) (h : Relaxed .classDecl ts s es) :
      Relaxed .declaration (t :: ts) s es
  | functionDeclaration {t : Token} {ts : List Token} {d : FunctionDecl} {es : List SyntaxError}
      (isFun : t.isKeyword .fun_) (h : Relaxed .function ts d es) :
      Relaxed .declaration (t :: ts) (.functionDecl d) es
  | varDeclaration {t : Token} {ts : List Token} {s : Stmt} {es : List SyntaxError}
      (isVar : t.isKeyword .var_) (h : Relaxed .varDecl ts s es) :
      Relaxed .declaration (t :: ts) s es
  | statement {ts : List Token} {s : Stmt} {es : List SyntaxError}
      (h : Relaxed (.statement true) ts s es) : Relaxed .declaration ts s es
  -- classDecl → IDENT ( "<" IDENT )? "{" function* "}"
  | base {name opening closing : Token} {ts : List Token} {ds : List FunctionDecl}
      {es : List SyntaxError} (isName : name.kind = .identifier)
      (isOpening : opening.isSymbol .leftBrace) (h : Relaxed .functions ts ds es)
      (isClosing : closing.isSymbol .rightBrace) :
      Relaxed .classDecl (name :: opening :: (ts ++ [closing])) (.classDecl name none ds) es
  | derived {name less opening closing : Token} {parent : Occurrence} {ts : List Token}
      {ds : List FunctionDecl} {es : List SyntaxError} (isName : name.kind = .identifier)
      (isLess : less.isSymbol .less) (isParent : parent.name.kind = .identifier)
      (isOpening : opening.isSymbol .leftBrace) (h : Relaxed .functions ts ds es)
      (isClosing : closing.isSymbol .rightBrace) :
      Relaxed .classDecl (name :: less :: parent.name :: opening :: (ts ++ [closing]))
        (.classDecl name (some parent) ds) es
  | noFunctions : Relaxed .functions [] [] []
  | functions {ts us : List Token} {d : FunctionDecl} {ds : List FunctionDecl}
      {es es' : List SyntaxError} (h : Relaxed .function ts d es)
      (h' : Relaxed .functions us ds es') : Relaxed .functions (ts ++ us) (d :: ds) (es ++ es')
  -- function → IDENT "(" ( IDENT ( "," IDENT )* )? ")" "{" block
  | function {name left right opening closing : Token} {ts us params : List Token}
      {body : List Stmt} {es es' : List SyntaxError} (isName : name.kind = .identifier)
      (isLeft : left.isSymbol .leftParen) (h : Relaxed .parameters ts params es)
      (isRight : right.isSymbol .rightParen) (isOpening : opening.isSymbol .leftBrace)
      (h' : Relaxed .declarations us body es') (isClosing : closing.isSymbol .rightBrace) :
      Relaxed .function (name :: left :: (ts ++ right :: opening :: (us ++ [closing])))
        ⟨name, params, body⟩ (es ++ es')
  | noParameters : Relaxed .parameters [] [] []
  | parameters {ts params : List Token} {items : List (Token × List SyntaxError)}
      (h : Relaxed .names ts params items) :
      Relaxed .parameters ts params (overlong .parameters 0 items)
  | lastName {name : Token} (isName : name.kind = .identifier) :
      Relaxed .names [name] [name] [(name, [])]
  | names {name comma : Token} {ts params : List Token} {items : List (Token × List SyntaxError)}
      (isName : name.kind = .identifier) (isComma : comma.isSymbol .comma)
      (h : Relaxed .names ts params items) :
      Relaxed .names (name :: comma :: ts) (name :: params) ((name, []) :: items)
  -- varDecl → IDENT ( "=" expression )? ";"
  | declared {name semicolon : Token} (isName : name.kind = .identifier)
      (isSemicolon : semicolon.isSymbol .semicolon) :
      Relaxed .varDecl [name, semicolon] (.varDecl name none) []
  | initialized {name equal semicolon : Token} {ts : List Token} {e : Expr}
      {es : List SyntaxError} (isName : name.kind = .identifier) (isEqual : equal.isSymbol .equal)
      (h : Relaxed (.expression .whole) ts e es) (isSemicolon : semicolon.isSymbol .semicolon) :
      Relaxed .varDecl (name :: equal :: (ts ++ [semicolon])) (.varDecl name (some e)) es
  -- statement → "for" forStmt | "if" ifStmt | "print" expression ";"
  --           | "return" expression? ";" | "while" whileStmt | "{" block | expression ";"
  | forLoop {short : Bool} {t left semicolon right : Token} {ts us vs ws : List Token}
      {initializer : Option Stmt} {condition increment : Option Expr} {body : Stmt}
      {es es' es'' esBody : List SyntaxError} (isFor : t.isKeyword .for_)
      (isLeft : left.isSymbol .leftParen) (h : Relaxed .forInit ts initializer es)
      (h' : Relaxed .optional us condition es') (isSemicolon : semicolon.isSymbol .semicolon)
      (h'' : Relaxed .optional vs increment es'') (isRight : right.isSymbol .rightParen)
      (hBody : Relaxed (.statement short) ws body esBody) :
      Relaxed (.statement short)
        (t :: left :: (ts ++ (us ++ semicolon :: (vs ++ right :: ws))))
        (forLoop t initializer condition increment body) (es ++ (es' ++ (es'' ++ esBody)))
  | ifThen {t left right : Token} {ts us : List Token} {e : Expr} {thenBranch : Stmt}
      {es es' : List SyntaxError} (isIf : t.isKeyword .if_) (isLeft : left.isSymbol .leftParen)
      (h : Relaxed (.expression .whole) ts e es) (isRight : right.isSymbol .rightParen)
      (hThen : Relaxed (.statement true) us thenBranch es') :
      Relaxed (.statement true) (t :: left :: (ts ++ right :: us))
        (.conditional e thenBranch none) (es ++ es')
  | ifThenElse {short : Bool} {t left right otherwise : Token} {ts us vs : List Token} {e : Expr}
      {thenBranch elseBranch : Stmt} {es es' es'' : List SyntaxError} (isIf : t.isKeyword .if_)
      (isLeft : left.isSymbol .leftParen) (h : Relaxed (.expression .whole) ts e es)
      (isRight : right.isSymbol .rightParen) (hThen : Relaxed (.statement false) us thenBranch es')
      (isElse : otherwise.isKeyword .else_)
      (hElse : Relaxed (.statement short) vs elseBranch es'') :
      Relaxed (.statement short) (t :: left :: (ts ++ right :: (us ++ otherwise :: vs)))
        (.conditional e thenBranch (some elseBranch)) (es ++ (es' ++ es''))
  | print {short : Bool} {t semicolon : Token} {ts : List Token} {e : Expr}
      {es : List SyntaxError} (isPrint : t.isKeyword .print_)
      (h : Relaxed (.expression .whole) ts e es) (isSemicolon : semicolon.isSymbol .semicolon) :
      Relaxed (.statement short) (t :: (ts ++ [semicolon])) (.print e) es
  | returns {short : Bool} {t semicolon : Token} {ts : List Token} {e : Option Expr}
      {es : List SyntaxError} (isReturn : t.isKeyword .return_) (h : Relaxed .optional ts e es)
      (isSemicolon : semicolon.isSymbol .semicolon) :
      Relaxed (.statement short) (t :: (ts ++ [semicolon])) (.ret t e) es
  | whileLoop {short : Bool} {t left right : Token} {ts us : List Token} {e : Expr} {body : Stmt}
      {es es' : List SyntaxError} (isWhile : t.isKeyword .while_)
      (isLeft : left.isSymbol .leftParen) (h : Relaxed (.expression .whole) ts e es)
      (isRight : right.isSymbol .rightParen) (hBody : Relaxed (.statement short) us body es') :
      Relaxed (.statement short) (t :: left :: (ts ++ right :: us)) (.loop e body) (es ++ es')
  | block {short : Bool} {opening closing : Token} {ts : List Token} {body : List Stmt}
      {es : List SyntaxError} (isOpening : opening.isSymbol .leftBrace)
      (h : Relaxed .declarations ts body es) (isClosing : closing.isSymbol .rightBrace) :
      Relaxed (.statement short) (opening :: (ts ++ [closing])) (.block body) es
  | effect {short : Bool} {semicolon : Token} {ts : List Token} {e : Expr}
      {es : List SyntaxError} (h : Relaxed (.expression .whole) ts e es)
      (isSemicolon : semicolon.isSymbol .semicolon) :
      Relaxed (.statement short) (ts ++ [semicolon]) (.expression e) es
  | forNothing {semicolon : Token} (isSemicolon : semicolon.isSymbol .semicolon) :
      Relaxed .forInit [semicolon] none []
  | forVar {t : Token} {ts : List Token} {s : Stmt} {es : List SyntaxError}
      (isVar : t.isKeyword .var_) (h : Relaxed .varDecl ts s es) :
      Relaxed .forInit (t :: ts) (some s) es
  | forEffect {semicolon : Token} {ts : List Token} {e : Expr} {es : List SyntaxError}
      (h : Relaxed (.expression .whole) ts e es) (isSemicolon : semicolon.isSymbol .semicolon) :
      Relaxed .forInit (ts ++ [semicolon]) (some (.expression e)) es
  | absent : Relaxed .optional [] none []
  | present {ts : List Token} {e : Expr} {es : List SyntaxError}
      (h : Relaxed (.expression .whole) ts e es) : Relaxed .optional ts (some e) es
  -- expression → disjunction "=" expression | disjunction
  | assignment {equal : Token} {ts us : List Token} {target value : Expr}
      {es es' : List SyntaxError} (h : Relaxed (.expression (.level .disjunction)) ts target es)
      (isEqual : equal.isSymbol .equal) (h' : Relaxed (.expression .whole) us value es') :
      Relaxed (.expression .whole) (ts ++ equal :: us) (assigned target value)
        (es ++ (es' ++ targetViolations target equal))
  | value {ts : List Token} {e : Expr} {es : List SyntaxError}
      (h : Relaxed (.expression (.level .disjunction)) ts e es) :
      Relaxed (.expression .whole) ts e es
  -- level → operand ( operator operand )*
  | join {l : Level} {operator : Token} {ts us : List Token} {left right : Expr}
      {es es' : List SyntaxError} (h : Relaxed (.expression (.level l)) ts left es)
      (isOperator : operator.kind ∈ operators l)
      (h' : Relaxed (.expression (operand l)) us right es') :
      Relaxed (.expression (.level l)) (ts ++ operator :: us) (joined l left operator right)
        (es ++ es')
  | operand {l : Level} {ts : List Token} {e : Expr} {es : List SyntaxError}
      (h : Relaxed (.expression (operand l)) ts e es) : Relaxed (.expression (.level l)) ts e es
  -- unary → ( "!" | "-" ) unary | call
  | unary {operator : Token} {ts : List Token} {right : Expr} {es : List SyntaxError}
      (isOperator : operator.isSymbol .bang ∨ operator.isSymbol .minus)
      (h : Relaxed (.expression .unary) ts right es) :
      Relaxed (.expression .unary) (operator :: ts) (.unary operator right) es
  | callee {ts : List Token} {e : Expr} {es : List SyntaxError}
      (h : Relaxed (.expression .call) ts e es) : Relaxed (.expression .unary) ts e es
  -- call → primary ( "(" arguments? ")" | "." IDENT )*
  | call {left right : Token} {ts us : List Token} {callee : Expr} {args : List Expr}
      {es es' : List SyntaxError} (h : Relaxed (.expression .call) ts callee es)
      (isLeft : left.isSymbol .leftParen) (h' : Relaxed .arguments us args es')
      (isRight : right.isSymbol .rightParen) :
      Relaxed (.expression .call) (ts ++ left :: (us ++ [right])) (.call callee right args)
        (es ++ es')
  | get {dot property : Token} {ts : List Token} {object : Expr} {es : List SyntaxError}
      (h : Relaxed (.expression .call) ts object es) (isDot : dot.isSymbol .dot)
      (isProperty : property.kind = .identifier) :
      Relaxed (.expression .call) (ts ++ [dot, property]) (.get object property) es
  | primary {ts : List Token} {e : Expr} {es : List SyntaxError}
      (h : Relaxed (.expression .primary) ts e es) : Relaxed (.expression .call) ts e es
  | noArguments : Relaxed .arguments [] [] []
  | arguments {ts : List Token} {args : List Expr} {items : List (Token × List SyntaxError)}
      (h : Relaxed .values ts args items) :
      Relaxed .arguments ts args (overlong .arguments 0 items)
  | lastValue {first : Token} {ts : List Token} {e : Expr} {es : List SyntaxError}
      (h : Relaxed (.expression .whole) (first :: ts) e es) :
      Relaxed .values (first :: ts) [e] [(first, es)]
  | values {first comma : Token} {ts us : List Token} {e : Expr} {args : List Expr}
      {es : List SyntaxError} {items : List (Token × List SyntaxError)}
      (h : Relaxed (.expression .whole) (first :: ts) e es) (isComma : comma.isSymbol .comma)
      (h' : Relaxed .values us args items) :
      Relaxed .values (first :: ts ++ comma :: us) (e :: args) ((first, es) :: items)
  -- primary → NUMBER | STRING | "true" | "false" | "nil" | "this"
  --         | IDENT | "(" expression ")" | "super" "." IDENT
  | literal {t : Token} {value : Literal} (isLiteral : literal? t.kind = some value) :
      Relaxed (.expression .primary) [t] (.literal value t.line) []
  | this {keyword : Occurrence} (isThis : keyword.name.isKeyword .this_) :
      Relaxed (.expression .primary) [keyword.name] (.this keyword) []
  | reference {name : Occurrence} (isName : name.name.kind = .identifier) :
      Relaxed (.expression .primary) [name.name] (.reference name) []
  | grouping {left right : Token} {ts : List Token} {inner : Expr} {es : List SyntaxError}
      (isLeft : left.isSymbol .leftParen) (h : Relaxed (.expression .whole) ts inner es)
      (isRight : right.isSymbol .rightParen) :
      Relaxed (.expression .primary) (left :: (ts ++ [right])) (.grouping inner) es
  | super {keyword : Occurrence} {dot method : Token} (isSuper : keyword.name.isKeyword .super_)
      (isDot : dot.isSymbol .dot) (isMethod : method.kind = .identifier) :
      Relaxed (.expression .primary) [keyword.name, dot, method] (.super keyword method) []

end Lox.Grammar
