import Lox.Proofs.Grammar.Relaxed
import Lox.Tree.Parser.Grammar

/-!
# How phrases start and stop

A parser that looks one token ahead can read a grammar if the first token of a phrase tells which
rule to apply, and the token behind a phrase tells that it is over.

## Main definitions

* `TokenKind.startsOperand`, `TokenKind.startsExpression`, `TokenKind.startsStatement`,
  `TokenKind.startsDeclaration`: the kinds of tokens that such phrases start with.
* `TokenKind.strength`: how tight a token binds the expression before it.

## Main results

* `Grammar.Relaxed.starts`: the first tokens of phrases.
-/

namespace Lox

namespace TokenKind

/-- The first tokens of operands. -/
def startsOperand : TokenKind → Bool
  | .keyword .false_ | .keyword .true_ | .keyword .nil_ | .keyword .this_ | .keyword .super_ => true
  | .symbol .leftParen | .identifier | .string _ | .number _ => true
  | _ => false

/-- The first tokens of expressions. -/
def startsExpression : TokenKind → Bool
  | .symbol .bang | .symbol .minus => true
  | kind => kind.startsOperand

/-- The first tokens of statements. -/
def startsStatement : TokenKind → Bool
  | .keyword .for_ | .keyword .if_ | .keyword .print_ | .keyword .return_ | .keyword .while_ => true
  | .symbol .leftBrace => true
  | kind => kind.startsExpression

/-- The first tokens of declarations. -/
def startsDeclaration : TokenKind → Bool
  | .keyword .class_ | .keyword .fun_ | .keyword .var_ => true
  | kind => kind.startsStatement

/-- How tight a token binds the expression before it: an operator has the rank of its level, and a
token that cannot go on with an expression binds least. -/
def strength : TokenKind → Nat
  | .symbol .leftParen | .symbol .dot => 1
  | .symbol .slash | .symbol .star => 2
  | .symbol .minus | .symbol .plus => 3
  | .symbol .greater | .symbol .greaterEqual | .symbol .less | .symbol .lessEqual => 4
  | .symbol .bangEqual | .symbol .equalEqual => 5
  | .keyword .and_ => 6
  | .keyword .or_ => 7
  | .symbol .equal => 8
  | _ => 9

theorem startsExpression_of_startsOperand {kind : TokenKind} (h : kind.startsOperand = true) :
    kind.startsExpression = true := by
  cases kind with
  | symbol s => cases s <;> first | rfl | cases h
  | keyword k => cases k <;> first | rfl | cases h
  | _ => exact h

theorem startsStatement_of_startsExpression {kind : TokenKind}
    (h : kind.startsExpression = true) : kind.startsStatement = true := by
  cases kind with
  | symbol s => cases s <;> first | rfl | cases h
  | keyword k => cases k <;> first | rfl | cases h
  | _ => exact h

theorem startsDeclaration_of_startsStatement {kind : TokenKind}
    (h : kind.startsStatement = true) : kind.startsDeclaration = true := by
  cases kind with
  | symbol s => cases s <;> first | rfl | cases h
  | keyword k => cases k <;> first | rfl | cases h
  | _ => exact h

end TokenKind

namespace Grammar

/-- What the first token of a phrase is known to be; phrases that may be empty start with any. -/
def Nonterminal.starts : Nonterminal → TokenKind → Prop
  | .declaration, kind => kind.startsDeclaration = true
  | .statement _, kind => kind.startsStatement = true
  | .function, kind | .names, kind => kind = .identifier
  | .values, kind => kind.startsExpression = true
  | .expression .call, kind | .expression .primary, kind => kind.startsOperand = true
  | .expression _, kind => kind.startsExpression = true
  | _, _ => True

/-- Whether a phrase of the sort has a first token. -/
def Nonterminal.nonempty : Nonterminal → Bool
  | .program | .declarations | .functions | .parameters | .optional | .arguments => false
  | _ => true

theorem startsOperand_of_literal? {kind : TokenKind} {value : Literal}
    (h : literal? kind = some value) : kind.startsOperand = true := by
  cases kind with
  | keyword k => cases k <;> first | rfl | cases h
  | _ => first | rfl | cases h

/-- A phrase that is not empty starts with one of the tokens of its sort. -/
theorem Relaxed.starts {n : Nonterminal} {ts : List Token} {tree : n.Tree} {found : n.Found}
    (h : Relaxed n ts tree found) (nonempty : n.nonempty = true) :
    ∃ t us, ts = t :: us ∧ n.starts t.kind := by
  induction h with
  | program | noDeclarations | declarations | noFunctions | functions | noParameters | parameters
  | absent | present | noArguments | arguments => cases nonempty
  | base | derived | declared | initialized => exact ⟨_, _, rfl, trivial⟩
  | forNothing | forVar => exact ⟨_, _, rfl, trivial⟩
  | lastName isName | names isName | function isName => exact ⟨_, _, rfl, isName⟩
  | classDeclaration isKeyword | functionDeclaration isKeyword | varDeclaration isKeyword =>
    have isKind := Token.isKeyword_iff.1 isKeyword
    exact ⟨_, _, rfl, congrArg TokenKind.startsDeclaration isKind⟩
  | forLoop isKeyword | ifThen isKeyword | ifThenElse isKeyword | print isKeyword
  | returns isKeyword | whileLoop isKeyword =>
    have isKind := Token.isKeyword_iff.1 isKeyword
    exact ⟨_, _, rfl, congrArg TokenKind.startsStatement isKind⟩
  | block isOpening =>
    have isKind := Token.isSymbol_iff.1 isOpening
    exact ⟨_, _, rfl, congrArg TokenKind.startsStatement isKind⟩
  | statement h ih =>
    obtain ⟨t, us, rfl, starts⟩ := ih rfl
    exact ⟨t, us, rfl, TokenKind.startsDeclaration_of_startsStatement starts⟩
  | effect h isSemicolon ih =>
    obtain ⟨t, us, rfl, starts⟩ := ih rfl
    exact ⟨t, _, rfl, TokenKind.startsStatement_of_startsExpression starts⟩
  | forEffect h isSemicolon ih =>
    obtain ⟨t, us, rfl, starts⟩ := ih rfl
    exact ⟨t, _, rfl, trivial⟩
  | assignment h isEqual h' ih ih' =>
    obtain ⟨t, us, rfl, starts⟩ := ih rfl
    exact ⟨t, _, rfl, starts⟩
  | value h ih => exact ih rfl
  | join h isOperator h' ih ih' =>
    obtain ⟨t, us, rfl, starts⟩ := ih rfl
    exact ⟨t, _, rfl, starts⟩
  | @operand l ts e es h ih => cases l <;> exact ih rfl
  | unary isOperator h ih =>
    refine ⟨_, _, rfl, ?_⟩
    rcases isOperator with isBang | isMinus
    · exact congrArg TokenKind.startsExpression (Token.isSymbol_iff.1 isBang)
    · exact congrArg TokenKind.startsExpression (Token.isSymbol_iff.1 isMinus)
  | callee h ih =>
    obtain ⟨t, us, rfl, starts⟩ := ih rfl
    exact ⟨t, us, rfl, TokenKind.startsExpression_of_startsOperand starts⟩
  | call h isLeft h' isRight ih ih' =>
    obtain ⟨t, us, rfl, starts⟩ := ih rfl
    exact ⟨t, _, rfl, starts⟩
  | get h isDot isProperty ih =>
    obtain ⟨t, us, rfl, starts⟩ := ih rfl
    exact ⟨t, _, rfl, starts⟩
  | primary h ih => exact ih rfl
  | lastValue h ih => exact ih rfl
  | values h isComma h' ih ih' =>
    obtain ⟨t, us, isFirst, starts⟩ := ih rfl
    cases isFirst
    exact ⟨_, _, rfl, starts⟩
  | literal isLiteral => exact ⟨_, _, rfl, startsOperand_of_literal? isLiteral⟩
  | this isKeyword | super isKeyword =>
    have isKind := Token.isKeyword_iff.1 isKeyword
    exact ⟨_, _, rfl, congrArg TokenKind.startsOperand isKind⟩
  | reference isName => exact ⟨_, _, rfl, congrArg TokenKind.startsOperand isName⟩
  | grouping isLeft =>
    have isKind := Token.isSymbol_iff.1 isLeft
    exact ⟨_, _, rfl, congrArg TokenKind.startsOperand isKind⟩

end Grammar

end Lox
