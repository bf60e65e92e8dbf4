import Lox.Proofs.Grammar.Start

/-!
# The grammar within the relaxed grammar

A derivation of the grammar is one of the relaxed grammar in which no violations are collected: its
targets are variables and properties, and its lists are not too long.

## Main definitions

* `Grammar.Nonterminal.Clean`: no violations were collected.

## Main results

* `Grammar.Derives.exists_relaxed`: what the grammar derives, the relaxed grammar derives without
  violations.
-/

namespace Lox.Grammar

open Lox.Parser (Level)

/-- An operand is an expression of every level. -/
theorem Relaxed.of_call {ts : List Token} {e : Expr} {es : List SyntaxError}
    (h : Relaxed (.expression .call) ts e es) (l : Level) :
    Relaxed (.expression (.level l)) ts e es := by
  have factor : Relaxed (.expression (.level .factor)) ts e es := .operand (.callee h)
  have term : Relaxed (.expression (.level .term)) ts e es := .operand factor
  have comparison : Relaxed (.expression (.level .comparison)) ts e es := .operand term
  have equality : Relaxed (.expression (.level .equality)) ts e es := .operand comparison
  have conjunction : Relaxed (.expression (.level .conjunction)) ts e es := .operand equality
  cases l <;> first | assumption | exact .operand conjunction

/-- No violations were collected. -/
def Nonterminal.Clean : (n : Nonterminal) → n.Tree → n.Found → Prop
  | .names, params, items => items.length = params.length ∧ ∀ item ∈ items, item.2 = []
  | .values, args, items => items.length = args.length ∧ ∀ item ∈ items, item.2 = []
  | .program, _, found | .declarations, _, found | .declaration, _, found | .classDecl, _, found
  | .functions, _, found | .function, _, found | .parameters, _, found | .varDecl, _, found
  | .statement _, _, found | .forInit, _, found | .optional, _, found | .arguments, _, found
  | .expression _, _, found => found = []

/-- If nothing is wrong inside the items, one error is at the first token of each that is too
many. -/
theorem overlong_of_clean {sort : ListSort} {items : List (Token × List SyntaxError)} {before : Nat}
    (clean : ∀ item ∈ items, item.2 = []) :
    overlong sort before items =
      (items.drop (longest - before)).map fun item => ⟨item.1, .tooMany sort⟩ := by
  induction items generalizing before with
  | nil => rw [List.drop_nil, List.map_nil, overlong]
  | cons item items ih =>
    rw [overlong, excess, clean item List.mem_cons_self, List.nil_append,
      ih fun item mem => clean item (List.mem_cons_of_mem _ mem)]
    by_cases many : longest ≤ before
    · rw [if_pos many, Nat.sub_eq_zero_of_le many, Nat.sub_eq_zero_of_le (Nat.le_succ_of_le many)]
      rfl
    · rw [if_neg many, show longest - before = (longest - (before + 1)) + 1 by omega]
      rfl

theorem overlong_eq_nil {sort : ListSort} {items : List (Token × List SyntaxError)}
    (clean : ∀ item ∈ items, item.2 = []) (atMost : items.length ≤ longest) :
    overlong sort 0 items = [] := by
  rw [overlong_of_clean clean, Nat.sub_zero, List.drop_eq_nil_of_le atMost, List.map_nil]

/-- What the grammar derives, the relaxed grammar derives without violations. -/
theorem Derives.exists_relaxed {n : Nonterminal} {ts : List Token} {tree : n.Tree}
    (h : Derives n ts tree) : ∃ found, Relaxed n ts tree found ∧ n.Clean tree found := by
  induction h with
  | program h isEnd ih =>
    obtain ⟨_, r, rfl⟩ := ih
    exact ⟨_, .program r isEnd, rfl⟩
  | noDeclarations => exact ⟨_, .noDeclarations, rfl⟩
  | declarations h h' ih ih' =>
    obtain ⟨⟨_, r, rfl⟩, ⟨_, r', rfl⟩⟩ := And.intro ih ih'
    exact ⟨_, .declarations r r', rfl⟩
  | classDeclaration isClass h ih =>
    obtain ⟨_, r, rfl⟩ := ih
    exact ⟨_, .classDeclaration isClass r, rfl⟩
  | functionDeclaration isFun h ih =>
    obtain ⟨_, r, rfl⟩ := ih
    exact ⟨_, .functionDeclaration isFun r, rfl⟩
  | varDeclaration isVar h ih =>
    obtain ⟨_, r, rfl⟩ := ih
    exact ⟨_, .varDeclaration isVar r, rfl⟩
  | statement h ih =>
    obtain ⟨_, r, rfl⟩ := ih
    exact ⟨_, .statement r, rfl⟩
  | base isName isOpening h isClosing ih =>
    obtain ⟨_, r, rfl⟩ := ih
    exact ⟨_, .base isName isOpening r isClosing, rfl⟩
  | derived isName isLess isParent isOpening h isClosing ih =>
    obtain ⟨_, r, rfl⟩ := ih
    exact ⟨_, .derived isName isLess isParent isOpening r isClosing, rfl⟩
  | noFunctions => exact ⟨_, .noFunctions, rfl⟩
  | functions h h' ih ih' =>
    obtain ⟨⟨_, r, rfl⟩, ⟨_, r', rfl⟩⟩ := And.intro ih ih'
    exact ⟨_, .functions r r', rfl⟩
  | function isName isLeft h isRight isOpening h' isClosing ih ih' =>
    obtain ⟨⟨_, r, rfl⟩, ⟨_, r', rfl⟩⟩ := And.intro ih ih'
    exact ⟨_, .function isName isLeft r isRight isOpening r' isClosing, rfl⟩
  | noParameters => exact ⟨_, .noParameters, rfl⟩
  | parameters h atMost ih =>
    obtain ⟨items, r, isLength, clean⟩ := ih
    exact ⟨_, .parameters r, overlong_eq_nil clean (by omega)⟩
  | lastName isName => exact ⟨_, .lastName isName, rfl, by simp⟩
  | names isName isComma h ih =>
    obtain ⟨items, r, isLength, clean⟩ := ih
    exact ⟨_, .names isName isComma r, by simpa using isLength, by simpa using clean⟩
  | declared isName isSemicolon => exact ⟨_, .declared isName isSemicolon, rfl⟩
  | initialized isName isEqual h isSemicolon ih =>
    obtain ⟨_, r, rfl⟩ := ih
    exact ⟨_, .initialized isName isEqual r isSemicolon, rfl⟩
  | forLoop isFor isLeft h h' isSemicolon h'' isRight hBody ih ih' ih'' ihBody =>
    obtain ⟨⟨_, r, rfl⟩, ⟨_, r', rfl⟩⟩ := And.intro ih ih'
    obtain ⟨⟨_, r'', rfl⟩, ⟨_, rBody, rfl⟩⟩ := And.intro ih'' ihBody
    exact ⟨_, .forLoop isFor isLeft r r' isSemicolon r'' isRight rBody, rfl⟩
  | ifThen isIf isLeft h isRight hThen ih ihThen =>
    obtain ⟨⟨_, r, rfl⟩, ⟨_, r', rfl⟩⟩ := And.intro ih ihThen
    exact ⟨_, .ifThen isIf isLeft r isRight r', rfl⟩
  | ifThenElse isIf isLeft h isRight hThen isElse hElse ih ihThen ihElse =>
    obtain ⟨⟨_, r, rfl⟩, ⟨_, r', rfl⟩, ⟨_, r'', rfl⟩⟩ := And.intro ih (And.intro ihThen ihElse)
    exact ⟨_, .ifThenElse isIf isLeft r isRight r' isElse r'', rfl⟩
  | print isPrint h isSemicolon ih =>
    obtain ⟨_, r, rfl⟩ := ih
    exact ⟨_, .print isPrint r isSemicolon, rfl⟩
  | returns isReturn h isSemicolon ih =>
    obtain ⟨_, r, rfl⟩ := ih
    exact ⟨_, .returns isReturn r isSemicolon, rfl⟩
  | whileLoop isWhile isLeft h isRight hBody ih ihBody =>
    obtain ⟨⟨_, r, rfl⟩, ⟨_, r', rfl⟩⟩ := And.intro ih ihBody
    exact ⟨_, .whileLoop isWhile isLeft r isRight r', rfl⟩
  | block isOpening h isClosing ih =>
    obtain ⟨_, r, rfl⟩ := ih
    exact ⟨_, .block isOpening r isClosing, rfl⟩
  | effect h isSemicolon ih =>
    obtain ⟨_, r, rfl⟩ := ih
    exact ⟨_, .effect r isSemicolon, rfl⟩
  | forNothing isSemicolon => exact ⟨_, .forNothing isSemicolon, rfl⟩
  | forVar isVar h ih =>
    obtain ⟨_, r, rfl⟩ := ih
    exact ⟨_, .forVar isVar r, rfl⟩
  | forEffect h isSemicolon ih =>
    obtain ⟨_, r, rfl⟩ := ih
    exact ⟨_, .forEffect r isSemicolon, rfl⟩
  | absent => exact ⟨_, .absent, rfl⟩
  | present h ih =>
    obtain ⟨_, r, rfl⟩ := ih
    exact ⟨_, .present r, rfl⟩
  | assign isName isEqual h ih =>
    obtain ⟨_, r, rfl⟩ := ih
    exact ⟨_, .assignment (.of_call (.primary (.reference isName)) _) isEqual r, rfl⟩
  | set h isDot isProperty isEqual h' ih ih' =>
    obtain ⟨⟨_, r, rfl⟩, ⟨_, r', rfl⟩⟩ := And.intro ih ih'
    have isAssignment := Relaxed.assignment (.of_call (.get r isDot isProperty) _) isEqual r'
    rw [List.append_assoc] at isAssignment
    exact ⟨_, isAssignment, rfl⟩
  | value h ih =>
    obtain ⟨_, r, rfl⟩ := ih
    exact ⟨_, .value r, rfl⟩
  | join h isOperator h' ih ih' =>
    obtain ⟨⟨_, r, rfl⟩, ⟨_, r', rfl⟩⟩ := And.intro ih ih'
    exact ⟨_, .join r isOperator r', rfl⟩
  | operand h ih =>
    obtain ⟨_, r, rfl⟩ := ih
    exact ⟨_, .operand r, rfl⟩
  | unary isOperator h ih =>
    obtain ⟨_, r, rfl⟩ := ih
    exact ⟨_, .unary isOperator r, rfl⟩
  | callee h ih =>
    obtain ⟨_, r, rfl⟩ := ih
    exact ⟨_, .callee r, rfl⟩
  | call h isLeft h' isRight ih ih' =>
    obtain ⟨⟨_, r, rfl⟩, ⟨_, r', rfl⟩⟩ := And.intro ih ih'
    exact ⟨_, .call r isLeft r' isRight, rfl⟩
  | get h isDot isProperty ih =>
    obtain ⟨_, r, rfl⟩ := ih
    exact ⟨_, .get r isDot isProperty, rfl⟩
  | primary h ih =>
    obtain ⟨_, r, rfl⟩ := ih
    exact ⟨_, .primary r, rfl⟩
  | noArguments => exact ⟨_, .noArguments, rfl⟩
  | arguments h atMost ih =>
    obtain ⟨items, r, isLength, clean⟩ := ih
    exact ⟨_, .arguments r, overlong_eq_nil clean (by omega)⟩
  | lastValue h ih =>
    obtain ⟨_, r, rfl⟩ := ih
    obtain ⟨first, us, rfl, -⟩ := r.starts rfl
    exact ⟨_, .lastValue r, rfl, by simp⟩
  | values h isComma h' ih ih' =>
    obtain ⟨⟨_, r, rfl⟩, items, r', isLength, clean⟩ := And.intro ih ih'
    obtain ⟨first, us, rfl, -⟩ := r.starts rfl
    exact ⟨_, .values r isComma r', by simpa using isLength, by simpa using clean⟩
  | literal isLiteral => exact ⟨_, .literal isLiteral, rfl⟩
  | this isThis => exact ⟨_, .this isThis, rfl⟩
  | reference isName => exact ⟨_, .reference isName, rfl⟩
  | grouping isLeft h isRight ih =>
    obtain ⟨_, r, rfl⟩ := ih
    exact ⟨_, .grouping isLeft r isRight, rfl⟩
  | super isSuper isDot isMethod => exact ⟨_, .super isSuper isDot isMethod, rfl⟩

end Lox.Grammar
