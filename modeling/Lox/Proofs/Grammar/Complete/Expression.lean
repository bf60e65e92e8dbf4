import Lox.Proofs.Grammar.Arrival
import Lox.Proofs.Grammar.Sound.Statement
import Lox.Proofs.Grammar.Start

/-!
# What the grammar derives, the parser reads

-/

namespace Lox.Parser

open Grammar (Nonterminal joined overlong excess)

/-! ### What is to be read -/

/-- The token behind a phrase. -/
def follower (rest : List Token) (last : Token) : Token :=
  rest.headD last

/-- The errors noted once some more have been found, the most recent one first. -/
def noted (found errors : List SyntaxError) : List SyntaxError :=
  found.reverse ++ errors

theorem noted_append (found found' errors : List SyntaxError) :
    noted (found ++ found') errors = noted found' (noted found errors) := by
  rw [noted, noted, noted, List.reverse_append, List.append_assoc]

/-- The parser reads the tokens of a phrase as its tree and notes the violations in it, whatever
follows that does not go on with the phrase. A phrase that recurs on the left is read up to where
the parser looks for what goes on with it. -/
def Complete (n : Nonterminal) (ts : List Token) (tree : n.Tree) (found : n.Found) : Prop :=
  match n, tree, found with
  | .program, p, found => ∃ us eof, ts = us ++ [eof] ∧ eof.kind.isEnd = true ∧ ∀ id errors,
    Answers .program ⟨us, eof, id, errors⟩ (Gets eof (noted found errors) Stmt.unnumberedList p [])
  -- Declarations end at a brace or at the end of the input.
  | .declarations, ss, found =>
    (∀ closing rest last id errors, closing.isSymbol .rightBrace →
      Answers .block ⟨ts ++ closing :: rest, last, id, errors⟩
        (Gets last (noted found errors) Stmt.unnumberedList ss rest)) ∧
    ∀ last id errors, last.kind.isEnd = true →
      Answers .program ⟨ts, last, id, errors⟩
        (Gets last (noted found errors) Stmt.unnumberedList ss [])
  | .declaration, s, found => ∀ rest last id errors,
    (follower rest last).isKeyword .else_ = false →
    Answers .declaration ⟨ts ++ rest, last, id, errors⟩
      (Gets last (noted found errors) Stmt.unnumbered s rest)
  | .statement short, s, found => ∀ rest last id errors,
    (short = true → (follower rest last).isKeyword .else_ = false) →
    Answers .statement ⟨ts ++ rest, last, id, errors⟩
      (Gets last (noted found errors) Stmt.unnumbered s rest)
  | .classDecl, s, found => ∀ rest last id errors,
    Arrives classDeclaration ⟨ts ++ rest, last, id, errors⟩
      (Gets last (noted found errors) Stmt.unnumbered s rest)
  | .functions, ds, found => ∀ rest last id errors, (follower rest last).isSymbol .rightBrace →
    Answers .methods ⟨ts ++ rest, last, id, errors⟩
      (Gets last (noted found errors) FunctionDecl.unnumberedList ds rest)
  | .function, d, found => ∀ sort rest last id errors,
    Answers (.function sort) ⟨ts ++ rest, last, id, errors⟩
      (Gets last (noted found errors) FunctionDecl.unnumbered d rest)
  | .parameters, names, found => ∀ rest last id errors, (follower rest last).isSymbol .rightParen →
    Arrives (if (follower (ts ++ rest) last).isSymbol .rightParen = true then pure []
      else Parse.ask (.parameters 0)) ⟨ts ++ rest, last, id, errors⟩
      (Gets last (noted found errors) (fun names => names) names rest)
  | .names, names, items => ∀ before rest last id errors,
    (follower rest last).isSymbol .rightParen →
    Answers (.parameters before) ⟨ts ++ rest, last, id, errors⟩
      (Gets last (noted (overlong .parameters before items) errors) (fun names => names) names rest)
  | .varDecl, s, found => ∀ rest last id errors,
    Arrives varDeclaration ⟨ts ++ rest, last, id, errors⟩
      (Gets last (noted found errors) Stmt.unnumbered s rest)
  | .forInit, initializer, found => ∀ rest last id errors,
    Arrives initialClause ⟨ts ++ rest, last, id, errors⟩
      (Gets last (noted found errors) Stmt.unnumberedOption initializer rest)
  | .optional, e, found => ∀ terminator rest last id errors,
    (TokenKind.symbol terminator).startsExpression = false →
    8 < (TokenKind.symbol terminator).strength → (follower rest last).isSymbol terminator →
    Arrives (optionalExpression terminator) ⟨ts ++ rest, last, id, errors⟩
      (Gets last (noted found errors) (Option.map Expr.unnumbered) e rest)
  | .arguments, es, found => ∀ rest last id errors, (follower rest last).isSymbol .rightParen →
    Arrives (if (follower (ts ++ rest) last).isSymbol .rightParen = true then pure []
      else Parse.ask (.arguments 0)) ⟨ts ++ rest, last, id, errors⟩
      (Gets last (noted found errors) Expr.unnumberedList es rest)
  | .values, es, items => ∀ before rest last id errors,
    (follower rest last).isSymbol .rightParen →
    Answers (.arguments before) ⟨ts ++ rest, last, id, errors⟩
      (Gets last (noted (overlong .arguments before items) errors) Expr.unnumberedList es rest)
  | .expression .primary, e, found => ∀ rest last id errors,
    Arrives primary ⟨ts ++ rest, last, id, errors⟩
      (Gets last (noted found errors) Expr.unnumbered e rest)
  | .expression .call, e, found => ∀ rest last id errors post,
    (∀ e' id', e'.unnumbered = e.unnumbered →
      Answers (.suffixes e') ⟨rest, last, id', noted found errors⟩ post) →
    Answers .operand ⟨ts ++ rest, last, id, errors⟩ post
  | .expression .unary, e, found => ∀ rest last id errors, 1 < (follower rest last).kind.strength →
    Answers .unary ⟨ts ++ rest, last, id, errors⟩
      (Gets last (noted found errors) Expr.unnumbered e rest)
  | .expression (.level l), e, found => ∀ rest last id errors post,
    l.rank ≤ (follower rest last).kind.strength →
    (∀ e' id', e'.unnumbered = e.unnumbered →
      Answers (.operators l e') ⟨rest, last, id', noted found errors⟩ post) →
    Answers (.level l) ⟨ts ++ rest, last, id, errors⟩ post
  | .expression .whole, e, found => ∀ rest last id errors, 8 < (follower rest last).kind.strength →
    Answers .expression ⟨ts ++ rest, last, id, errors⟩
      (Gets last (noted found errors) Expr.unnumbered e rest)

/-! ### Operators -/

section

variable {rest : List Token} {last : Token} {id : NodeId} {errors found found' : List SyntaxError}
  {items : List (Token × List SyntaxError)} {e : Expr} {l : Level}

theorem accepts_iff_strength {t : Token} : l.accepts t = true ↔ t.kind.strength = l.rank := by
  obtain ⟨kind, lexeme, line⟩ := t
  cases kind with
  | symbol s => cases l <;> cases s <;> simp [Level.accepts, TokenKind.strength, Level.rank]
  | keyword k => cases l <;> cases k <;> simp [Level.accepts, TokenKind.strength, Level.rank]
  | _ => cases l <;> simp [Level.accepts, TokenKind.strength, Level.rank]

/-- No operator of the level follows. -/
theorem answers_operators (next : l.rank < (follower rest last).kind.strength)
    {post : Expr → Cursor → Prop} (h : post e ⟨rest, last, id, errors⟩) :
    Answers (.operators l e) ⟨rest, last, id, errors⟩ post := by
  refine Answers.intro (arrives_peek ?_)
  have isOther : ¬ l.accepts (Cursor.peek ⟨rest, last, id, errors⟩) = true := by
    rw [accepts_iff_strength]
    exact Nat.ne_of_gt next
  rw [if_neg isOther]
  exact Arrives.finish h

/-- An operand of a level is read if what follows does not bind tighter than the level. -/
theorem Complete.operand {ts : List Token} {tree : Expr}
    (complete : Complete (.expression (Grammar.operand l)) ts tree found)
    (next : l.rank ≤ (follower rest last).kind.strength) :
    Answers l.operand ⟨ts ++ rest, last, id, errors⟩
      (Gets last (noted found errors) Expr.unnumbered tree rest) := by
  have closed {l' : Level} (complete : Complete (.expression (.level l')) ts tree found)
      (next : l'.rank < (follower rest last).kind.strength) :
      Answers (.level l') ⟨ts ++ rest, last, id, errors⟩
        (Gets last (noted found errors) Expr.unnumbered tree rest) :=
    complete rest last id errors _ (Nat.le_of_lt next) fun e id' same =>
      answers_operators next ⟨same, id', rfl⟩
  cases l with
  | factor => exact complete rest last id errors next
  | _ => exact closed complete next

theorem unnumbered_joined {left left' right right' : Expr} {operator : Token}
    (same : left'.unnumbered = left.unnumbered) (same' : right'.unnumbered = right.unnumbered) :
    (joined l left' operator right').unnumbered = (joined l left operator right).unnumbered := by
  cases l <;> simp [joined, Expr.unnumbered, same, same']

theorem Complete.join {ts us : List Token} {left right : Expr} {operator : Token}
    (complete : Complete (.expression (.level l)) ts left found)
    (isOperator : operator.kind ∈ Grammar.operators l)
    (complete' : Complete (.expression (Grammar.operand l)) us right found') :
    Complete (.expression (.level l)) (ts ++ operator :: us) (joined l left operator right)
      (found ++ found') := by
  intro rest last id errors post next continues
  rw [noted_append] at continues
  have accepts := accepts_iff.2 isOperator
  rw [List.append_assoc]
  refine complete _ last id errors post ?_ fun left' id' same => ?_
  · exact Nat.le_of_eq (accepts_iff_strength.1 accepts).symm
  refine Answers.intro (arrives_peek ?_)
  rw [if_pos (show l.accepts (Cursor.peek ⟨operator :: us ++ rest, last, id',
    noted found errors⟩) = true from accepts)]
  refine arrives_advance (Arrives.bind (Arrives.ask ((complete'.operand next).mono ?_)))
  rintro right' t ⟨same', id'', rfl⟩
  rw [combine_eq]
  exact Arrives.handOver (continues _ id'' (unnumbered_joined same same'))

theorem Complete.level {ts : List Token} {tree : Expr}
    (complete : Complete (.expression (Grammar.operand l)) ts tree found) :
    Complete (.expression (.level l)) ts tree found := by
  intro rest last id errors post next continues
  refine Answers.intro (Arrives.bind (Arrives.ask ((complete.operand next).mono ?_)))
  rintro e t ⟨same, id', rfl⟩
  exact Arrives.handOver (continues e id' same)

/-! ### Unary expressions and calls -/

/-- No call and no property follows. -/
theorem answers_suffixes (next : 1 < (follower rest last).kind.strength)
    {post : Expr → Cursor → Prop} (h : post e ⟨rest, last, id, errors⟩) :
    Answers (.suffixes e) ⟨rest, last, id, errors⟩ post := by
  have isOther {s : Symbol} (one : (TokenKind.symbol s).strength = 1) :
      (Cursor.peek ⟨rest, last, id, errors⟩).isSymbol s = false := by
    rw [Bool.eq_false_iff]
    intro isSymbol
    change 1 < (Cursor.peek ⟨rest, last, id, errors⟩).kind.strength at next
    rw [Token.isSymbol_iff.1 isSymbol, one] at next
    exact Nat.lt_irrefl 1 next
  refine Answers.intro ?_
  exact arrives_accept_not (isOther rfl) (arrives_accept_not (isOther rfl) (Arrives.finish h))

/-- An operand has no operator before it. -/
theorem answers_unary_of_operand {c : Cursor} {post : Expr → Cursor → Prop}
    (starts : c.peek.kind.startsOperand = true) (h : Answers .operand c post) :
    Answers .unary c post := by
  have isOther {s : Symbol} (no : (TokenKind.symbol s).startsOperand = false) :
      c.peek.isSymbol s = false := by
    rw [Bool.eq_false_iff]
    intro isSymbol
    rw [Token.isSymbol_iff.1 isSymbol, no] at starts
    cases starts
  refine Answers.intro (arrives_peek ?_)
  rw [isOther rfl, isOther rfl]
  exact Arrives.handOver h

theorem Complete.unary {ts : List Token} {right : Expr} {operator : Token}
    (isOperator : operator.isSymbol .bang ∨ operator.isSymbol .minus)
    (complete : Complete (.expression .unary) ts right found) :
    Complete (.expression .unary) (operator :: ts) (.unary operator right) found := by
  intro rest last id errors next
  refine Answers.intro (arrives_peek ?_)
  have isOperator : (operator.isSymbol .bang || operator.isSymbol .minus) = true := by
    rw [Bool.or_eq_true]
    exact isOperator
  rw [if_pos (show ((Cursor.peek ⟨operator :: ts ++ rest, last, id, errors⟩).isSymbol .bang ||
    (Cursor.peek ⟨operator :: ts ++ rest, last, id, errors⟩).isSymbol .minus) = true from
      isOperator)]
  refine arrives_advance (Arrives.bind (Arrives.ask ((complete _ _ _ _ next).mono ?_)))
  rintro right' t ⟨same, id', rfl⟩
  refine Arrives.finish ⟨?_, id', rfl⟩
  rw [Expr.unnumbered, same]
  rfl

theorem Complete.callee {ts : List Token} {tree : Expr}
    (starts : ∃ t us, ts = t :: us ∧ t.kind.startsOperand = true)
    (complete : Complete (.expression .call) ts tree found) :
    Complete (.expression .unary) ts tree found := by
  intro rest last id errors next
  obtain ⟨t, us, rfl, starts⟩ := starts
  refine answers_unary_of_operand starts ?_
  exact complete rest last id errors _ fun e' id' same => answers_suffixes next ⟨same, id', rfl⟩

theorem Complete.call {ts us : List Token} {left right : Token} {callee : Expr} {es : List Expr}
    (complete : Complete (.expression .call) ts callee found) (isLeft : left.isSymbol .leftParen)
    (complete' : Complete .arguments us es found') (isRight : right.isSymbol .rightParen) :
    Complete (.expression .call) (ts ++ left :: (us ++ [right])) (.call callee right es)
      (found ++ found') := by
  intro rest last id errors post continues
  rw [noted_append] at continues
  rw [List.append_assoc, List.cons_append, List.append_assoc]
  refine complete _ last id errors post fun callee' id' same => ?_
  refine Answers.intro (arrives_accept isLeft ?_)
  refine arrives_sees (delivers_either ?_)
  have isFollower : (follower (right :: rest) last).isSymbol .rightParen = true := isRight
  refine Arrives.bind ((complete' (right :: rest) last id' _ isFollower).mono ?_)
  rintro es' t ⟨same', id'', rfl⟩
  refine arrives_expectSymbol isRight (Arrives.handOver (continues _ id'' ?_))
  rw [Expr.unnumbered, Expr.unnumbered, same, same']

theorem Complete.get {ts : List Token} {dot property : Token} {object : Expr}
    (complete : Complete (.expression .call) ts object found) (isDot : dot.isSymbol .dot)
    (isProperty : property.kind = .identifier) :
    Complete (.expression .call) (ts ++ [dot, property]) (.get object property) found := by
  intro rest last id errors post continues
  rw [List.append_assoc]
  refine complete _ last id errors post fun object' id' same => ?_
  have isOther : dot.isSymbol .leftParen = false := by
    rw [Bool.eq_false_iff]
    intro isLeft
    have isKind := Token.isSymbol_iff.1 isDot
    rw [Token.isSymbol_iff.1 isLeft] at isKind
    cases isKind
  refine Answers.intro (arrives_accept_not isOther (arrives_accept isDot ?_))
  refine arrives_expectName isProperty (Arrives.handOver (continues _ id' ?_))
  rw [Expr.unnumbered, Expr.unnumbered, same]

theorem Complete.primary {ts : List Token} {tree : Expr}
    (complete : Complete (.expression .primary) ts tree found) :
    Complete (.expression .call) ts tree found := by
  intro rest last id errors post continues
  refine Answers.intro (Arrives.bind ((complete rest last id errors).mono ?_))
  rintro e t ⟨same, id', rfl⟩
  exact Arrives.handOver (continues e id' same)

/-! ### Arguments -/

theorem arrives_checkArity {sort : ListSort} {before : Nat} {t : Token} {α : Type}
    {next : PUnit → Parse α} {post : α → Cursor → Prop}
    (h : Arrives (next ⟨⟩) ⟨t :: rest, last, id, noted (excess sort before t) errors⟩ post) :
    Arrives (checkArity sort before >>= next) ⟨t :: rest, last, id, errors⟩ post := by
  unfold checkArity
  unfold excess at h
  by_cases many : maxArity ≤ before
  · rw [if_pos (show Grammar.longest ≤ before from many)] at h
    rw [if_pos many]
    exact Arrives.bind (arrives_peek (Job.Delivers.modify ⟨⟨⟩, rfl, h⟩))
  · rw [if_neg (show ¬ Grammar.longest ≤ before from many)] at h
    rw [if_neg many]
    exact h

theorem Complete.lastValue {first : Token} {ts : List Token} {tree : Expr}
    (complete : Complete (.expression .whole) (first :: ts) tree found) :
    Complete .values (first :: ts) [tree] [(first, found)] := by
  intro before rest last id errors isRight
  have isKind := Token.isSymbol_iff.1 isRight
  rw [overlong, overlong, List.append_nil, noted_append]
  refine Answers.intro (arrives_checkArity (Arrives.bind (Arrives.ask ?_)))
  refine (complete rest last id _ ?_).mono ?_
  · rw [isKind]
    decide
  rintro e t ⟨same, id', rfl⟩
  have isOther : (follower rest last).isSymbol .comma = false := by
    rw [Token.isSymbol, isKind]
    rfl
  refine arrives_accept_not isOther (Arrives.finish ⟨?_, id', rfl⟩)
  rw [Expr.unnumberedList, same]
  rfl

theorem Complete.values {first comma : Token} {ts us : List Token} {tree : Expr}
    {trees : List Expr} (complete : Complete (.expression .whole) (first :: ts) tree found)
    (isComma : comma.isSymbol .comma) (complete' : Complete .values us trees items) :
    Complete .values (first :: ts ++ comma :: us) (tree :: trees) ((first, found) :: items) := by
  intro before rest last id errors isRight
  rw [List.append_assoc, overlong, noted_append, noted_append]
  refine Answers.intro (arrives_checkArity (Arrives.bind (Arrives.ask ?_)))
  refine (complete _ last id _ ?_).mono ?_
  · change 8 < comma.kind.strength
    rw [Token.isSymbol_iff.1 isComma]
    decide
  rintro e t ⟨same, id', rfl⟩
  refine arrives_accept isComma (Arrives.bind (Arrives.ask ?_))
  refine (complete' (before + 1) rest last id' _ isRight).mono ?_
  rintro es t ⟨same', id'', rfl⟩
  refine Arrives.finish ⟨?_, id'', rfl⟩
  rw [Expr.unnumberedList, Expr.unnumberedList, same, same']

theorem Complete.noArguments : Complete .arguments [] [] [] := by
  intro rest last id errors isRight
  rw [List.nil_append, if_pos isRight]
  exact Arrives.pure ⟨rfl, id, rfl⟩

/-- A token with which an expression starts is not a closing parenthesis or a semicolon. -/
theorem isSymbol_eq_false_of_startsExpression {t : Token} {s : Symbol}
    (starts : t.kind.startsExpression = true)
    (no : (TokenKind.symbol s).startsExpression = false) : t.isSymbol s = false := by
  rw [Bool.eq_false_iff]
  intro isSymbol
  rw [Token.isSymbol_iff.1 isSymbol, no] at starts
  cases starts

theorem Complete.arguments {ts : List Token} {trees : List Expr}
    (starts : ∃ t us, ts = t :: us ∧ t.kind.startsExpression = true)
    (complete : Complete .values ts trees items) :
    Complete .arguments ts trees (overlong .arguments 0 items) := by
  intro rest last id errors isRight
  obtain ⟨t, us, rfl, starts⟩ := starts
  have isOther : (follower (t :: us ++ rest) last).isSymbol .rightParen = false :=
    isSymbol_eq_false_of_startsExpression starts rfl
  rw [if_neg (Bool.eq_false_iff.1 isOther)]
  exact Arrives.ask (complete 0 rest last id errors isRight)

/-! ### Primary expressions -/

theorem Complete.literal {t : Token} {value : Literal}
    (isLiteral : Grammar.literal? t.kind = some value) :
    Complete (.expression .primary) [t] (.literal value t.line) [] := by
  intro rest last id errors
  refine arrives_peek ?_
  obtain ⟨kind, lexeme, line⟩ := t
  cases kind with
  | keyword k =>
    cases k <;> cases isLiteral
    all_goals exact arrives_advance (Arrives.pure ⟨rfl, id, rfl⟩)
  | string contents =>
    cases isLiteral
    exact arrives_advance (Arrives.pure ⟨rfl, id, rfl⟩)
  | number x =>
    cases isLiteral
    exact arrives_advance (Arrives.pure ⟨rfl, id, rfl⟩)
  | _ => cases isLiteral

theorem Complete.this {keyword : Occurrence} (isThis : keyword.name.isKeyword .this_) :
    Complete (.expression .primary) [keyword.name] (.this keyword) [] := by
  intro rest last id errors
  refine arrives_peek ?_
  rw [show (Cursor.peek ⟨[keyword.name] ++ rest, last, id, errors⟩).kind = .keyword .this_ from
    Token.isKeyword_iff.1 isThis]
  exact arrives_advance (arrives_occurrence (Arrives.pure ⟨rfl, id + 1, rfl⟩))

theorem Complete.reference {name : Occurrence} (isName : name.name.kind = .identifier) :
    Complete (.expression .primary) [name.name] (.reference name) [] := by
  intro rest last id errors
  refine arrives_peek ?_
  rw [show (Cursor.peek ⟨[name.name] ++ rest, last, id, errors⟩).kind = .identifier from isName]
  exact arrives_advance (arrives_occurrence (Arrives.pure ⟨rfl, id + 1, rfl⟩))

theorem Complete.super {keyword : Occurrence} {dot method : Token}
    (isSuper : keyword.name.isKeyword .super_) (isDot : dot.isSymbol .dot)
    (isMethod : method.kind = .identifier) :
    Complete (.expression .primary) [keyword.name, dot, method] (.super keyword method) [] := by
  intro rest last id errors
  refine arrives_peek ?_
  rw [show (Cursor.peek ⟨[keyword.name, dot, method] ++ rest, last, id, errors⟩).kind =
    .keyword .super_ from Token.isKeyword_iff.1 isSuper]
  refine arrives_advance (arrives_expectSymbol isDot (arrives_expectName isMethod ?_))
  exact arrives_occurrence (Arrives.pure ⟨rfl, id + 1, rfl⟩)

theorem Complete.grouping {left right : Token} {ts : List Token} {inner : Expr}
    (isLeft : left.isSymbol .leftParen) (complete : Complete (.expression .whole) ts inner found)
    (isRight : right.isSymbol .rightParen) :
    Complete (.expression .primary) (left :: (ts ++ [right])) (.grouping inner) found := by
  intro rest last id errors
  refine arrives_peek ?_
  rw [show (Cursor.peek ⟨left :: (ts ++ [right]) ++ rest, last, id, errors⟩).kind =
    .symbol .leftParen from Token.isSymbol_iff.1 isLeft, List.cons_append, List.append_assoc]
  refine arrives_advance ?_
  refine Arrives.bind (Arrives.ask ((complete _ last id errors ?_).mono ?_))
  · change 8 < right.kind.strength
    rw [Token.isSymbol_iff.1 isRight]
    decide
  rintro e t ⟨same, id', rfl⟩
  refine arrives_expectSymbol isRight (Arrives.pure ⟨?_, id', rfl⟩)
  rw [Expr.unnumbered, Expr.unnumbered, same]

/-! ### Whole expressions -/

/-- An expression that no assignment follows. -/
theorem Complete.value {ts : List Token} {tree : Expr}
    (complete : Complete (.expression (.level .disjunction)) ts tree found) :
    Complete (.expression .whole) ts tree found := by
  intro rest last id errors next
  have strong : Level.disjunction.rank < (follower rest last).kind.strength :=
    Nat.lt_of_succ_lt next
  have inner : Answers (.level .disjunction) ⟨ts ++ rest, last, id, errors⟩
      (Gets last (noted found errors) Expr.unnumbered tree rest) :=
    complete rest last id errors _ (Nat.le_of_lt strong) fun e id' same =>
      answers_operators strong ⟨same, id', rfl⟩
  refine Answers.intro (Arrives.bind (Arrives.ask (inner.mono ?_)))
  rintro e t ⟨same, id', rfl⟩
  refine arrives_peek ?_
  have isOther : ¬ (Cursor.peek ⟨rest, last, id', noted found errors⟩).isSymbol .equal = true := by
    intro isEqual
    change 8 < (Cursor.peek ⟨rest, last, id', noted found errors⟩).kind.strength at next
    rw [Token.isSymbol_iff.1 isEqual] at next
    exact Nat.lt_irrefl 8 next
  rw [if_neg isOther]
  exact Arrives.finish ⟨same, id', rfl⟩

/-- A target that has been read up to numbers is assigned to, or reported, as one. -/
theorem arrives_assignment {target target' value value' : Expr} {equal : Token}
    (same : target'.unnumbered = target.unnumbered) (same' : value'.unnumbered = value.unnumbered) :
    Arrives (assignment target' equal value') ⟨rest, last, id, errors⟩
      (Gets last (noted (Grammar.targetViolations target equal) errors) Expr.unnumbered
        (Grammar.assigned target value) rest) := by
  cases target <;> cases target' <;>
    simp only [Expr.unnumbered, reduceCtorEq, Expr.reference.injEq, Expr.get.injEq] at same
  case reference.reference o o' =>
    have sameName := congrArg Occurrence.name same
    change o'.name = o.name at sameName
    refine arrives_occurrence (Arrives.pure ⟨?_, id + 1, rfl⟩)
    rw [Grammar.assigned, Expr.unnumbered, Expr.unnumbered, same', Occurrence.unnumbered, sameName]
    rfl
  case get.get =>
    refine Arrives.pure ⟨?_, id, rfl⟩
    rw [Grammar.assigned, Expr.unnumbered, Expr.unnumbered, same.1, same.2, same']
  all_goals
    refine Arrives.bind (Job.Delivers.modify ⟨⟨⟩, rfl, Arrives.pure ⟨?_, id, rfl⟩⟩)
    simpa only [Grammar.assigned, Expr.unnumbered] using same

theorem Complete.assignment {equal : Token} {ts us : List Token} {target value : Expr}
    (complete : Complete (.expression (.level .disjunction)) ts target found)
    (isEqual : equal.isSymbol .equal)
    (complete' : Complete (.expression .whole) us value found') :
    Complete (.expression .whole) (ts ++ equal :: us) (Grammar.assigned target value)
      (found ++ (found' ++ Grammar.targetViolations target equal)) := by
  intro rest last id errors next
  rw [List.append_assoc, noted_append, noted_append]
  have strong : Level.disjunction.rank < (follower (equal :: (us ++ rest)) last).kind.strength := by
    change 7 < equal.kind.strength
    rw [Token.isSymbol_iff.1 isEqual]
    decide
  have inner : Answers (.level .disjunction) ⟨ts ++ equal :: (us ++ rest), last, id, errors⟩
      (Gets last (noted found errors) Expr.unnumbered target (equal :: (us ++ rest))) :=
    complete _ last id errors _ (Nat.le_of_lt strong) fun e id' same =>
      answers_operators strong ⟨same, id', rfl⟩
  refine Answers.intro (Arrives.bind (Arrives.ask (inner.mono ?_)))
  rintro target' t ⟨same, id', rfl⟩
  refine arrives_peek ?_
  rw [if_pos (show (Cursor.peek ⟨equal :: (us ++ rest), last, id', noted found errors⟩).isSymbol
    .equal = true from isEqual)]
  refine arrives_advance (Arrives.bind (Arrives.ask ((complete' rest last id' _ next).mono ?_)))
  rintro value' t ⟨same', id'', rfl⟩
  refine Arrives.bind ((arrives_assignment same same').mono ?_)
  intro e t got
  exact Arrives.finish got

end

end Lox.Parser
