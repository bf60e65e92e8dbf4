import Lox.Proofs.Grammar.Complete.Expression

/-!
# Declarations and statements that the grammar derives

The parser reads declarations and statements as the grammar derives them. The first token tells
which rule applies. An `if` without `else` is read as such since no `else` follows, and the branch
before an `else` ends there since it is not `short`.
-/

namespace Lox.Parser

open Grammar (overlong)

variable {ts us vs ws : List Token} {found found' found'' found₃ : List SyntaxError}
  {items : List (Token × List SyntaxError)}

/-! ### Parts of statements -/

theorem Complete.absent : Complete .optional [] none [] := by
  intro terminator rest last id errors _ _ isNext
  refine arrives_sees ?_
  rw [if_pos (show (Cursor.peek ⟨[] ++ rest, last, id, errors⟩).isSymbol terminator = true from
    isNext)]
  exact Arrives.pure ⟨rfl, id, rfl⟩

theorem Complete.present {tree : Expr}
    (starts : ∃ t us, ts = t :: us ∧ t.kind.startsExpression = true)
    (complete : Complete (.expression .whole) ts tree found) :
    Complete .optional ts (some tree) found := by
  intro terminator rest last id errors no weak isNext
  obtain ⟨t, us, rfl, starts⟩ := starts
  have isOther : t.isSymbol terminator = false := isSymbol_eq_false_of_startsExpression starts no
  refine arrives_sees ?_
  rw [if_neg (show ¬ (Cursor.peek ⟨t :: us ++ rest, last, id, errors⟩).isSymbol terminator = true
    from Bool.eq_false_iff.1 isOther)]
  refine Arrives.map (Arrives.ask ((complete rest last id errors ?_).mono ?_))
  · rw [Token.isSymbol_iff.1 isNext]
    exact weak
  · rintro e t ⟨same, id', rfl⟩
    exact ⟨congrArg some same, id', rfl⟩

/-- An expression in parentheses. -/
theorem arrives_condition {k : Keyword} {left right : Token} {tree : Expr} {rest : List Token}
    {last : Token} {id : NodeId} {errors : List SyntaxError} (isLeft : left.isSymbol .leftParen)
    (complete : Complete (.expression .whole) ts tree found)
    (isRight : right.isSymbol .rightParen) :
    Arrives (condition k) ⟨left :: (ts ++ right :: rest), last, id, errors⟩
      (Gets last (noted found errors) Expr.unnumbered tree rest) := by
  refine arrives_expectSymbol isLeft (Arrives.bind (Arrives.ask ?_))
  refine (complete (right :: rest) last id errors ?_).mono ?_
  · change 8 < right.kind.strength
    rw [Token.isSymbol_iff.1 isRight]
    decide
  · rintro e t ⟨same, id', rfl⟩
    exact arrives_expectSymbol isRight (Arrives.pure ⟨same, id', rfl⟩)

/-- An expression with a semicolon. -/
theorem arrives_expressionStatement {semicolon : Token} {tree : Expr} {rest : List Token}
    {last : Token} {id : NodeId} {errors : List SyntaxError}
    (complete : Complete (.expression .whole) ts tree found)
    (isSemicolon : semicolon.isSymbol .semicolon) :
    Arrives expressionStatement ⟨ts ++ semicolon :: rest, last, id, errors⟩
      (Gets last (noted found errors) Stmt.unnumbered (.expression tree) rest) := by
  refine Arrives.bind (Arrives.ask ((complete (semicolon :: rest) last id errors ?_).mono ?_))
  · change 8 < semicolon.kind.strength
    rw [Token.isSymbol_iff.1 isSemicolon]
    decide
  · rintro e t ⟨same, id', rfl⟩
    refine arrives_expectSymbol isSemicolon (Arrives.pure ⟨?_, id', rfl⟩)
    rw [Stmt.unnumbered, Stmt.unnumbered, same]

/-! ### Variables and functions -/

theorem Complete.declared {name semicolon : Token} (isName : name.kind = .identifier)
    (isSemicolon : semicolon.isSymbol .semicolon) :
    Complete .varDecl [name, semicolon] (.varDecl name none) [] := by
  intro rest last id errors
  have isOther : semicolon.isSymbol .equal = false := by
    rw [Token.isSymbol, Token.isSymbol_iff.1 isSemicolon]
    rfl
  refine arrives_expectName isName (arrives_accept_not isOther ?_)
  exact arrives_expectSymbol isSemicolon (Arrives.pure ⟨rfl, id, rfl⟩)

theorem Complete.initialized {name equal semicolon : Token} {tree : Expr}
    (isName : name.kind = .identifier) (isEqual : equal.isSymbol .equal)
    (complete : Complete (.expression .whole) ts tree found)
    (isSemicolon : semicolon.isSymbol .semicolon) :
    Complete .varDecl (name :: equal :: (ts ++ [semicolon])) (.varDecl name (some tree)) found := by
  intro rest last id errors
  rw [List.cons_append, List.cons_append, List.append_assoc, varDeclaration_eq]
  refine arrives_expectName isName (Arrives.bind (arrives_accept isEqual ?_))
  refine Arrives.map (Arrives.ask ((complete (semicolon :: rest) last id errors ?_).mono ?_))
  · change 8 < semicolon.kind.strength
    rw [Token.isSymbol_iff.1 isSemicolon]
    decide
  · rintro e t ⟨same, id', rfl⟩
    refine arrives_expectSymbol isSemicolon (Arrives.pure ⟨?_, id', rfl⟩)
    rw [Stmt.unnumbered, Stmt.unnumbered, Option.map_some, Option.map_some, same]

theorem Complete.noParameters : Complete .parameters [] [] [] := by
  intro rest last id errors isRight
  rw [List.nil_append, if_pos isRight]
  exact Arrives.pure ⟨rfl, id, rfl⟩

theorem Complete.parameters {names : List Token}
    (starts : ∃ t us, ts = t :: us ∧ t.kind = .identifier)
    (complete : Complete .names ts names items) :
    Complete .parameters ts names (overlong .parameters 0 items) := by
  intro rest last id errors isRight
  obtain ⟨t, us, rfl, isName⟩ := starts
  have isOther : ¬ (follower (t :: us ++ rest) last).isSymbol .rightParen = true := by
    change ¬ t.isSymbol .rightParen = true
    rw [Token.isSymbol, isName]
    decide
  rw [if_neg isOther]
  exact Arrives.ask (complete 0 rest last id errors isRight)

theorem Complete.lastName {name : Token} (isName : name.kind = .identifier) :
    Complete .names [name] [name] [(name, [])] := by
  intro before rest last id errors isRight
  have isOther : (follower rest last).isSymbol .comma = false := by
    rw [Token.isSymbol, Token.isSymbol_iff.1 isRight]
    rfl
  rw [overlong, overlong, List.append_nil, List.append_nil]
  refine Answers.intro (arrives_checkArity (arrives_expectName isName ?_))
  exact arrives_accept_not isOther (Arrives.finish ⟨rfl, id, rfl⟩)

theorem Complete.names {name comma : Token} {names : List Token}
    (isName : name.kind = .identifier) (isComma : comma.isSymbol .comma)
    (complete : Complete .names ts names items) :
    Complete .names (name :: comma :: ts) (name :: names) ((name, []) :: items) := by
  intro before rest last id errors isRight
  rw [overlong, noted_append, List.nil_append]
  refine Answers.intro (arrives_checkArity (arrives_expectName isName ?_))
  refine arrives_accept isComma (Arrives.bind (Arrives.ask ?_))
  refine (complete (before + 1) rest last id _ isRight).mono ?_
  rintro names' t ⟨rfl, id', rfl⟩
  exact Arrives.finish ⟨rfl, id', rfl⟩

theorem Complete.function {name left right opening closing : Token} {params : List Token}
    {body : List Stmt} (isName : name.kind = .identifier) (isLeft : left.isSymbol .leftParen)
    (complete : Complete .parameters ts params found) (isRight : right.isSymbol .rightParen)
    (isOpening : opening.isSymbol .leftBrace) (complete' : Complete .declarations us body found')
    (isClosing : closing.isSymbol .rightBrace) :
    Complete .function (name :: left :: (ts ++ right :: opening :: (us ++ [closing])))
      ⟨name, params, body⟩ (found ++ found') := by
  intro sort rest last id errors
  rw [noted_append]
  simp only [List.cons_append, List.append_assoc, List.nil_append]
  refine Answers.intro (arrives_expectName isName (arrives_expectSymbol isLeft ?_))
  refine arrives_sees (delivers_either ?_)
  have next : (follower (right :: opening :: (us ++ closing :: rest)) last).isSymbol .rightParen :=
    isRight
  refine Arrives.bind ((complete _ last id _ next).mono ?_)
  rintro params' t ⟨rfl, id', rfl⟩
  refine arrives_expectSymbol isRight (arrives_expectSymbol isOpening ?_)
  refine Arrives.bind (Arrives.ask ((complete'.1 closing rest last id' _ isClosing).mono ?_))
  rintro body' t ⟨same, id'', rfl⟩
  refine Arrives.finish ⟨?_, id'', rfl⟩
  rw [FunctionDecl.unnumbered, FunctionDecl.unnumbered, same]

/-! ### Classes -/

theorem Complete.noFunctions : Complete .functions [] [] [] := by
  intro rest last id errors isClosing
  have isOver : ((Cursor.peek ⟨[] ++ rest, last, id, errors⟩).isSymbol .rightBrace ||
      Cursor.atEnd ⟨[] ++ rest, last, id, errors⟩) = true := by
    rw [show (Cursor.peek ⟨[] ++ rest, last, id, errors⟩).isSymbol .rightBrace = true
      from isClosing]
    rfl
  refine Answers.intro (delivers_atClosing ?_)
  rw [isOver]
  exact Arrives.finish ⟨rfl, id, rfl⟩

theorem Complete.functions {d : FunctionDecl} {ds : List FunctionDecl}
    (starts : ∃ t us, ts = t :: us ∧ t.kind = .identifier)
    (complete : Complete .function ts d found) (complete' : Complete .functions us ds found') :
    Complete .functions (ts ++ us) (d :: ds) (found ++ found') := by
  intro rest last id errors isClosing
  rw [noted_append]
  obtain ⟨t, vs, rfl, isName⟩ := starts
  have isOther : ((Cursor.peek ⟨t :: vs ++ us ++ rest, last, id, errors⟩).isSymbol .rightBrace ||
      Cursor.atEnd ⟨t :: vs ++ us ++ rest, last, id, errors⟩) = false := by
    change (t.isSymbol .rightBrace || false) = false
    rw [Token.isSymbol, isName]
    rfl
  refine Answers.intro (delivers_atClosing ?_)
  rw [isOther, List.append_assoc]
  refine Arrives.bind (Arrives.ask ((complete .method (us ++ rest) last id _).mono ?_))
  rintro d' t' ⟨same, id', rfl⟩
  refine Arrives.bind (Arrives.ask ((complete' rest last id' _ isClosing).mono ?_))
  rintro ds' t' ⟨same', id'', rfl⟩
  refine Arrives.finish ⟨?_, id'', rfl⟩
  rw [FunctionDecl.unnumberedList, FunctionDecl.unnumberedList, same, same']

/-- The body of a class, from its brace on. -/
theorem arrives_classBody {opening closing name : Token}
    {superclass superclass' : Option Occurrence}
    {ds : List FunctionDecl} {rest : List Token} {last : Token} {id : NodeId}
    {errors : List SyntaxError} (isOpening : opening.isSymbol .leftBrace)
    (complete : Complete .functions ts ds found) (isClosing : closing.isSymbol .rightBrace)
    (same : superclass'.map Occurrence.unnumbered = superclass.map Occurrence.unnumbered) :
    Arrives (do
      let _ ← Parse.expectSymbol .leftBrace .beforeClassBody
      let ds ← Parse.ask .methods
      let _ ← Parse.expectSymbol .rightBrace .afterClassBody
      return .classDecl name superclass' ds) ⟨opening :: (ts ++ closing :: rest), last, id, errors⟩
      (Gets last (noted found errors) Stmt.unnumbered (.classDecl name superclass ds) rest) := by
  have next : (follower (closing :: rest) last).isSymbol .rightBrace := isClosing
  refine arrives_expectSymbol isOpening (Arrives.bind (Arrives.ask ?_))
  refine (complete (closing :: rest) last id errors next).mono ?_
  rintro ds' t ⟨same', id', rfl⟩
  refine arrives_expectSymbol isClosing (Arrives.pure ⟨?_, id', rfl⟩)
  rw [Stmt.unnumbered, Stmt.unnumbered, same, same']

theorem Complete.base {name opening closing : Token} {ds : List FunctionDecl}
    (isName : name.kind = .identifier) (isOpening : opening.isSymbol .leftBrace)
    (complete : Complete .functions ts ds found) (isClosing : closing.isSymbol .rightBrace) :
    Complete .classDecl (name :: opening :: (ts ++ [closing])) (.classDecl name none ds) found := by
  intro rest last id errors
  have isOther : opening.isSymbol .less = false := by
    rw [Token.isSymbol, Token.isSymbol_iff.1 isOpening]
    rfl
  rw [List.cons_append, List.cons_append, List.append_assoc, classDeclaration_eq]
  refine arrives_expectName isName (Arrives.bind (arrives_accept_not isOther (Arrives.pure ?_)))
  exact arrives_classBody isOpening complete isClosing rfl

theorem Complete.derived {name less opening closing : Token} {parent : Occurrence}
    {ds : List FunctionDecl} (isName : name.kind = .identifier) (isLess : less.isSymbol .less)
    (isParent : parent.name.kind = .identifier) (isOpening : opening.isSymbol .leftBrace)
    (complete : Complete .functions ts ds found) (isClosing : closing.isSymbol .rightBrace) :
    Complete .classDecl (name :: less :: parent.name :: opening :: (ts ++ [closing]))
      (.classDecl name (some parent) ds) found := by
  intro rest last id errors
  simp only [List.cons_append, List.append_assoc, List.nil_append]
  rw [classDeclaration_eq]
  refine arrives_expectName isName (Arrives.bind (arrives_accept isLess ?_))
  refine arrives_expectName isParent (Arrives.map ?_)
  refine Job.Delivers.modifyGet ⟨_, rfl, ?_⟩
  exact arrives_classBody isOpening complete isClosing rfl

/-! ### Declarations -/

theorem Complete.classDeclaration {keyword : Token} {s : Stmt}
    (isClass : keyword.isKeyword .class_) (complete : Complete .classDecl ts s found) :
    Complete .declaration (keyword :: ts) s found := by
  intro rest last id errors _
  refine Answers.intro (arrives_peek ?_)
  rw [show (Cursor.peek ⟨keyword :: ts ++ rest, last, id, errors⟩).kind = .keyword .class_ from
    Token.isKeyword_iff.1 isClass]
  refine arrives_advance (Arrives.bind ((complete rest last id errors).mono ?_))
  intro s' t got
  exact Arrives.finish got

theorem Complete.functionDeclaration {keyword : Token} {d : FunctionDecl}
    (isFun : keyword.isKeyword .fun_) (complete : Complete .function ts d found) :
    Complete .declaration (keyword :: ts) (.functionDecl d) found := by
  intro rest last id errors _
  refine Answers.intro (arrives_peek ?_)
  rw [show (Cursor.peek ⟨keyword :: ts ++ rest, last, id, errors⟩).kind = .keyword .fun_ from
    Token.isKeyword_iff.1 isFun]
  refine arrives_advance (Arrives.bind (Arrives.ask ?_))
  refine (complete .function rest last id errors).mono ?_
  rintro d' t ⟨same, id', rfl⟩
  refine Arrives.finish ⟨?_, id', rfl⟩
  rw [Stmt.unnumbered, Stmt.unnumbered, same]

theorem Complete.varDeclaration {keyword : Token} {s : Stmt} (isVar : keyword.isKeyword .var_)
    (complete : Complete .varDecl ts s found) : Complete .declaration (keyword :: ts) s found := by
  intro rest last id errors _
  refine Answers.intro (arrives_peek ?_)
  rw [show (Cursor.peek ⟨keyword :: ts ++ rest, last, id, errors⟩).kind = .keyword .var_ from
    Token.isKeyword_iff.1 isVar]
  refine arrives_advance (Arrives.bind ((complete rest last id errors).mono ?_))
  intro s' t got
  exact Arrives.finish got

/-- What is not a class, a function or a variable is read as a statement. -/
theorem Complete.statement {s : Stmt}
    (starts : ∃ t us, ts = t :: us ∧ t.kind.startsStatement = true)
    (complete : Complete (.statement true) ts s found) : Complete .declaration ts s found := by
  intro rest last id errors next
  have read := complete rest last id errors fun _ => next
  obtain ⟨t, us, rfl, starts⟩ := starts
  refine Answers.intro (arrives_peek ?_)
  obtain ⟨kind, lexeme, line⟩ := t
  cases kind with
  | keyword k => cases k <;> first | exact Arrives.handOver read | cases starts
  | _ => exact Arrives.handOver read

/-! ### Statements -/

theorem Complete.print {short : Bool} {keyword semicolon : Token} {tree : Expr}
    (isPrint : keyword.isKeyword .print_) (complete : Complete (.expression .whole) ts tree found)
    (isSemicolon : semicolon.isSymbol .semicolon) :
    Complete (.statement short) (keyword :: (ts ++ [semicolon])) (.print tree) found := by
  intro rest last id errors _
  refine Answers.intro (arrives_peek ?_)
  rw [show (Cursor.peek ⟨keyword :: (ts ++ [semicolon]) ++ rest, last, id, errors⟩).kind =
    .keyword .print_ from Token.isKeyword_iff.1 isPrint, List.cons_append, List.append_assoc]
  refine arrives_advance (Arrives.bind (Arrives.ask ?_))
  refine (complete (semicolon :: rest) last id errors ?_).mono ?_
  · change 8 < semicolon.kind.strength
    rw [Token.isSymbol_iff.1 isSemicolon]
    decide
  · rintro e t ⟨same, id', rfl⟩
    refine arrives_expectSymbol isSemicolon (Arrives.finish ⟨?_, id', rfl⟩)
    rw [Stmt.unnumbered, Stmt.unnumbered, same]

theorem Complete.returns {short : Bool} {keyword semicolon : Token} {tree : Option Expr}
    (isReturn : keyword.isKeyword .return_) (complete : Complete .optional ts tree found)
    (isSemicolon : semicolon.isSymbol .semicolon) :
    Complete (.statement short) (keyword :: (ts ++ [semicolon])) (.ret keyword tree) found := by
  intro rest last id errors _
  refine Answers.intro (arrives_peek ?_)
  rw [show (Cursor.peek ⟨keyword :: (ts ++ [semicolon]) ++ rest, last, id, errors⟩).kind =
    .keyword .return_ from Token.isKeyword_iff.1 isReturn, List.cons_append, List.append_assoc]
  have next : (follower (semicolon :: rest) last).isSymbol .semicolon := isSemicolon
  refine arrives_advance (Arrives.bind ?_)
  refine (complete .semicolon (semicolon :: rest) last id errors rfl (by decide) next).mono ?_
  rintro e t ⟨same, id', rfl⟩
  refine arrives_expectSymbol isSemicolon (Arrives.finish ⟨?_, id', rfl⟩)
  rw [Stmt.unnumbered, Stmt.unnumbered, same]
  rfl

theorem Complete.block {short : Bool} {opening closing : Token} {body : List Stmt}
    (isOpening : opening.isSymbol .leftBrace) (complete : Complete .declarations ts body found)
    (isClosing : closing.isSymbol .rightBrace) :
    Complete (.statement short) (opening :: (ts ++ [closing])) (.block body) found := by
  intro rest last id errors _
  refine Answers.intro (arrives_peek ?_)
  rw [show (Cursor.peek ⟨opening :: (ts ++ [closing]) ++ rest, last, id, errors⟩).kind =
    .symbol .leftBrace from Token.isSymbol_iff.1 isOpening, List.cons_append, List.append_assoc]
  refine arrives_advance (Arrives.bind (Arrives.ask ?_))
  refine (complete.1 closing rest last id errors isClosing).mono ?_
  rintro body' t ⟨same, id', rfl⟩
  refine Arrives.finish ⟨?_, id', rfl⟩
  rw [Stmt.unnumbered, Stmt.unnumbered, same]

theorem Complete.whileLoop {short : Bool} {keyword left right : Token} {tree : Expr} {body : Stmt}
    (isWhile : keyword.isKeyword .while_) (isLeft : left.isSymbol .leftParen)
    (complete : Complete (.expression .whole) ts tree found) (isRight : right.isSymbol .rightParen)
    (complete' : Complete (.statement short) us body found') :
    Complete (.statement short) (keyword :: left :: (ts ++ right :: us)) (.loop tree body)
      (found ++ found') := by
  intro rest last id errors next
  rw [noted_append]
  refine Answers.intro (arrives_peek ?_)
  rw [show (Cursor.peek ⟨keyword :: left :: (ts ++ right :: us) ++ rest, last, id, errors⟩).kind =
    .keyword .while_ from Token.isKeyword_iff.1 isWhile, List.cons_append, List.cons_append,
    List.append_assoc]
  refine arrives_advance (Arrives.bind ((arrives_condition isLeft complete isRight).mono ?_))
  rintro e t ⟨same, id', rfl⟩
  refine Arrives.bind (Arrives.ask ((complete' rest last id' _ next).mono ?_))
  rintro body' t ⟨same', id'', rfl⟩
  refine Arrives.finish ⟨?_, id'', rfl⟩
  rw [Stmt.unnumbered, Stmt.unnumbered, same, same']

/-- Since no `else` follows, the `if` is read without one. -/
theorem Complete.ifThen {keyword left right : Token} {tree : Expr} {thenBranch : Stmt}
    (isIf : keyword.isKeyword .if_) (isLeft : left.isSymbol .leftParen)
    (complete : Complete (.expression .whole) ts tree found) (isRight : right.isSymbol .rightParen)
    (complete' : Complete (.statement true) us thenBranch found') :
    Complete (.statement true) (keyword :: left :: (ts ++ right :: us))
      (.conditional tree thenBranch none) (found ++ found') := by
  intro rest last id errors next
  rw [noted_append]
  refine Answers.intro (arrives_peek ?_)
  rw [show (Cursor.peek ⟨keyword :: left :: (ts ++ right :: us) ++ rest, last, id, errors⟩).kind =
    .keyword .if_ from Token.isKeyword_iff.1 isIf, List.cons_append, List.cons_append,
    List.append_assoc]
  refine arrives_advance (Arrives.bind ?_)
  refine Arrives.bind ((arrives_condition isLeft complete isRight).mono ?_)
  rintro e t ⟨same, id', rfl⟩
  refine Arrives.bind (Arrives.ask ((complete' rest last id' _ next).mono ?_))
  rintro s t ⟨same', id'', rfl⟩
  refine arrives_peek ?_
  rw [if_neg (show ¬ (Cursor.peek ⟨rest, last, id'', _⟩).isKeyword .else_ = true from
    Bool.eq_false_iff.1 (next rfl))]
  refine Arrives.pure (Arrives.finish ⟨?_, id'', rfl⟩)
  rw [Stmt.unnumbered, Stmt.unnumbered, same, same']

/-- The branch before the `else` is over there. -/
theorem Complete.ifThenElse {short : Bool} {keyword left right otherwise : Token} {tree : Expr}
    {thenBranch elseBranch : Stmt} (isIf : keyword.isKeyword .if_)
    (isLeft : left.isSymbol .leftParen) (complete : Complete (.expression .whole) ts tree found)
    (isRight : right.isSymbol .rightParen)
    (complete' : Complete (.statement false) us thenBranch found')
    (isElse : otherwise.isKeyword .else_)
    (complete'' : Complete (.statement short) vs elseBranch found'') :
    Complete (.statement short)
      (keyword :: left :: (ts ++ right :: (us ++ otherwise :: vs)))
      (.conditional tree thenBranch (some elseBranch)) (found ++ (found' ++ found'')) := by
  intro rest last id errors next
  rw [noted_append, noted_append]
  refine Answers.intro (arrives_peek ?_)
  rw [show (Cursor.peek ⟨keyword :: left :: (ts ++ right :: (us ++ otherwise :: vs)) ++ rest, last,
    id, errors⟩).kind = .keyword .if_ from Token.isKeyword_iff.1 isIf]
  simp only [List.cons_append, List.append_assoc]
  refine arrives_advance (Arrives.bind ?_)
  refine Arrives.bind ((arrives_condition isLeft complete isRight).mono ?_)
  rintro e t ⟨same, id', rfl⟩
  refine Arrives.bind (Arrives.ask ((complete' _ last id' _ (nomatch ·)).mono ?_))
  rintro s t ⟨same', id'', rfl⟩
  refine arrives_peek ?_
  rw [if_pos (show (Cursor.peek ⟨otherwise :: (vs ++ rest), last, id'', _⟩).isKeyword .else_ =
    true from isElse)]
  refine arrives_advance (Arrives.bind (Arrives.ask ?_))
  refine (complete'' rest last id'' _ next).mono ?_
  rintro s' t ⟨same'', id₃, rfl⟩
  refine Arrives.pure (Arrives.finish ⟨?_, id₃, rfl⟩)
  rw [Stmt.unnumbered, Stmt.unnumbered, same, same', Stmt.unnumberedOption, same'']
  rfl

/-- What starts an expression is read as one. -/
theorem Complete.effect {short : Bool} {semicolon : Token} {tree : Expr}
    (starts : ∃ t us, ts = t :: us ∧ t.kind.startsExpression = true)
    (complete : Complete (.expression .whole) ts tree found)
    (isSemicolon : semicolon.isSymbol .semicolon) :
    Complete (.statement short) (ts ++ [semicolon]) (.expression tree) found := by
  intro rest last id errors _
  rw [List.append_assoc]
  have read : Arrives expressionStatement ⟨ts ++ semicolon :: rest, last, id, errors⟩
      (Gets last (noted found errors) Stmt.unnumbered (.expression tree) rest) :=
    arrives_expressionStatement complete isSemicolon
  obtain ⟨t, us, rfl, starts⟩ := starts
  refine Answers.intro (arrives_peek ?_)
  have finished := read.mono fun s t got => Arrives.finish (p := .statement) got
  obtain ⟨kind, lexeme, line⟩ := t
  cases kind with
  | symbol s => cases s <;> first | exact Arrives.bind finished | cases starts
  | keyword k => cases k <;> first | exact Arrives.bind finished | cases starts
  | _ => exact Arrives.bind finished

/-! ### Loops with clauses -/

theorem Complete.forNothing {semicolon : Token} (isSemicolon : semicolon.isSymbol .semicolon) :
    Complete .forInit [semicolon] none [] := by
  intro rest last id errors
  refine arrives_peek ?_
  rw [show (Cursor.peek ⟨[semicolon] ++ rest, last, id, errors⟩).kind = .symbol .semicolon from
    Token.isSymbol_iff.1 isSemicolon]
  exact arrives_advance (Arrives.pure ⟨rfl, id, rfl⟩)

theorem Complete.forVar {keyword : Token} {s : Stmt} (isVar : keyword.isKeyword .var_)
    (complete : Complete .varDecl ts s found) :
    Complete .forInit (keyword :: ts) (some s) found := by
  intro rest last id errors
  refine arrives_peek ?_
  rw [show (Cursor.peek ⟨keyword :: ts ++ rest, last, id, errors⟩).kind = .keyword .var_ from
    Token.isKeyword_iff.1 isVar]
  refine arrives_advance (Arrives.map ((complete rest last id errors).mono ?_))
  rintro s' t ⟨same, id', rfl⟩
  exact ⟨congrArg some same, id', rfl⟩

theorem Complete.forEffect {semicolon : Token} {tree : Expr}
    (starts : ∃ t us, ts = t :: us ∧ t.kind.startsExpression = true)
    (complete : Complete (.expression .whole) ts tree found)
    (isSemicolon : semicolon.isSymbol .semicolon) :
    Complete .forInit (ts ++ [semicolon]) (some (.expression tree)) found := by
  intro rest last id errors
  rw [List.append_assoc]
  have read : Arrives (some <$> expressionStatement) ⟨ts ++ semicolon :: rest, last, id, errors⟩
      (Gets last (noted found errors) Stmt.unnumberedOption (some (.expression tree)) rest) := by
    refine Arrives.map ((arrives_expressionStatement complete isSemicolon).mono ?_)
    rintro s t ⟨same, id', rfl⟩
    exact ⟨congrArg some same, id', rfl⟩
  obtain ⟨t, us, rfl, starts⟩ := starts
  refine arrives_peek ?_
  obtain ⟨kind, lexeme, line⟩ := t
  cases kind with
  | symbol s => cases s <;> first | exact read | cases starts
  | keyword k => cases k <;> first | exact read | cases starts
  | _ => exact read

/-- The numbers in a loop are those in its clauses and its body. -/
theorem unnumbered_forLoop (keyword : Token) (initializer : Option Stmt)
    (condition increment : Option Expr) (body : Stmt) :
    (Grammar.forLoop keyword initializer condition increment body).unnumbered =
      Grammar.forLoop keyword (Stmt.unnumberedOption initializer)
        (condition.map Expr.unnumbered) (increment.map Expr.unnumbered) body.unnumbered := by
  cases initializer <;> cases condition <;> cases increment <;> rfl

theorem Complete.forLoop {short : Bool} {keyword left semicolon right : Token}
    {initializer : Option Stmt} {condition increment : Option Expr} {body : Stmt}
    (isFor : keyword.isKeyword .for_) (isLeft : left.isSymbol .leftParen)
    (complete : Complete .forInit ts initializer found)
    (complete' : Complete .optional us condition found')
    (isSemicolon : semicolon.isSymbol .semicolon)
    (complete'' : Complete .optional vs increment found'')
    (isRight : right.isSymbol .rightParen)
    (complete₃ : Complete (.statement short) ws body found₃) :
    Complete (.statement short)
      (keyword :: left :: (ts ++ (us ++ semicolon :: (vs ++ right :: ws))))
      (Grammar.forLoop keyword initializer condition increment body)
      (found ++ (found' ++ (found'' ++ found₃))) := by
  intro rest last id errors next
  rw [noted_append, noted_append, noted_append]
  refine Answers.intro (arrives_peek ?_)
  rw [show (Cursor.peek
    ⟨keyword :: left :: (ts ++ (us ++ semicolon :: (vs ++ right :: ws))) ++ rest,
    last, id, errors⟩).kind = .keyword .for_ from Token.isKeyword_iff.1 isFor]
  simp only [List.cons_append, List.append_assoc]
  refine arrives_advance (Arrives.bind ?_)
  rw [forStatement_eq]
  refine arrives_expectSymbol isLeft (Arrives.bind ((complete _ last id _).mono ?_))
  rintro initializer' t ⟨same, id₁, rfl⟩
  have atSemicolon :
      (follower (semicolon :: (vs ++ right :: (ws ++ rest))) last).isSymbol .semicolon :=
    isSemicolon
  refine Arrives.bind ((complete' .semicolon _ last id₁ _ rfl (by decide) atSemicolon).mono ?_)
  rintro condition' t ⟨same', id₂, rfl⟩
  have atRight : (follower (right :: (ws ++ rest)) last).isSymbol .rightParen := isRight
  refine arrives_expectSymbol isSemicolon (Arrives.bind ?_)
  refine (complete'' .rightParen _ last id₂ _ rfl (by decide) atRight).mono ?_
  rintro increment' t ⟨same'', id₃, rfl⟩
  refine arrives_expectSymbol isRight (Arrives.bind (Arrives.ask ?_))
  refine (complete₃ rest last id₃ _ next).mono ?_
  rintro body' t ⟨same₃, id₄, rfl⟩
  refine Arrives.pure (Arrives.finish ⟨?_, id₄, rfl⟩)
  change (lowerFor initializer' (condition'.getD (.literal (.boolean true) keyword.line)) increment'
    body').unnumbered = _
  rw [lowerFor_eq]
  rw [unnumbered_forLoop, unnumbered_forLoop, same, same', same'', same₃]

/-! ### Programs -/

theorem Complete.noDeclarations : Complete .declarations [] [] [] := by
  refine ⟨fun closing rest last id errors isClosing => ?_, fun last id errors isEnd => ?_⟩
  · refine Answers.intro (delivers_atClosing ?_)
    rw [show ((Cursor.peek ⟨[] ++ closing :: rest, last, id, errors⟩).isSymbol .rightBrace ||
      Cursor.atEnd ⟨[] ++ closing :: rest, last, id, errors⟩) = true from
        Bool.or_eq_true_iff.2 (.inl isClosing)]
    exact arrives_expectSymbol isClosing (Arrives.finish ⟨rfl, id, rfl⟩)
  · exact Answers.intro (arrives_atEnd (Arrives.finish ⟨rfl, id, rfl⟩))

/-- What follows a declaration in a list is another declaration, a brace or the end of the input,
and never an `else`. -/
theorem Complete.declarations {s : Stmt} {ss : List Stmt}
    (starts : ∃ t vs, ts = t :: vs ∧ t.kind.startsDeclaration = true)
    (complete : Complete .declaration ts s found)
    (starts' : us = [] ∨ ∃ t vs, us = t :: vs ∧ t.kind.startsDeclaration = true)
    (complete' : Complete .declarations us ss found') :
    Complete .declarations (ts ++ us) (s :: ss) (found ++ found') := by
  have isOther {t : Token} {k : Keyword} (starts : t.kind.startsDeclaration = true)
      (no : (TokenKind.keyword k).startsDeclaration = false) : t.isKeyword k = false := by
    rw [Bool.eq_false_iff]
    intro isKeyword
    rw [Token.isKeyword_iff.1 isKeyword, no] at starts
    cases starts
  obtain ⟨t, ts, rfl, starts⟩ := starts
  refine ⟨fun closing rest last id errors isClosing => ?_, fun last id errors isEnd => ?_⟩
  · rw [noted_append]
    have isOpen : t.isSymbol .rightBrace = false := by
      rw [Bool.eq_false_iff]
      intro isSymbol
      rw [Token.isSymbol_iff.1 isSymbol] at starts
      cases starts
    have next : (follower (us ++ closing :: rest) last).isKeyword .else_ = false := by
      rcases starts' with rfl | ⟨u, us, rfl, starts'⟩
      · change closing.isKeyword .else_ = false
        rw [Token.isKeyword, Token.isSymbol_iff.1 isClosing]
      · exact isOther starts' rfl
    refine Answers.intro (delivers_atClosing ?_)
    rw [show ((Cursor.peek ⟨t :: ts ++ us ++ closing :: rest, last, id, errors⟩).isSymbol
      .rightBrace || Cursor.atEnd ⟨t :: ts ++ us ++ closing :: rest, last, id, errors⟩) = false from
        Bool.or_eq_false_iff.2 ⟨isOpen, rfl⟩, List.append_assoc]
    refine Arrives.bind (Arrives.ask ((complete _ last id errors next).mono ?_))
    rintro s' t' ⟨same, id', rfl⟩
    refine Arrives.bind (Arrives.ask ?_)
    refine (complete'.1 closing rest last id' _ isClosing).mono ?_
    rintro ss' t' ⟨same', id'', rfl⟩
    refine Arrives.finish ⟨?_, id'', rfl⟩
    rw [Stmt.unnumberedList, Stmt.unnumberedList, same, same']
  · rw [noted_append]
    have next : (follower us last).isKeyword .else_ = false := by
      rcases starts' with rfl | ⟨u, us, rfl, starts'⟩
      · change last.isKeyword .else_ = false
        rw [Bool.eq_false_iff]
        intro isKeyword
        rw [Token.isKeyword_iff.1 isKeyword] at isEnd
        cases isEnd
      · exact isOther starts' rfl
    refine Answers.intro (arrives_atEnd ?_)
    refine Arrives.bind (Arrives.tryCatch (Arrives.map (Arrives.ask ?_)))
    refine (complete us last id errors next).mono ?_
    rintro s' t' ⟨same, id', rfl⟩
    refine Arrives.bind (Arrives.ask ((complete'.2 last id' _ isEnd).mono ?_))
    rintro ss' t' ⟨same', id'', rfl⟩
    refine Arrives.finish ⟨?_, id'', rfl⟩
    change Stmt.unnumberedList (s' :: ss') = _
    rw [Stmt.unnumberedList, Stmt.unnumberedList, same, same']

end Lox.Parser
