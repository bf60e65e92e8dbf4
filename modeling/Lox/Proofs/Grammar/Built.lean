import Lox.Proofs.Grammar.Build.Expression
import Lox.Proofs.Grammar.Soundness

/-!
# Trees are built in order

Every phrase that the parser reads without an error is constructed out of its tokens in the order of
`Grammar.Constructs`, and its nodes get consecutive numbers in this order. The proof follows the
treatments of the requests, one after the other; nothing is built after an error, since the error
stays noted.

## Main results

* `Parser.built`: the treatments of all requests build what they should.
* `constructs_of_parseProgram`, `constructs_of_parseExpression`: the numbers of a tree are those
  between the counters before and after it, in the order of construction.
-/

namespace Lox

namespace Parser

open Grammar (Constructs)

variable {c : Cursor}

/-! ### Functions and classes -/

theorem builds_parameters (before : Nat) (closed : c.last.kind.isEnd = true) :
    Builds c (Ends (Made (.parameters before))) (step _ (.parameters before)) := by
  refine .bind (builds_checkArity closed) fun _ _ t passes => ?_
  refine .bind (.expectName passes.closed) fun _ name u passes' => ?_
  refine .accept (fun isComma => ?_) ?_
  · refine .bind (.advance passes'.closed (Cursor.isEnd_of_isSymbol isComma))
      fun _ _ v passes'' => ?_
    refine .bind (.ask (.parameters (before + 1)) passes''.closed) fun vs names w passes₃ => ?_
    refine .pure passes₃.closed ?_
    rintro _ ⟨rfl, later⟩ _ ⟨rfl, rfl⟩ _ ⟨rfl, rfl⟩ _ ⟨rfl, rfl⟩
    simpa [Ends, Made] using Constructs.names isComma later
  · refine .pure passes'.closed ?_
    rintro _ ⟨rfl, rfl⟩ _ ⟨rfl, rfl⟩
    exact ⟨rfl, .lastName name⟩

/-- The parameters of a function, if there are any. -/
theorem builds_functionParameters (closed : c.last.kind.isEnd = true) (none : Bool) :
    Builds c (fun ts names log => log = [] ∧ Constructs .names ts names [])
      (if none = true then pure [] else Parse.ask (.parameters 0)) := by
  cases none with
  | true => exact .pure closed ⟨rfl, .noNames⟩
  | false => exact .ask (.parameters 0) closed

theorem builds_function (sort : FunctionSort) (closed : c.last.kind.isEnd = true) :
    Builds c (Ends (Made (.function sort))) (step _ (.function sort)) := by
  refine .bind (.expectName closed) fun _ name t passes => ?_
  refine .bind (.expectSymbol passes.closed) fun _ left u passes' => ?_
  refine .sees (.either ?_)
  refine .bind (builds_functionParameters passes'.closed _) fun ts params v passes₂ => ?_
  refine .bind (.expectSymbol passes₂.closed) fun _ right w passes₃ => ?_
  refine .bind (.expectSymbol passes₃.closed) fun _ brace x passes₄ => ?_
  refine .bind (.ask .block passes₄.closed) fun _ body y passes₅ => ?_
  refine .pure passes₅.closed ?_
  rintro log ⟨us, closing, rfl, isClosing, isBody⟩ _ ⟨rfl, isBrace, rfl⟩ _ ⟨rfl, isRight, rfl⟩
    _ ⟨rfl, isParameters⟩ _ ⟨rfl, isLeft, rfl⟩ _ ⟨rfl, rfl⟩
  simpa [Ends, Made] using
    Constructs.function name isLeft isParameters isRight isBrace isBody isClosing

/-- Whether a braced list is over. -/
theorem builds_atClosing {α : Type} {good : List Token → α → List Occurrence → Prop}
    {next : Bool → Parse α} (h : Builds c good (next (c.peek.isSymbol .rightBrace || c.atEnd))) :
    Builds c good (atClosing >>= next) := by
  have isAtClosing : atClosing >>= next = Parse.sees .rightBrace >>= fun seen =>
      if seen = true then next true else Parse.atEnd >>= next := by
    simp only [atClosing, bind_assoc]
    congr 1
    funext seen
    cases seen <;> simp
  rw [isAtClosing]
  refine .sees ?_
  cases isSymbol : c.peek.isSymbol .rightBrace with
  | true =>
    rw [isSymbol] at h
    exact h
  | false =>
    rw [isSymbol] at h
    exact .atEnd h

theorem builds_methods (closed : c.last.kind.isEnd = true) :
    Builds c (Ends (Made .methods)) (step _ .methods) := by
  refine builds_atClosing ?_
  cases c.peek.isSymbol .rightBrace || c.atEnd with
  | true => exact .pure closed .noFunctions
  | false =>
    refine .bind (.ask (.function .method) closed) fun ts d t passes => ?_
    refine .bind (.ask .methods passes.closed) fun us ds u passes' => ?_
    refine .pure passes'.closed ?_
    rintro log' later log isFirst
    simpa [Ends, Made] using Constructs.functions isFirst later

theorem builds_superclassClause (closed : c.last.kind.isEnd = true) :
    Builds c (fun ts superclass log => log = superclass.toList ∧
      ((ts = [] ∧ superclass = none) ∨ ∃ less parent, ts = [less, parent.name] ∧
        less.isSymbol .less ∧ superclass = some parent)) superclassClause := by
  refine .accept (fun isLess => ?_) ?_
  · refine .bind (.advance closed (Cursor.isEnd_of_isSymbol isLess)) fun _ _ t passes => ?_
    refine .bind (.expectName passes.closed) fun _ name u passes' => ?_
    refine .map ((Builds.occurrence passes'.closed).mono ?_)
    rintro _ parent _ ⟨rfl, rfl, rfl⟩ _ ⟨rfl, rfl⟩ _ ⟨rfl, rfl⟩
    exact ⟨rfl, .inr ⟨c.peek, parent, rfl, isLess, rfl⟩⟩
  · exact .pure closed ⟨rfl, .inl ⟨rfl, rfl⟩⟩

/-- The keyword of a class is passed already. -/
theorem builds_classDeclaration {keyword : Token} (isClass : keyword.isKeyword .class_)
    (closed : c.last.kind.isEnd = true) :
    Builds c (fun ts s log => Constructs .statement (keyword :: ts) s log) classDeclaration := by
  rw [classDeclaration_eq]
  refine .bind (.expectName closed) fun _ name t passes => ?_
  refine .bind (builds_superclassClause passes.closed) fun ts superclass u passes₁ => ?_
  refine .bind (.expectSymbol passes₁.closed) fun _ brace v passes₂ => ?_
  refine .bind (.ask .methods passes₂.closed) fun us ds w passes₃ => ?_
  refine .bind (.expectSymbol passes₃.closed) fun _ closing x passes₄ => ?_
  refine .pure passes₄.closed ?_
  rintro _ ⟨rfl, isClosing, rfl⟩ log areMethods _ ⟨rfl, isBrace, rfl⟩ _ ⟨rfl, isSuperclass⟩
    _ ⟨rfl, rfl⟩
  rcases isSuperclass with ⟨rfl, rfl⟩ | ⟨less, parent, rfl, isLess, rfl⟩
  · simpa using .base name isClass isBrace areMethods isClosing
  · simpa using .derived name isClass isLess isBrace areMethods isClosing

/-! ### Variables -/

theorem builds_initializerClause (closed : c.last.kind.isEnd = true) :
    Builds c (fun ts initializer log => (ts = [] ∧ initializer = none ∧ log = []) ∨
      ∃ equal us e, ts = equal :: us ∧ equal.isSymbol .equal ∧ initializer = some e ∧
        Constructs .expression us e log) initializerClause := by
  refine .accept (fun isEqual => ?_) ?_
  · refine .bind (.advance closed (Cursor.isEnd_of_isSymbol isEqual)) fun _ _ t passes => ?_
    refine .map ((Builds.ask .expression passes.closed).mono ?_)
    rintro ts e log isValue _ ⟨rfl, rfl⟩
    exact .inr ⟨c.peek, ts, e, rfl, isEqual, rfl, isValue⟩
  · exact .pure closed (.inl ⟨rfl, rfl, rfl⟩)

/-- The keyword of a variable is passed already. -/
theorem builds_varDeclaration {keyword : Token} (isVar : keyword.isKeyword .var_)
    (closed : c.last.kind.isEnd = true) :
    Builds c (fun ts s log => Constructs .statement (keyword :: ts) s log) varDeclaration := by
  rw [varDeclaration_eq]
  refine .bind (.expectName closed) fun _ name t passes => ?_
  refine .bind (builds_initializerClause passes.closed) fun ts initializer u passes₁ => ?_
  refine .bind (.expectSymbol passes₁.closed) fun _ semicolon v passes₂ => ?_
  refine .pure passes₂.closed ?_
  rintro _ ⟨rfl, isSemicolon, rfl⟩ log isInitializer _ ⟨rfl, rfl⟩
  rcases isInitializer with ⟨rfl, rfl, rfl⟩ | ⟨equal, us, e, rfl, isEqual, rfl, isValue⟩
  · exact .declared isVar isSemicolon
  · simpa using .initialized name isVar isEqual isValue isSemicolon

theorem builds_declaration (closed : c.last.kind.isEnd = true) :
    Builds c (Ends (Made .declaration)) (step _ .declaration) := by
  refine .peek ?_
  split
  · rename_i isKind
    have isClass := Token.isKeyword_iff.2 isKind
    refine .bind (.advance closed (Cursor.isEnd_of_isKeyword isClass)) fun _ _ t passes => ?_
    refine .bind (builds_classDeclaration isClass passes.closed) fun ts s u passes' => ?_
    refine .pure passes'.closed ?_
    rintro log isDeclaration _ ⟨rfl, rfl⟩
    simpa [Ends, Made] using isDeclaration
  · rename_i isKind
    have isFun := Token.isKeyword_iff.2 isKind
    refine .bind (.advance closed (Cursor.isEnd_of_isKeyword isFun)) fun _ _ t passes => ?_
    refine .bind (.ask (.function .function) passes.closed) fun ts d u passes' => ?_
    refine .pure passes'.closed ?_
    rintro log isFunction _ ⟨rfl, rfl⟩
    simpa [Ends, Made] using Constructs.functionDeclaration isFun isFunction
  · rename_i isKind
    have isVar := Token.isKeyword_iff.2 isKind
    refine .bind (.advance closed (Cursor.isEnd_of_isKeyword isVar)) fun _ _ t passes => ?_
    refine .bind (builds_varDeclaration isVar passes.closed) fun ts s u passes' => ?_
    refine .pure passes'.closed ?_
    rintro log isDeclaration _ ⟨rfl, rfl⟩
    simpa [Ends, Made] using isDeclaration
  · exact .pure closed fun _ _ _ made => made

/-! ### Statements -/

/-- The condition of a statement, in its parentheses. -/
theorem builds_condition {k : Keyword} (closed : c.last.kind.isEnd = true) :
    Builds c (fun ts e log => ∃ left us right, ts = left :: (us ++ [right]) ∧
      left.isSymbol .leftParen ∧ Constructs .expression us e log ∧ right.isSymbol .rightParen)
      (condition k) := by
  refine .bind (.expectSymbol closed) fun _ left t passes => ?_
  refine .bind (.ask .expression passes.closed) fun us e u passes₁ => ?_
  refine .bind (.expectSymbol passes₁.closed) fun _ right v passes₂ => ?_
  refine .pure passes₂.closed ?_
  rintro _ ⟨rfl, isRight, rfl⟩ log isCondition _ ⟨rfl, isLeft, rfl⟩
  exact ⟨left, us, right, by simp, isLeft, by simpa [Made] using isCondition, isRight⟩

theorem builds_optionalExpression {terminator : Symbol} (closed : c.last.kind.isEnd = true) :
    Builds c (fun ts e log => Constructs .optional ts e log) (optionalExpression terminator) := by
  refine .sees ?_
  cases c.peek.isSymbol terminator with
  | true => exact .pure closed .absent
  | false => exact .map ((Builds.ask .expression closed).mono fun _ _ _ isValue => .present isValue)

theorem builds_expressionStatement (closed : c.last.kind.isEnd = true) :
    Builds c (fun ts s log => Constructs .statement ts s log) expressionStatement := by
  refine .bind (.ask .expression closed) fun ts e t passes => ?_
  refine .bind (.expectSymbol passes.closed) fun _ semicolon u passes' => ?_
  refine .pure passes'.closed ?_
  rintro _ ⟨rfl, isSemicolon, rfl⟩ log isValue
  simpa using .effect isValue isSemicolon

theorem builds_initialClause (closed : c.last.kind.isEnd = true) :
    Builds c (fun ts s log => Constructs .initial ts s log) initialClause := by
  refine .peek ?_
  split
  · rename_i isKind
    have isSemicolon := Token.isSymbol_iff.2 isKind
    refine .bind (.advance closed (Cursor.isEnd_of_isSymbol isSemicolon)) fun _ _ t passes => ?_
    refine .pure passes.closed ?_
    rintro _ ⟨rfl, rfl⟩
    exact .noInitial isSemicolon
  · rename_i isKind
    have isVar := Token.isKeyword_iff.2 isKind
    refine .bind (.advance closed (Cursor.isEnd_of_isKeyword isVar)) fun _ _ t passes => ?_
    refine .map ((builds_varDeclaration isVar passes.closed).mono ?_)
    rintro ts s log isDeclaration _ ⟨rfl, rfl⟩
    exact .initial isDeclaration
  · exact .map ((builds_expressionStatement closed).mono fun _ _ _ isEffect => .initial isEffect)

/-- The clauses are constructed as they are written. The keyword is passed already. -/
theorem builds_forStatement {keyword : Token} (isFor : keyword.isKeyword .for_)
    (closed : c.last.kind.isEnd = true) :
    Builds c (fun ts s log => Constructs .statement (keyword :: ts) s log)
      (forStatement keyword) := by
  rw [forStatement_eq]
  refine .bind (.expectSymbol closed) fun _ left t passes => ?_
  refine .bind (builds_initialClause passes.closed) fun ts initializer u passes₁ => ?_
  refine .bind (builds_optionalExpression passes₁.closed) fun us condition v passes₂ => ?_
  refine .bind (.expectSymbol passes₂.closed) fun _ semicolon w passes₃ => ?_
  refine .bind (builds_optionalExpression passes₃.closed) fun vs increment x passes₄ => ?_
  refine .bind (.expectSymbol passes₄.closed) fun _ right y passes₅ => ?_
  refine .bind (.ask .statement passes₅.closed) fun ws body z passes₆ => ?_
  refine .pure passes₆.closed ?_
  rintro log₄ isBody _ ⟨rfl, isRight, rfl⟩ log₃ isIncrement _ ⟨rfl, isSemicolon, rfl⟩ log₂
    isCondition log₁ isInitializer _ ⟨rfl, isLeft, rfl⟩
  rw [lowerFor_eq]
  simpa using .forLoop isFor isLeft isInitializer isCondition isSemicolon isIncrement isRight isBody

/-- The keyword of the statement is passed already. -/
theorem builds_ifStatement {keyword : Token} (isIf : keyword.isKeyword .if_)
    (closed : c.last.kind.isEnd = true) :
    Builds c (fun ts s log => Constructs .statement (keyword :: ts) s log) ifStatement := by
  refine .bind (builds_condition closed) fun ts e t passes => ?_
  refine .bind (.ask .statement passes.closed) fun us thenBranch u passes₁ => ?_
  refine .peek ?_
  by_cases isElse : u.peek.isKeyword .else_ = true
  · rw [if_pos isElse]
    refine .bind (.advance passes₁.closed (Cursor.isEnd_of_isKeyword isElse))
      fun _ _ v passes₂ => ?_
    refine .bind (.ask .statement passes₂.closed) fun vs elseBranch w passes₃ => ?_
    refine .pure passes₃.closed ?_
    rintro log'' isElseBranch _ ⟨rfl, rfl⟩ log' isThen log
      ⟨left, ws, right, rfl, isLeft, isCondition, isRight⟩
    simpa using .ifThenElse isIf isLeft isCondition isRight isThen isElse isElseBranch
  · rw [if_neg isElse]
    refine .pure passes₁.closed ?_
    rintro log' isThen log ⟨left, ws, right, rfl, isLeft, isCondition, isRight⟩
    simpa using .ifThen isIf isLeft isCondition isRight isThen

theorem builds_statement (closed : c.last.kind.isEnd = true) :
    Builds c (Ends (Made .statement)) (step _ .statement) := by
  refine .peek ?_
  split
  · rename_i isKind
    have isFor := Token.isKeyword_iff.2 isKind
    refine .bind (.advance closed (Cursor.isEnd_of_isKeyword isFor)) fun _ _ t passes => ?_
    refine .bind (builds_forStatement isFor passes.closed) fun ts s u passes₁ => ?_
    refine .pure passes₁.closed ?_
    rintro log isStatement _ ⟨rfl, rfl⟩
    simpa [Ends, Made] using isStatement
  · rename_i isKind
    have isIf := Token.isKeyword_iff.2 isKind
    refine .bind (.advance closed (Cursor.isEnd_of_isKeyword isIf)) fun _ _ t passes => ?_
    refine .bind (builds_ifStatement isIf passes.closed) fun ts s u passes₁ => ?_
    refine .pure passes₁.closed ?_
    rintro log isStatement _ ⟨rfl, rfl⟩
    simpa [Ends, Made] using isStatement
  · rename_i isKind
    have isPrint := Token.isKeyword_iff.2 isKind
    refine .bind (.advance closed (Cursor.isEnd_of_isKeyword isPrint)) fun _ _ t passes => ?_
    refine .bind (.ask .expression passes.closed) fun ts e u passes₁ => ?_
    refine .bind (.expectSymbol passes₁.closed) fun _ semicolon v passes₂ => ?_
    refine .pure passes₂.closed ?_
    rintro _ ⟨rfl, isSemicolon, rfl⟩ log isValue _ ⟨rfl, rfl⟩
    simpa [Ends, Made] using Constructs.print isPrint isValue isSemicolon
  · rename_i isKind
    have isReturn := Token.isKeyword_iff.2 isKind
    refine .bind (.advance closed (Cursor.isEnd_of_isKeyword isReturn)) fun _ _ t passes => ?_
    refine .bind (builds_optionalExpression passes.closed) fun ts e u passes₁ => ?_
    refine .bind (.expectSymbol passes₁.closed) fun _ semicolon v passes₂ => ?_
    refine .pure passes₂.closed ?_
    rintro _ ⟨rfl, isSemicolon, rfl⟩ log isValue _ ⟨rfl, rfl⟩
    simpa [Ends, Made] using Constructs.returns isReturn isValue isSemicolon
  · rename_i isKind
    have isWhile := Token.isKeyword_iff.2 isKind
    refine .bind (.advance closed (Cursor.isEnd_of_isKeyword isWhile)) fun _ _ t passes => ?_
    refine .bind (builds_condition passes.closed) fun ts e u passes₁ => ?_
    refine .bind (.ask .statement passes₁.closed) fun us body v passes₂ => ?_
    refine .pure passes₂.closed ?_
    rintro log' isBody log ⟨left, ws, right, rfl, isLeft, isCondition, isRight⟩ _ ⟨rfl, rfl⟩
    simpa [Ends, Made] using Constructs.whileLoop isWhile isLeft isCondition isRight isBody
  · rename_i isKind
    have isOpening := Token.isSymbol_iff.2 isKind
    refine .bind (.advance closed (Cursor.isEnd_of_isSymbol isOpening)) fun _ _ t passes => ?_
    refine .bind (.ask .block passes.closed) fun ts body u passes₁ => ?_
    refine .pure passes₁.closed ?_
    rintro log ⟨us, closing, rfl, isClosing, isBody⟩ _ ⟨rfl, rfl⟩
    simpa [Ends, Made] using Constructs.block isOpening isBody isClosing
  · refine .bind (builds_expressionStatement closed) fun ts s t passes => ?_
    refine .pure passes.closed fun log isStatement => ?_
    simpa [Ends, Made] using isStatement

/-! ### Lists of declarations -/

theorem builds_block (closed : c.last.kind.isEnd = true) :
    Builds c (Ends (Made .block)) (step _ .block) := by
  refine builds_atClosing ?_
  cases c.peek.isSymbol .rightBrace || c.atEnd with
  | true =>
    refine .bind (.expectSymbol closed) fun _ closing t passes => ?_
    refine .pure passes.closed ?_
    rintro _ ⟨rfl, isClosing, rfl⟩
    exact ⟨[], closing, rfl, isClosing, .noStatements⟩
  | false =>
    refine .bind (.ask .declaration closed) fun ts s t passes => ?_
    refine .bind (.ask .block passes.closed) fun us ss u passes₁ => ?_
    refine .pure passes₁.closed ?_
    rintro log' ⟨vs, closing, rfl, isClosing, later⟩ log isFirst
    refine ⟨ts ++ vs, closing, by simp, isClosing, ?_⟩
    simpa using Constructs.statements isFirst later

/-- After recovery from an error nothing is built, since the error is noted. -/
theorem builds_recovering (closed : c.last.kind.isEnd = true) :
    Builds c (fun ts s log => ∃ d, s = some d ∧ Constructs .statement ts d log)
      (tryCatch (some <$> Parse.ask .declaration) fun e => do
        Parse.record e.token e.cause
        modify Cursor.synchronize
        return none) := by
  have asked : Builds c (fun ts s log => ∃ d, s = some d ∧ Constructs .statement ts d log)
      (some <$> Parse.ask .declaration) :=
    .map ((Builds.ask .declaration closed).mono fun _ d _ made => ⟨d, rfl, made⟩)
  refine Routine.Keeps.bind asked ?_
  rintro ⟨e | s, t⟩ ⟨ts, passes, isGood⟩
  · let noting : Cursor := { t with errors := ⟨e.token, e.cause⟩ :: t.errors }
    have noted : t.Passes [] noting :=
      ⟨rfl, rfl, passes.closed, Nat.le_refl _, Nat.le_succ _⟩
    obtain ⟨us, recovers, -⟩ := Cursor.exists_passes_synchronize noted.closed
    refine .done ⟨_, (passes.trans noted).trans recovers, fun _ _ clean => ?_⟩
    have le : c.errors.length ≤ t.errors.length := passes.noted_le
    have le' : t.errors.length + 1 ≤ noting.synchronize.errors.length := recovers.noted_le
    have same : noting.synchronize.errors.length = c.errors.length := clean
    omega
  · exact .done ⟨ts, passes, isGood⟩

theorem builds_program (closed : c.last.kind.isEnd = true) :
    Builds c (Ends (Made .program)) (step _ .program) := by
  refine .atEnd ?_
  cases c.atEnd with
  | true => exact .pure closed .noStatements
  | false =>
    refine .bind (builds_recovering closed) fun ts s t passes => ?_
    refine .bind (.ask .program passes.closed) fun us ss u passes₁ => ?_
    refine .pure passes₁.closed ?_
    rintro log' later log ⟨d, rfl, isFirst⟩
    simpa [Ends, Made] using Constructs.statements isFirst later

/-! ### Runs -/

/-- The treatments of all requests build what they should. -/
theorem built : building.Honoured (Job.body step) := by
  refine Job.honoured_of_keeps fun p request c closed => ?_
  refine Routine.Keeps.mono (Q := Built c (Ends (Made request))) ?_ fun left => closes_of_ends
  cases request with
  | program => exact builds_program closed
  | declaration => exact builds_declaration closed
  | statement => exact builds_statement closed
  | block => exact builds_block closed
  | methods => exact builds_methods closed
  | function sort => exact builds_function sort closed
  | parameters before => exact builds_parameters before closed
  | arguments before => exact builds_arguments before closed
  | expression => exact builds_expression closed
  | level l => exact builds_level l closed
  | operators l left => exact builds_operators l left closed
  | unary => exact builds_unary closed
  | operand => exact builds_operand closed
  | suffixes callee => exact builds_suffixes callee closed

/-- A run builds what its computation does. -/
theorem built_of_run {α : Type} {job : Parse α} {good : List Token → α → List Occurrence → Prop}
    (builds : Builds c good job) {moves : Nat} {left : Except SyntaxError α × Cursor}
    (isRun : Job.run step moves job c = some left) : Built c good left := by
  obtain ⟨n, result⟩ := (Job.exists_run_iff step).1 ⟨moves, isRun⟩
  exact built.result builds (Routine.Rest.of_denote result)

/-- Once the end of the input is reached without errors, what was built is built out of all
tokens. -/
theorem exists_log_of_run {α : Type} {parse : Parse α} {tokens : List Token} {nextId : NodeId}
    {a : α}
    {good : List Token → α → List Occurrence → Prop}
    (builds : Builds (.ofTokens tokens nextId) good parse)
    (ends : ∀ t, Job.run step (moves tokens) parse (.ofTokens tokens nextId) = some (.ok a, t) →
      t.errors = [] → t.rest = [])
    (h : (run parse tokens nextId).1 = .ok a) :
    ∃ log, good (readable tokens) a log ∧ Numbered nextId log (run parse tokens nextId).2 := by
  unfold run at h ⊢
  cases isRun : Job.run step (moves tokens) parse (.ofTokens tokens nextId) with
  | none =>
    rw [isRun] at h
    cases h
  | some left =>
    obtain ⟨e | a', t⟩ := left
    · rw [isRun] at h
      cases h
    · rw [isRun] at h
      cases isErrors : t.errors with
      | cons e es =>
        simp only [isErrors] at h
        cases h
      | nil =>
        simp only [isErrors] at h ⊢
        cases h
        obtain ⟨ts, passes, isGood⟩ := built_of_run builds isRun
        obtain ⟨log, numbered, isGood⟩ := isGood a rfl (by rw [isErrors]; rfl)
        have isRest := passes.rest_eq
        rw [ends t isRun isErrors, List.append_nil] at isRest
        refine ⟨log, ?_, numbered⟩
        rw [show readable tokens = ts from isRest]
        exact isGood

theorem builds_wholeExpression (closed : c.last.kind.isEnd = true) :
    Builds c (fun ts e log => Constructs .expression ts e log) wholeExpression := by
  refine .bind (.ask .expression closed) fun ts e t passes => ?_
  refine .get ?_
  split
  · exact .throw passes.closed
  · refine .atEnd ?_
    cases t.atEnd with
    | true => exact .pure passes.closed fun log made => by simpa [Made] using made
    | false => exact .missing passes.closed

end Parser

/-! ### Programs and expressions -/

/-- A program is constructed out of its tokens, and its nodes are numbered in this order. -/
theorem constructs_of_parseProgram {tokens : List Token} {nextId : NodeId} {p : List Stmt}
    (h : (parseProgram tokens nextId).1 = .ok p) :
    ∃ log, Grammar.Constructs .statements (readable tokens) p log ∧
      Numbered nextId log (parseProgram tokens nextId).2 := by
  have closed := Parser.isEnd_ofTokens tokens nextId
  refine Parser.exists_log_of_run (.ask .program closed) (fun t isRun clean => ?_) h
  obtain ⟨outcome, t', n, isRun', ts, passes, rest⟩ := Parser.exists_run_program tokens nextId
  cases isRun.symm.trans isRun'
  exact (rest.2 (by rw [clean]; rfl)).1

/-- An expression is constructed out of its tokens, and its nodes are numbered in this order. -/
theorem constructs_of_parseExpression {tokens : List Token} {nextId : NodeId} {e : Expr}
    (h : (parseExpression tokens nextId).1 = .ok e) :
    ∃ log, Grammar.Constructs .expression (readable tokens) e log ∧
      Numbered nextId log (parseExpression tokens nextId).2 := by
  have closed := Parser.isEnd_ofTokens tokens nextId
  refine Parser.exists_log_of_run (Parser.builds_wholeExpression closed)
    (fun t isRun clean => ?_) h
  obtain ⟨outcome, t', n, isRun', ts, passes, rest⟩ := Parser.exists_run_expression tokens nextId
  cases isRun.symm.trans isRun'
  exact (rest.2 (by rw [clean]; rfl)).1

end Lox
