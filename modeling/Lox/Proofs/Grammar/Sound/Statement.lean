import Lox.Proofs.Grammar.Sound.Expression

/-!
# Reading declarations and statements as promised
-/

namespace Lox.Parser

open Grammar (Derives longest)

variable {c : Cursor}

/-! ### Functions -/

theorem treats_parameters {before : Nat} (ready : Ready (.parameters before) c)
    (closed : c.last.kind.isEnd = true) :
    Job.Delivers step (step _ (.parameters before)) c
      (Treats 0 60 c (Promise (.parameters before) c)) := by
  refine Treats.bind (reads_checkArity closed) (by decide) fun ts _ t passes _ => ?_
  refine Treats.bind (Reads.expectName passes.closed) (by decide) fun us name u passes' paid => ?_
  have some : 0 < (ts ++ us).length := by
    rw [List.length_append]
    omega
  have free := ready.free (passes.trans passes') some
  refine delivers_accept (fun isComma => ?_) fun _ => ?_
  · refine Treats.bind (Reads.advance passes'.closed (Cursor.isEnd_of_isSymbol isComma))
      (by decide) fun _ _ v passes'' _ => ?_
    have free := free.passes passes''
    refine Treats.bind (free.ask (.parameters (before + 1)) passes''.closed)
      (by simp [Request.rank]) fun _ names w passes₃ _ => ?_
    refine Treats.finish passes₃.closed (by simp [Request.rank, Request.surplus]) ?_
    rintro ⟨derives, atMost⟩ rfl ⟨rfl, isName⟩ ⟨rfl, _⟩
    refine ⟨?_, by change before + (names.length + 1) ≤ _; omega⟩
    simpa using derives.names isName isComma
  · refine Treats.finish passes'.closed (by decide) ?_
    rintro ⟨rfl, isName⟩ ⟨rfl, lt⟩
    exact ⟨.lastName isName, lt⟩

/-- The parameters of a function, if there are any. -/
theorem reads_parameters (free : Free c) (closed : c.last.kind.isEnd = true) (none : Bool) :
    Job.Delivers step (if none = true then pure [] else Parse.ask (.parameters 0)) c
      (Reads 2 0 c fun ts names _ => Derives .parameters ts names) := by
  cases none with
  | true => exact Reads.pure closed (by decide) .noParameters
  | false =>
    refine Reads.weaken (free.ask (.parameters 0) closed) (by simp [Request.rank])
      (by simp [Request.rank]) ?_
    rintro ts names t passes ⟨derives, atMost⟩
    exact .parameters derives (by omega)

theorem treats_function {sort : FunctionSort} (ready : Ready (.function sort) c)
    (closed : c.last.kind.isEnd = true) :
    Job.Delivers step (step _ (.function sort)) c
      (Treats 0 60 c (Promise (.function sort) c)) := by
  refine Treats.bind (Reads.expectName closed) (by decide) fun _ name t passes _ => ?_
  refine Treats.bind (Reads.expectSymbol passes.closed) (by decide) fun _ left u passes' _ => ?_
  have free := (ready.free passes (by omega)).passes passes'
  refine delivers_sees (delivers_either ?_)
  refine Treats.bind (reads_parameters free passes'.closed _) (by decide)
    fun ts params v passes₂ _ => ?_
  refine Treats.bind (Reads.expectSymbol passes₂.closed) (by decide) fun _ right w passes₃ _ => ?_
  refine Treats.bind (Reads.expectSymbol passes₃.closed) (by decide) fun _ brace x passes₄ _ => ?_
  have free := ((free.passes passes₂).passes passes₃).passes passes₄
  refine Treats.bind (free.ask .block passes₄.closed) (by decide) fun _ body y passes₅ _ => ?_
  refine Treats.finish passes₅.closed (by decide) ?_
  rintro ⟨⟨us, closing, rfl, isClosing, isBody⟩, apart⟩ ⟨rfl, isBrace⟩ ⟨rfl, isRight⟩ isParameters
    ⟨rfl, isLeft⟩ ⟨rfl, isName⟩
  refine ⟨?_, ?_⟩
  · simpa using .function isName isLeft isParameters isRight isBrace isBody isClosing
  · rw [FunctionDecl.ids_eq]
    have earlier := (((passes.trans passes').trans passes₂).trans passes₃).trans passes₄
    exact apart.mono earlier.nextId_le (Nat.le_refl _)

/-- A braced list that is not over has something to read. -/
theorem delivers_atClosing {α : Type} {next : Bool → Parse α}
    {post : Nat → Except SyntaxError α → Cursor → Prop}
    (h : Job.Delivers step (next (c.peek.isSymbol .rightBrace || c.atEnd)) c post) :
    Job.Delivers step (atClosing >>= next) c post := by
  have isAtClosing : atClosing >>= next = Parse.sees .rightBrace >>= fun seen =>
      if seen = true then next true else Parse.atEnd >>= next := by
    simp only [atClosing, bind_assoc]
    congr 1
    funext seen
    cases seen <;> simp
  rw [isAtClosing]
  refine delivers_sees ?_
  cases isSymbol : c.peek.isSymbol .rightBrace with
  | true =>
    rw [isSymbol] at h
    exact h
  | false =>
    rw [isSymbol] at h
    exact delivers_atEnd h

theorem treats_methods (ready : Ready .methods c) (closed : c.last.kind.isEnd = true) :
    Job.Delivers step (step _ .methods) c (Treats 3 0 c (Promise .methods c)) := by
  refine delivers_atClosing ?_
  cases c.peek.isSymbol .rightBrace || c.atEnd with
  | true => exact Treats.finish closed (by decide) ⟨.noFunctions, .nil⟩
  | false =>
    refine Treats.bind (ready.ask (.refl closed) (.function .method) (by decide)) (by decide)
      fun ts d t passes paid => ?_
    have some : 0 < ts.length := by
      change 60 ≤ 100 * ts.length + 2 at paid
      omega
    have free := ready.free passes some
    refine Treats.bind (free.ask .methods passes.closed) (by decide) fun us ds u passes' _ => ?_
    refine Treats.finish passes'.closed (by decide) ?_
    rintro ⟨derives, apart⟩ ⟨isFirst, apart'⟩
    refine ⟨?_, apart'.append apart passes.nextId_le (Nat.le_refl _) passes'.nextId_le⟩
    simpa using isFirst.functions derives

/-! ### Classes and variables -/

/-- The superclass of a class, if there is one. -/
def superclassClause : Parse (Option Occurrence) := do
  if ← Parse.accept .less then
    let parent ← Parse.expectName .superclassName
    some <$> Parse.occurrence parent
  else
    pure none

theorem classDeclaration_eq : classDeclaration = (do
    let name ← Parse.expectName .className
    let superclass ← superclassClause
    let _ ← Parse.expectSymbol .leftBrace .beforeClassBody
    let ds ← Parse.ask .methods
    let _ ← Parse.expectSymbol .rightBrace .afterClassBody
    return .classDecl name superclass ds) := by
  unfold classDeclaration superclassClause
  congr 1
  funext name
  rw [bind_assoc]
  congr 1
  funext seen
  cases seen with
  | true =>
    change _ = (Parse.expectName _ >>= _) >>= _
    rw [bind_assoc]
    rfl
  | false => rfl

theorem reads_superclassClause (closed : c.last.kind.isEnd = true) :
    Job.Delivers step superclassClause c
      (Reads 0 0 c fun ts superclass t =>
        Apart c.nextId t.nextId (superclass.map Occurrence.id).toList ∧
        ((ts = [] ∧ superclass = none) ∨ ∃ less parent, ts = [less, parent.name] ∧
          less.isSymbol .less ∧ parent.name.kind = .identifier ∧ superclass = some parent)) := by
  refine delivers_accept (fun isLess => ?_) fun _ => ?_
  · refine Reads.bind (Reads.advance closed (Cursor.isEnd_of_isSymbol isLess)) (by decide)
      fun _ _ t passes _ => ?_
    refine Reads.bind (Reads.expectName passes.closed) (by decide) fun _ name u passes' _ => ?_
    refine Reads.map (Reads.weaken (Reads.occurrence passes'.closed) (by decide) (by decide) ?_)
    rintro ts parent v passes'' ⟨rfl, rfl, apart⟩ ⟨rfl, isName⟩ rfl
    refine ⟨apart.mono (passes.trans passes').nextId_le (Nat.le_refl _), .inr ?_⟩
    exact ⟨c.peek, parent, rfl, isLess, isName, rfl⟩
  · exact Reads.pure closed (by decide) ⟨.nil, .inl ⟨rfl, rfl⟩⟩

theorem reads_classDeclaration (free : Free c) (closed : c.last.kind.isEnd = true) :
    Job.Delivers step classDeclaration c
      (Reads 0 60 c fun ts s t => Derives .classDecl ts s ∧ Apart c.nextId t.nextId s.ids) := by
  rw [classDeclaration_eq]
  refine Reads.bind (Reads.expectName closed) (by decide) fun _ name t passes _ => ?_
  refine Reads.bind (reads_superclassClause passes.closed) (by decide)
    fun ts superclass u passes₁ _ => ?_
  refine Reads.bind (Reads.expectSymbol passes₁.closed) (by decide) fun _ brace v passes₂ _ => ?_
  have free := ((free.passes passes).passes passes₁).passes passes₂
  refine Reads.bind (free.ask .methods passes₂.closed) (by decide) fun us ds w passes₃ _ => ?_
  refine Reads.bind (Reads.expectSymbol passes₃.closed) (by decide) fun _ closing x passes₄ _ => ?_
  refine Reads.pure passes₄.closed (by decide) ?_
  rintro ⟨rfl, isClosing⟩ ⟨derives, apart⟩ ⟨rfl, isBrace⟩ ⟨apart', isSuperclass⟩ ⟨rfl, isName⟩
  refine ⟨?_, ?_⟩
  · rcases isSuperclass with ⟨rfl, rfl⟩ | ⟨less, parent, rfl, isLess, isParent, rfl⟩
    · simpa using .base isName isBrace derives isClosing
    · simpa using .derived isName isLess isParent isBrace derives isClosing
  · rw [Stmt.ids_classDecl]
    have whole := apart'.append apart passes₁.nextId_le passes₂.nextId_le passes₃.nextId_le
    exact whole.mono passes.nextId_le passes₄.nextId_le

/-- The initializer of a variable, if there is one. -/
def initializerClause : Parse (Option Expr) := do
  if ← Parse.accept .equal then some <$> Parse.ask .expression else pure none

theorem varDeclaration_eq : varDeclaration = (do
    let name ← Parse.expectName .variableName
    let initializer ← initializerClause
    let _ ← Parse.expectSymbol .semicolon .afterVariable
    return .varDecl name initializer) := by
  unfold varDeclaration initializerClause
  congr 1
  funext name
  rw [bind_assoc]
  congr 1
  funext seen
  cases seen <;> rfl

theorem reads_initializerClause (free : Free c) (closed : c.last.kind.isEnd = true) :
    Job.Delivers step initializerClause c
      (Reads 0 0 c fun ts initializer t => Apart c.nextId t.nextId (Expr.optionIds initializer) ∧
        ((ts = [] ∧ initializer = none) ∨ ∃ equal us e, ts = equal :: us ∧ equal.isSymbol .equal ∧
          Derives (.expression .whole) us e ∧ initializer = some e)) := by
  refine delivers_accept (fun isEqual => ?_) fun _ => ?_
  · refine Reads.bind (Reads.advance closed (Cursor.isEnd_of_isSymbol isEqual)) (by decide)
      fun _ _ t passes _ => ?_
    have free := free.passes passes
    refine Reads.map (Reads.weaken (free.ask .expression passes.closed) (by decide) (by decide) ?_)
    rintro ts e u passes' ⟨derives, apart⟩ rfl
    refine ⟨apart.mono passes.nextId_le (Nat.le_refl _), .inr ?_⟩
    exact ⟨c.peek, ts, e, rfl, isEqual, derives, rfl⟩
  · exact Reads.pure closed (by decide) ⟨.nil, .inl ⟨rfl, rfl⟩⟩

theorem reads_varDeclaration (free : Free c) (closed : c.last.kind.isEnd = true) :
    Job.Delivers step varDeclaration c
      (Reads 0 60 c fun ts s t => Derives .varDecl ts s ∧ Apart c.nextId t.nextId s.ids) := by
  rw [varDeclaration_eq]
  refine Reads.bind (Reads.expectName closed) (by decide) fun _ name t passes _ => ?_
  refine Reads.bind (reads_initializerClause (free.passes passes) passes.closed) (by decide)
    fun ts initializer u passes₁ _ => ?_
  refine Reads.bind (Reads.expectSymbol passes₁.closed) (by decide)
    fun _ semicolon v passes₂ _ => ?_
  refine Reads.pure passes₂.closed (by decide) ?_
  rintro ⟨rfl, isSemicolon⟩ ⟨apart, isInitializer⟩ ⟨rfl, isName⟩
  refine ⟨?_, ?_⟩
  · rcases isInitializer with ⟨rfl, rfl⟩ | ⟨equal, us, e, rfl, isEqual, derives, rfl⟩
    · exact .declared isName isSemicolon
    · simpa using .initialized isName isEqual derives isSemicolon
  · rw [Stmt.ids_varDecl]
    exact apart.mono passes.nextId_le passes₂.nextId_le

theorem treats_declaration (ready : Ready .declaration c) (closed : c.last.kind.isEnd = true) :
    Job.Delivers step (step _ .declaration) c
      (Treats 30 60 c (Promise .declaration c)) := by
  refine delivers_peek ?_
  split
  · rename_i isKind
    have isClass := Token.isKeyword_iff.2 isKind
    refine Treats.bind (Reads.advance closed (Cursor.isEnd_of_isKeyword isClass)) (by decide)
      fun _ _ t passes _ => ?_
    have free := ready.free passes (by omega)
    refine Treats.bind (reads_classDeclaration free passes.closed) (by decide)
      fun ts s u passes' _ => ?_
    refine Treats.finish passes'.closed (by decide) ?_
    rintro ⟨derives, apart⟩ rfl
    refine ⟨?_, apart.mono passes.nextId_le (Nat.le_refl _)⟩
    simpa using .classDeclaration isClass derives
  · rename_i isKind
    have isFun := Token.isKeyword_iff.2 isKind
    refine Treats.bind (Reads.advance closed (Cursor.isEnd_of_isKeyword isFun)) (by decide)
      fun _ _ t passes _ => ?_
    have free := ready.free passes (by omega)
    refine Treats.bind (free.ask (.function .function) passes.closed) (by decide)
      fun ts d u passes' _ => ?_
    refine Treats.finish passes'.closed (by decide) ?_
    rintro ⟨derives, apart⟩ rfl
    refine ⟨by simpa using .functionDeclaration isFun derives, ?_⟩
    rw [Stmt.ids_functionDecl]
    exact apart.mono passes.nextId_le (Nat.le_refl _)
  · rename_i isKind
    have isVar := Token.isKeyword_iff.2 isKind
    refine Treats.bind (Reads.advance closed (Cursor.isEnd_of_isKeyword isVar)) (by decide)
      fun _ _ t passes _ => ?_
    have free := ready.free passes (by omega)
    refine Treats.bind (reads_varDeclaration free passes.closed) (by decide)
      fun ts s u passes' _ => ?_
    refine Treats.finish passes'.closed (by decide) ?_
    rintro ⟨derives, apart⟩ rfl
    refine ⟨?_, apart.mono passes.nextId_le (Nat.le_refl _)⟩
    simpa using .varDeclaration isVar derives
  · refine Treats.handOver (ready.kept (.refl closed) .statement (by decide)) (by decide)
      (by decide) ?_
    rintro ts s t ⟨derives, apart⟩
    exact ⟨.statement (derives true (fun eq => nomatch eq)), apart⟩

/-! ### Parts of statements -/

/-- The condition of a statement, in its parentheses. -/
theorem reads_condition {k : Keyword} (free : Free c) (closed : c.last.kind.isEnd = true) :
    Job.Delivers step (condition k) c
      (Reads 0 60 c fun ts e t => (∃ left us right, ts = left :: (us ++ [right]) ∧
        left.isSymbol .leftParen ∧ Derives (.expression .whole) us e ∧
        right.isSymbol .rightParen) ∧ Apart c.nextId t.nextId e.ids) := by
  refine Reads.bind (Reads.expectSymbol closed) (by decide) fun _ left t passes _ => ?_
  have free := free.passes passes
  refine Reads.bind (free.ask .expression passes.closed) (by decide) fun us e u passes₁ _ => ?_
  refine Reads.bind (Reads.expectSymbol passes₁.closed) (by decide) fun _ right v passes₂ _ => ?_
  refine Reads.pure passes₂.closed (by decide) ?_
  rintro ⟨rfl, isRight⟩ ⟨derives, apart⟩ ⟨rfl, isLeft⟩
  refine ⟨⟨left, us, right, by simp, isLeft, derives, isRight⟩, ?_⟩
  exact apart.mono passes.nextId_le passes₂.nextId_le

theorem reads_optionalExpression {terminator : Symbol} (kept : Kept .expression c)
    (closed : c.last.kind.isEnd = true) :
    Job.Delivers step (optionalExpression terminator) c
      (Reads 26 0 c fun ts e t => Derives .optional ts e ∧
        Apart c.nextId t.nextId (Expr.optionIds e)) := by
  refine delivers_sees ?_
  cases c.peek.isSymbol terminator with
  | true => exact Reads.pure closed (by decide) ⟨.absent, .nil⟩
  | false =>
    refine Reads.map (Reads.weaken (Reads.ask kept) (by decide) (by decide) ?_)
    rintro ts e t passes ⟨derives, apart⟩
    exact ⟨.present derives, apart⟩

theorem reads_expressionStatement (kept : Kept .expression c) :
    Job.Delivers step expressionStatement c
      (Reads 26 100 c fun ts s t => (∃ us semicolon e, ts = us ++ [semicolon] ∧
        Derives (.expression .whole) us e ∧ semicolon.isSymbol .semicolon ∧ s = .expression e) ∧
        Apart c.nextId t.nextId s.ids) := by
  refine Reads.bind (Reads.ask kept) (by decide) fun ts e t passes _ => ?_
  refine Reads.bind (Reads.expectSymbol passes.closed) (by decide)
    fun _ semicolon u passes' _ => ?_
  refine Reads.pure passes'.closed (by decide) ?_
  rintro ⟨rfl, isSemicolon⟩ ⟨derives, apart⟩
  refine ⟨⟨ts, semicolon, e, by simp, derives, isSemicolon, rfl⟩, ?_⟩
  rw [Stmt.ids_expression]
  exact apart.mono (Nat.le_refl _) passes'.nextId_le

/-! ### Loops with clauses -/

/-- The first clause of a `for` statement, with its semicolon. -/
def initialClause : Parse (Option Stmt) := do
  match (← Parse.peek).kind with
  | .symbol .semicolon =>
    Parse.advance
    pure none
  | .keyword .var_ =>
    Parse.advance
    some <$> varDeclaration
  | _ => some <$> expressionStatement

theorem forStatement_eq (keyword : Token) : forStatement keyword = (do
    let _ ← Parse.expectSymbol .leftParen (.afterKeyword .for_)
    let initializer ← initialClause
    let condition ← optionalExpression .semicolon
    let _ ← Parse.expectSymbol .semicolon .afterLoopCondition
    let increment ← optionalExpression .rightParen
    let _ ← Parse.expectSymbol .rightParen .afterForClauses
    let body ← Parse.ask .statement
    return lowerFor initializer (condition.getD (.literal (.boolean true) keyword.line))
      increment body) := by
  unfold forStatement initialClause
  congr 1
  funext _
  rw [bind_assoc]
  congr 1
  funext t
  cases t.kind with
  | symbol s => cases s <;> rfl
  | keyword k => cases k <;> rfl
  | _ => rfl

theorem lowerFor_eq (keyword : Token) (initializer : Option Stmt)
    (condition increment : Option Expr)
    (body : Stmt) :
    lowerFor initializer (condition.getD (.literal (.boolean true) keyword.line)) increment body =
      Grammar.forLoop keyword initializer condition increment body := by
  cases initializer <;> cases increment <;> rfl

theorem reads_initialClause (free : Free c) (closed : c.last.kind.isEnd = true) :
    Job.Delivers step initialClause c
      (Reads 26 60 c fun ts initializer t => Derives .forInit ts initializer ∧
        Apart c.nextId t.nextId (initializer.elim [] Stmt.ids)) := by
  refine delivers_peek ?_
  split
  · rename_i isKind
    have isSemicolon := Token.isSymbol_iff.2 isKind
    refine Reads.bind (Reads.advance closed (Cursor.isEnd_of_isSymbol isSemicolon)) (by decide)
      fun _ _ t passes _ => ?_
    refine Reads.pure passes.closed (by decide) ?_
    rintro rfl
    exact ⟨.forNothing isSemicolon, .nil⟩
  · rename_i isKind
    have isVar := Token.isKeyword_iff.2 isKind
    refine Reads.bind (Reads.advance closed (Cursor.isEnd_of_isKeyword isVar)) (by decide)
      fun _ _ t passes _ => ?_
    have free := free.passes passes
    refine Reads.map (Reads.weaken (reads_varDeclaration free passes.closed) (by decide)
      (by decide) ?_)
    rintro ts s u passes' ⟨derives, apart⟩ rfl
    exact ⟨.forVar isVar derives, apart.mono passes.nextId_le (Nat.le_refl _)⟩
  · have kept := free.kept .expression closed
    refine Reads.map (Reads.weaken (reads_expressionStatement kept) (by decide)
      (by decide) ?_)
    rintro ts s t passes ⟨⟨us, semicolon, e, rfl, derives, isSemicolon, rfl⟩, apart⟩
    exact ⟨.forEffect derives isSemicolon, apart⟩

theorem ids_forLoop (keyword : Token) (initializer : Option Stmt)
    (condition increment : Option Expr) (body : Stmt) :
    (Grammar.forLoop keyword initializer condition increment body).ids =
      initializer.elim [] Stmt.ids ++ (Expr.optionIds condition ++
        (body.ids ++ Expr.optionIds increment)) := by
  cases initializer <;> cases condition <;> cases increment <;>
    simp [Grammar.forLoop, Expr.optionIds]

/-- What is promised of a statement whose first token is passed already. -/
def Continues (keyword : Token) (c : Cursor) (ts : List Token) (s : Stmt) (t : Cursor) : Prop :=
  (∀ short, (short = false → t.peek.isKeyword .else_ = true) →
    Derives (.statement short) (keyword :: ts) s) ∧ Apart c.nextId t.nextId s.ids

theorem reads_forStatement {keyword : Token} (isFor : keyword.isKeyword .for_) (free : Free c)
    (closed : c.last.kind.isEnd = true) :
    Job.Delivers step (forStatement keyword) c (Reads 0 60 c (Continues keyword c)) := by
  rw [forStatement_eq]
  refine Reads.bind (Reads.expectSymbol closed) (by decide) fun _ left t passes _ => ?_
  have free := free.passes passes
  refine Reads.bind (reads_initialClause free passes.closed) (by decide)
    fun ts initializer u passes₁ _ => ?_
  have free := free.passes passes₁
  refine Reads.bind (reads_optionalExpression (free.kept _ passes₁.closed) passes₁.closed)
    (by decide) fun us condition v passes₂ _ => ?_
  refine Reads.bind (Reads.expectSymbol passes₂.closed) (by decide)
    fun _ semicolon w passes₃ _ => ?_
  have free := (free.passes passes₂).passes passes₃
  refine Reads.bind (reads_optionalExpression (free.kept _ passes₃.closed) passes₃.closed)
    (by decide) fun vs increment x passes₄ _ => ?_
  refine Reads.bind (Reads.expectSymbol passes₄.closed) (by decide) fun _ right y passes₅ _ => ?_
  have free := (free.passes passes₄).passes passes₅
  refine Reads.bind (free.ask .statement passes₅.closed) (by decide) fun ws body z passes₆ _ => ?_
  refine Reads.pure passes₆.closed (by decide) ?_
  rintro ⟨isBody, apart₆⟩ ⟨rfl, isRight⟩ ⟨isIncrement, apart₄⟩ ⟨rfl, isSemicolon⟩
    ⟨isCondition, apart₂⟩ ⟨isInitializer, apart₁⟩ ⟨rfl, isLeft⟩
  rw [lowerFor_eq]
  refine ⟨fun short next => ?_, ?_⟩
  · simpa using .forLoop isFor isLeft isInitializer isCondition isSemicolon isIncrement isRight
      (isBody short next)
  · rw [ids_forLoop]
    have inner := apart₄.append_swap apart₆ passes₄.nextId_le passes₅.nextId_le passes₆.nextId_le
    have later := ((passes₄.trans passes₅).trans passes₆).nextId_le
    have loop := apart₂.append inner passes₂.nextId_le passes₃.nextId_le later
    have later' := Nat.le_trans (passes₂.trans passes₃).nextId_le later
    have whole := apart₁.append loop passes₁.nextId_le (Nat.le_refl _) later'
    exact whole.mono passes.nextId_le (Nat.le_refl _)

/-! ### Branches -/

/-- The branch before an `else` does not end in an `if` without `else`. -/
theorem reads_ifStatement {keyword : Token} (isIf : keyword.isKeyword .if_) (free : Free c)
    (closed : c.last.kind.isEnd = true) :
    Job.Delivers step ifStatement c (Reads 0 60 c (Continues keyword c)) := by
  refine Reads.bind (reads_condition free closed) (by decide) fun ts e t passes _ => ?_
  have free := free.passes passes
  refine Reads.bind (free.ask .statement passes.closed) (by decide)
    fun us thenBranch u passes₁ _ => ?_
  refine delivers_peek ?_
  by_cases isElse : u.peek.isKeyword .else_ = true
  · rw [if_pos isElse]
    refine Reads.bind (Reads.advance passes₁.closed (Cursor.isEnd_of_isKeyword isElse)) (by decide)
      fun _ _ v passes₂ _ => ?_
    have free := (free.passes passes₁).passes passes₂
    refine Reads.bind (free.ask .statement passes₂.closed) (by decide)
      fun vs elseBranch w passes₃ _ => ?_
    refine Reads.pure passes₃.closed (by decide) ?_
    rintro ⟨isElseBranch, apart₃⟩ rfl ⟨isThen, apart₁⟩
      ⟨⟨left, ws, right, rfl, isLeft, isCondition, isRight⟩, apart⟩
    refine ⟨fun short next => ?_, ?_⟩
    · simpa using .ifThenElse isIf isLeft isCondition isRight (isThen false fun _ => isElse) isElse
        (isElseBranch short next)
    · rw [Stmt.ids_conditional]
      have branches := apart₁.append apart₃ passes₁.nextId_le passes₂.nextId_le passes₃.nextId_le
      have later := ((passes₁.trans passes₂).trans passes₃).nextId_le
      exact apart.append branches passes.nextId_le (Nat.le_refl _) later
  · rw [if_neg isElse]
    refine Reads.pure passes₁.closed (by decide) ?_
    rintro ⟨isThen, apart₁⟩ ⟨⟨left, ws, right, rfl, isLeft, isCondition, isRight⟩, apart⟩
    refine ⟨fun short next => ?_, ?_⟩
    · cases short with
      | false => exact (isElse (next rfl)).elim
      | true => simpa using .ifThen isIf isLeft isCondition isRight (isThen true next)
    · rw [Stmt.ids_conditional]
      have branch : Apart t.nextId u.nextId (thenBranch.ids ++ []) := by rwa [List.append_nil]
      exact apart.append branch passes.nextId_le (Nat.le_refl _) passes₁.nextId_le

theorem treats_statement (ready : Ready .statement c) (closed : c.last.kind.isEnd = true) :
    Job.Delivers step (step _ .statement) c (Treats 27 60 c (Promise .statement c)) := by
  refine delivers_peek ?_
  split
  · rename_i isKind
    have isFor := Token.isKeyword_iff.2 isKind
    refine Treats.bind (Reads.advance closed (Cursor.isEnd_of_isKeyword isFor)) (by decide)
      fun _ _ t passes _ => ?_
    have free := ready.free passes (by omega)
    refine Treats.bind (reads_forStatement isFor free passes.closed) (by decide)
      fun ts s u passes₁ _ => ?_
    refine Treats.finish passes₁.closed (by decide) ?_
    rintro ⟨derives, apart⟩ rfl
    rw [List.append_nil]
    exact ⟨derives, apart.mono passes.nextId_le (Nat.le_refl _)⟩
  · rename_i isKind
    have isIf := Token.isKeyword_iff.2 isKind
    refine Treats.bind (Reads.advance closed (Cursor.isEnd_of_isKeyword isIf)) (by decide)
      fun _ _ t passes _ => ?_
    have free := ready.free passes (by omega)
    refine Treats.bind (reads_ifStatement isIf free passes.closed) (by decide)
      fun ts s u passes₁ _ => ?_
    refine Treats.finish passes₁.closed (by decide) ?_
    rintro ⟨derives, apart⟩ rfl
    rw [List.append_nil]
    exact ⟨derives, apart.mono passes.nextId_le (Nat.le_refl _)⟩
  · rename_i isKind
    have isPrint := Token.isKeyword_iff.2 isKind
    refine Treats.bind (Reads.advance closed (Cursor.isEnd_of_isKeyword isPrint)) (by decide)
      fun _ _ t passes _ => ?_
    have free := ready.free passes (by omega)
    refine Treats.bind (free.ask .expression passes.closed) (by decide) fun ts e u passes₁ _ => ?_
    refine Treats.bind (Reads.expectSymbol passes₁.closed) (by decide)
      fun _ semicolon v passes₂ _ => ?_
    refine Treats.finish passes₂.closed (by decide) ?_
    rintro ⟨rfl, isSemicolon⟩ ⟨derives, apart⟩ rfl
    refine ⟨fun short _ => by simpa using .print isPrint derives isSemicolon, ?_⟩
    rw [Stmt.ids_print]
    exact apart.mono passes.nextId_le passes₂.nextId_le
  · rename_i isKind
    have isReturn := Token.isKeyword_iff.2 isKind
    refine Treats.bind (Reads.advance closed (Cursor.isEnd_of_isKeyword isReturn)) (by decide)
      fun _ _ t passes _ => ?_
    have free := ready.free passes (by omega)
    refine Treats.bind (reads_optionalExpression (free.kept _ passes.closed) passes.closed)
      (by decide) fun ts e u passes₁ _ => ?_
    refine Treats.bind (Reads.expectSymbol passes₁.closed) (by decide)
      fun _ semicolon v passes₂ _ => ?_
    refine Treats.finish passes₂.closed (by decide) ?_
    rintro ⟨rfl, isSemicolon⟩ ⟨derives, apart⟩ rfl
    refine ⟨fun short _ => by simpa using .returns isReturn derives isSemicolon, ?_⟩
    rw [Stmt.ids_ret]
    exact apart.mono passes.nextId_le passes₂.nextId_le
  · rename_i isKind
    have isWhile := Token.isKeyword_iff.2 isKind
    refine Treats.bind (Reads.advance closed (Cursor.isEnd_of_isKeyword isWhile)) (by decide)
      fun _ _ t passes _ => ?_
    have free := ready.free passes (by omega)
    refine Treats.bind (reads_condition free passes.closed) (by decide) fun ts e u passes₁ _ => ?_
    have free := free.passes passes₁
    refine Treats.bind (free.ask .statement passes₁.closed) (by decide)
      fun us body v passes₂ _ => ?_
    refine Treats.finish passes₂.closed (by decide) ?_
    rintro ⟨isBody, apart₂⟩ ⟨⟨left, ws, right, rfl, isLeft, isCondition, isRight⟩, apart₁⟩ rfl
    refine ⟨fun short next => ?_, ?_⟩
    · simpa using .whileLoop isWhile isLeft isCondition isRight (isBody short next)
    · rw [Stmt.ids_loop]
      have whole := apart₁.append apart₂ passes₁.nextId_le (Nat.le_refl _) passes₂.nextId_le
      exact whole.mono passes.nextId_le (Nat.le_refl _)
  · rename_i isKind
    have isOpening := Token.isSymbol_iff.2 isKind
    refine Treats.bind (Reads.advance closed (Cursor.isEnd_of_isSymbol isOpening)) (by decide)
      fun _ _ t passes _ => ?_
    have free := ready.free passes (by omega)
    refine Treats.bind (free.ask .block passes.closed) (by decide) fun ts body u passes₁ _ => ?_
    refine Treats.finish passes₁.closed (by decide) ?_
    rintro ⟨⟨us, closing, rfl, isClosing, isBody⟩, apart⟩ rfl
    refine ⟨fun short _ => by simpa using .block isOpening isBody isClosing, ?_⟩
    rw [Stmt.ids_block]
    exact apart.mono passes.nextId_le (Nat.le_refl _)
  · have kept := ready.kept (.refl closed) .expression (by decide)
    refine Treats.bind (reads_expressionStatement kept) (by decide) fun ts s t passes _ => ?_
    refine Treats.finish passes.closed (by decide) ?_
    rintro ⟨⟨us, semicolon, e, rfl, derives, isSemicolon, rfl⟩, apart⟩
    rw [List.append_nil]
    exact ⟨fun short _ => .effect derives isSemicolon, apart⟩

/-! ### Lists of declarations -/

theorem treats_block (ready : Ready .block c) (closed : c.last.kind.isEnd = true) :
    Job.Delivers step (step _ .block) c (Treats 33 60 c (Promise .block c)) := by
  refine delivers_atClosing ?_
  cases c.peek.isSymbol .rightBrace || c.atEnd with
  | true =>
    refine Treats.bind (Reads.expectSymbol closed) (by decide) fun _ closing t passes _ => ?_
    refine Treats.finish passes.closed (by decide) ?_
    rintro ⟨rfl, isClosing⟩
    exact ⟨⟨[], closing, rfl, isClosing, .noDeclarations⟩, .nil⟩
  | false =>
    refine Treats.bind (ready.ask (.refl closed) .declaration (by decide)) (by decide)
      fun ts s t passes paid => ?_
    have some : 0 < ts.length := by
      change 60 ≤ 100 * ts.length + 32 at paid
      omega
    have free := ready.free passes some
    refine Treats.bind (free.ask .block passes.closed) (by decide) fun us ss u passes₁ _ => ?_
    refine Treats.finish passes₁.closed (by decide) ?_
    rintro ⟨⟨vs, closing, rfl, isClosing, derives⟩, apart₁⟩ ⟨isFirst, apart⟩
    refine ⟨⟨ts ++ vs, closing, by simp, isClosing, .declarations isFirst derives⟩, ?_⟩
    exact apart.append apart₁ passes.nextId_le (Nat.le_refl _) passes₁.nextId_le

end Lox.Parser
