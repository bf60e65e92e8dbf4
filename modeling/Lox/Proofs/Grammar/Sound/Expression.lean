import Lox.Proofs.Grammar.Promise

/-!
# Reading expressions as promised
-/

namespace Lox.Parser

open Grammar (Derives longest)

variable {c : Cursor}

/-! ### Operators -/

theorem promise_operand {l : Level} {ts : List Token} {e : Expr} {t : Cursor} :
    Promise l.operand c ts e t ↔
      Derives (.expression (Grammar.operand l)) ts e ∧ Apart c.nextId t.nextId e.ids := by
  cases l <;> exact Iff.rfl

theorem rank_operand (l : Level) : l.operand.rank + 1 = l.rank ∧ l.rank < 8 := by
  cases l <;> decide

theorem surplus_operand (l : Level) : l.operand.surplus = 60 := by
  cases l <;> rfl

theorem treats_level {l : Level} (ready : Ready (.level l) c) (closed : c.last.kind.isEnd = true) :
    Job.Delivers step (step _ (.level l)) c
      (Treats (3 * l.rank) 60 c (Promise (.level l) c)) := by
  obtain ⟨isRank, lt⟩ := rank_operand l
  have isSurplus := surplus_operand l
  refine Treats.bind (ready.ask (.refl closed) l.operand ?_) (by omega)
    fun ts left t passes paid => ?_
  · change _ < l.rank
    omega
  have free := ready.free passes (by omega)
  refine Treats.handOver (free.kept (.operators l left) passes.closed) ?_ ?_ ?_
  · change 0 + 1 ≤ _
    omega
  · change 60 + 0 + 1 ≤ _ + 0
    omega
  · rintro us e u ⟨derives, apart⟩ read
    obtain ⟨isLeft, leftApart⟩ := promise_operand.1 read
    exact ⟨derives ts (.operand isLeft), apart c.nextId passes.nextId_le leftApart⟩

theorem accepts_iff {l : Level} {t : Token} :
    l.accepts t = true ↔ t.kind ∈ Grammar.operators l := by
  obtain ⟨kind, lexeme, line⟩ := t
  cases kind with
  | symbol s => cases l <;> cases s <;> simp [Level.accepts, Grammar.operators]
  | keyword k => cases l <;> cases k <;> simp [Level.accepts, Grammar.operators]
  | _ => cases l <;> simp [Level.accepts, Grammar.operators]

theorem isEnd_of_accepts {l : Level} {t : Token} (h : l.accepts t = true) :
    t.kind.isEnd = false := by
  obtain ⟨kind, lexeme, line⟩ := t
  cases kind with
  | endOfInput => cases l <;> cases h
  | _ => rfl

theorem combine_eq (l : Level) : l.combine = Grammar.joined l := by
  cases l <;> rfl

theorem ids_joined (l : Level) (left : Expr) (operator : Token) (right : Expr) :
    (Grammar.joined l left operator right).ids = left.ids ++ right.ids := by
  cases l <;> simp [Grammar.joined]

theorem treats_operators {l : Level} {left : Expr} (ready : Ready (.operators l left) c)
    (closed : c.last.kind.isEnd = true) :
    Job.Delivers step (step _ (.operators l left)) c
      (Treats 0 0 c (Promise (.operators l left) c)) := by
  obtain ⟨isRank, lt⟩ := rank_operand l
  have isSurplus := surplus_operand l
  refine delivers_peek ?_
  by_cases isOperator : l.accepts c.peek = true
  · rw [if_pos isOperator]
    refine Treats.bind (Reads.advance closed (isEnd_of_accepts isOperator)) (by omega)
      fun _ _ t passes _ => ?_
    have free := ready.free passes (by omega)
    refine Treats.bind (free.ask l.operand passes.closed) (by omega)
      fun us right u passes' _ => ?_
    have free := free.passes passes'
    refine Treats.handOver (free.kept (.operators l (l.combine left c.peek right)) passes'.closed)
      ?_ ?_ ?_
    · change 0 + 1 ≤ _
      omega
    · change 0 + 0 + 1 ≤ _ + 0
      omega
    · rintro vs e v ⟨derives, apart⟩ read rfl
      obtain ⟨isRight, rightApart⟩ := promise_operand.1 read
      rw [combine_eq] at derives apart
      refine ⟨fun ws isLeft => ?_, fun lo le leftApart => ?_⟩
      · have whole := derives _ (.join isLeft (accepts_iff.1 isOperator) isRight)
        rwa [List.append_assoc] at whole
      · have later := (passes.trans passes').nextId_le
        refine apart lo (Nat.le_trans le later) ?_
        rw [ids_joined]
        exact leftApart.append rightApart le passes.nextId_le passes'.nextId_le
  · rw [if_neg isOperator]
    refine Treats.finish closed (Nat.le_refl 0) ⟨fun us isLeft => ?_, fun lo _ apart => apart⟩
    rwa [List.append_nil]

theorem treats_unary (ready : Ready .unary c) (closed : c.last.kind.isEnd = true) :
    Job.Delivers step (step _ .unary) c (Treats 3 60 c (Promise .unary c)) := by
  refine delivers_peek ?_
  by_cases isOperator : (c.peek.isSymbol .bang || c.peek.isSymbol .minus) = true
  · rw [if_pos isOperator]
    rw [Bool.or_eq_true] at isOperator
    refine Treats.bind (Reads.advance closed ?_) (by omega) fun _ _ t passes _ => ?_
    · rcases isOperator with isBang | isMinus
      · exact Cursor.isEnd_of_isSymbol isBang
      · exact Cursor.isEnd_of_isSymbol isMinus
    have free := ready.free passes (by omega)
    refine Treats.bind (free.ask .unary passes.closed) (by decide) fun us right u passes' _ => ?_
    refine Treats.finish passes'.closed (by decide) ?_
    rintro ⟨isRight, apart⟩ rfl
    rw [List.append_nil]
    refine ⟨.unary isOperator isRight, ?_⟩
    rw [Expr.ids_unary]
    exact apart.mono passes.nextId_le (Nat.le_refl _)
  · rw [if_neg isOperator]
    refine Treats.handOver (ready _ .operand c closed ?_) (by decide) (by decide) ?_
    · exact Nat.add_lt_add_left (by decide) _
    · rintro ts e t ⟨derives, apart⟩
      exact ⟨.callee derives, apart⟩

/-! ### Calls and properties -/

/-- The arguments of a call, if there are any. -/
theorem reads_arguments (free : Free c) (closed : c.last.kind.isEnd = true) (none : Bool) :
    Job.Delivers step (if none = true then pure [] else Parse.ask (.arguments 0)) c
      (Reads 29 0 c fun ts es t => Derives .arguments ts es ∧
        Apart c.nextId t.nextId (es.flatMap Expr.ids)) := by
  cases none with
  | true => exact Reads.pure closed (by decide) ⟨.noArguments, .nil⟩
  | false =>
    refine Reads.weaken (free.ask (.arguments 0) closed) (by simp [Request.rank])
      (by simp [Request.rank]) ?_
    rintro ts es t passes ⟨⟨derives, atMost⟩, apart⟩
    exact ⟨.arguments derives (by omega), apart⟩

theorem treats_suffixes {callee : Expr} (ready : Ready (.suffixes callee) c)
    (closed : c.last.kind.isEnd = true) :
    Job.Delivers step (step _ (.suffixes callee)) c
      (Treats 0 0 c (Promise (.suffixes callee) c)) := by
  refine delivers_accept (fun isLeft => ?_) fun _ => delivers_accept (fun isDot => ?_) fun _ => ?_
  · refine Treats.bind (Reads.advance closed (Cursor.isEnd_of_isSymbol isLeft)) (by decide)
      fun _ _ t passes _ => ?_
    have free := ready.free passes (by omega)
    refine delivers_sees ?_
    refine delivers_either ?_
    refine Treats.bind (reads_arguments free passes.closed _) (by decide)
      fun us es u passes' _ => ?_
    refine Treats.bind (Reads.expectSymbol passes'.closed) (by decide)
      fun _ paren v passes'' _ => ?_
    have free := (free.passes passes').passes passes''
    refine Treats.handOver (free.kept (.suffixes (.call callee paren es)) passes''.closed)
      (by simp [Request.rank]) (by simp [Request.rank, Request.surplus]) ?_
    rintro vs e w ⟨derives, apart⟩ ⟨rfl, isRight⟩ ⟨isArguments, apart'⟩ rfl
    refine ⟨fun ws isCallee => ?_, fun lo le calleeApart => ?_⟩
    · have whole := derives _ (.call isCallee isLeft isArguments isRight)
      simpa using whole
    · have later := ((passes.trans passes').trans passes'').nextId_le
      refine apart lo (Nat.le_trans le later) ?_
      rw [Expr.ids_call]
      have whole := calleeApart.append apart' le passes.nextId_le passes'.nextId_le
      exact whole.mono (Nat.le_refl _) passes''.nextId_le
  · refine Treats.bind (Reads.advance closed (Cursor.isEnd_of_isSymbol isDot)) (by decide)
      fun _ _ t passes _ => ?_
    refine Treats.bind (Reads.expectName passes.closed) (by decide) fun _ property u passes' _ => ?_
    have free := (ready.free passes (by omega)).passes passes'
    refine Treats.handOver (free.kept (.suffixes (.get callee property)) passes'.closed)
      (by simp [Request.rank]) (by simp [Request.rank, Request.surplus]) ?_
    rintro vs e w ⟨derives, apart⟩ ⟨rfl, isName⟩ rfl
    refine ⟨fun ws isCallee => ?_, fun lo le calleeApart => ?_⟩
    · have whole := derives _ (.get isCallee isDot isName)
      simpa using whole
    · have later := (passes.trans passes').nextId_le
      refine apart lo (Nat.le_trans le later) ?_
      rw [Expr.ids_get]
      exact calleeApart.mono (Nat.le_refl _) later
  · refine Treats.finish closed (Nat.le_refl 0) ⟨fun us isLeft => ?_, fun lo _ apart => apart⟩
    rwa [List.append_nil]

/-! ### Lists between parentheses -/

/-- A list that is too long is no list of the grammar. -/
theorem reads_checkArity {sort : ListSort} {before : Nat} (closed : c.last.kind.isEnd = true) :
    Job.Delivers step (checkArity sort before) c
      (Reads 0 0 c fun ts _ _ => ts = [] ∧ before < longest) := by
  unfold checkArity
  by_cases tooMany : maxArity ≤ before
  · rw [if_pos tooMany]
    refine delivers_peek ?_
    exact Reads.weaken (Reads.record closed) (by decide) (by decide) fun _ _ _ _ => False.elim
  · rw [if_neg tooMany]
    exact Reads.pure closed (Nat.le_refl 0) ⟨rfl, Nat.lt_of_not_le tooMany⟩

theorem treats_arguments {before : Nat} (ready : Ready (.arguments before) c)
    (closed : c.last.kind.isEnd = true) :
    Job.Delivers step (step _ (.arguments before)) c
      (Treats 27 60 c (Promise (.arguments before) c)) := by
  refine Treats.bind (reads_checkArity closed) (by decide) fun ts _ t passes _ => ?_
  refine Treats.bind (ready.ask passes .expression (by simp [Request.rank])) (by decide)
    fun us e u passes' paid => ?_
  have some : 0 < (ts ++ us).length := by
    change 60 ≤ 100 * us.length + 26 at paid
    rw [List.length_append]
    omega
  have free := ready.free (passes.trans passes') some
  refine delivers_accept (fun isComma => ?_) fun _ => ?_
  · refine Treats.bind (Reads.advance passes'.closed (Cursor.isEnd_of_isSymbol isComma))
      (by decide) fun _ _ v passes'' _ => ?_
    have free := free.passes passes''
    refine Treats.bind (free.ask (.arguments (before + 1)) passes''.closed)
      (by simp [Request.rank]) fun _ es w passes₃ _ => ?_
    refine Treats.finish passes₃.closed (by simp [Request.rank, Request.surplus]) ?_
    rintro ⟨⟨derives, atMost⟩, apart⟩ rfl ⟨isFirst, apart'⟩ ⟨rfl, _⟩
    refine ⟨⟨?_, by change before + (es.length + 1) ≤ _; omega⟩, ?_⟩
    · simpa using isFirst.values isComma derives
    · have whole := apart'.append apart passes'.nextId_le passes''.nextId_le passes₃.nextId_le
      exact whole.mono passes.nextId_le (Nat.le_refl _)
  · refine Treats.finish passes'.closed (by decide) ?_
    rintro ⟨isFirst, apart⟩ ⟨rfl, lt⟩
    refine ⟨⟨?_, lt⟩, ?_⟩
    · simpa using isFirst.lastValue
    · have whole := apart.mono passes.nextId_le (Nat.le_refl _)
      simpa using whole

/-! ### Primary expressions -/

/-- A token that is read as a constant. -/
theorem reads_literal {value : Literal} (closed : c.last.kind.isEnd = true)
    (isLiteral : Grammar.literal? c.peek.kind = some value) :
    Job.Delivers step (do Parse.advance; return .literal value c.peek.line) c
      (Reads 0 100 c fun ts e t => Derives (.expression .primary) ts e ∧
        Apart c.nextId t.nextId e.ids) := by
  have inside : c.peek.kind.isEnd = false := by
    cases isKind : c.peek.kind with
    | endOfInput =>
      rw [isKind] at isLiteral
      cases isLiteral
    | _ => rfl
  refine Reads.bind (Reads.advance closed inside) (by decide) fun _ _ t passes _ => ?_
  refine Reads.pure passes.closed (by decide) ?_
  rintro rfl
  refine ⟨.literal isLiteral, ?_⟩
  rw [Expr.ids_literal]
  exact .nil

/-- A token that is read as an occurrence of a name. -/
theorem reads_occurrence {tree : Occurrence → Expr} (closed : c.last.kind.isEnd = true)
    (inside : c.peek.kind.isEnd = false)
    (derives : ∀ o, o.name = c.peek → Derives (.expression .primary) [o.name] (tree o))
    (isIds : ∀ o, (tree o).ids = [o.id]) :
    Job.Delivers step (do Parse.advance; return tree (← Parse.occurrence c.peek)) c
      (Reads 0 100 c fun ts e t => Derives (.expression .primary) ts e ∧
        Apart c.nextId t.nextId e.ids) := by
  refine Reads.bind (Reads.advance closed inside) (by decide) fun _ _ t passes _ => ?_
  refine Reads.bind (Reads.occurrence passes.closed) (by decide) fun _ o u passes' _ => ?_
  refine Reads.pure passes'.closed (by decide) ?_
  rintro ⟨rfl, isName, apart⟩ rfl
  refine ⟨?_, ?_⟩
  · rw [← isName]
    exact derives o isName
  · rw [isIds]
    exact apart.mono passes.nextId_le (Nat.le_refl _)

theorem reads_primary (ready : Ready .operand c) (closed : c.last.kind.isEnd = true) :
    Job.Delivers step primary c
      (Reads 0 100 c fun ts e t => Derives (.expression .primary) ts e ∧
        Apart c.nextId t.nextId e.ids) := by
  refine delivers_peek ?_
  split
  · rename_i isKind
    exact reads_literal closed (by rw [isKind]; rfl)
  · rename_i isKind
    exact reads_literal closed (by rw [isKind]; rfl)
  · rename_i isKind
    exact reads_literal closed (by rw [isKind]; rfl)
  · rename_i isKind
    exact reads_literal closed (by rw [isKind]; rfl)
  · rename_i isKind
    exact reads_literal closed (by rw [isKind]; rfl)
  · rename_i isKind
    refine reads_occurrence closed (by rw [isKind]; rfl) (fun o isName => .this ?_) Expr.ids_this
    rw [isName, Token.isKeyword, isKind]
    rfl
  · rename_i isKind
    refine reads_occurrence closed (by rw [isKind]; rfl) (fun o isName => .reference ?_)
      Expr.ids_reference
    rw [isName, isKind]
  · rename_i isKind
    have isSuper := Token.isKeyword_iff.2 isKind
    refine Reads.bind (Reads.advance closed (by rw [isKind]; rfl)) (by decide)
      fun _ _ t passes _ => ?_
    refine Reads.bind (Reads.expectSymbol passes.closed) (by decide) fun _ dot u passes' _ => ?_
    refine Reads.bind (Reads.expectName passes'.closed) (by decide) fun _ method v passes'' _ => ?_
    refine Reads.bind (Reads.occurrence passes''.closed) (by decide) fun _ o w passes₃ _ => ?_
    refine Reads.pure passes₃.closed (by decide) ?_
    rintro ⟨rfl, isName, apart⟩ ⟨rfl, isMethod⟩ ⟨rfl, isDot⟩ rfl
    refine ⟨?_, ?_⟩
    · rw [← isName]
      exact .super (by rwa [isName]) isDot isMethod
    · rw [Expr.ids_super]
      exact apart.mono ((passes.trans passes').trans passes'').nextId_le (Nat.le_refl _)
  · rename_i isKind
    have isLeft := Token.isSymbol_iff.2 isKind
    refine Reads.bind (Reads.advance closed (by rw [isKind]; rfl)) (by decide)
      fun _ _ t passes _ => ?_
    have free := ready.free passes (by omega)
    refine Reads.bind (free.ask .expression passes.closed) (by decide) fun ts e u passes' _ => ?_
    refine Reads.bind (Reads.expectSymbol passes'.closed) (by decide) fun _ right v passes'' _ => ?_
    refine Reads.pure passes''.closed (by decide) ?_
    rintro ⟨rfl, isRight⟩ ⟨derives, apart⟩ rfl
    refine ⟨?_, ?_⟩
    · simpa using .grouping isLeft derives isRight
    · rw [Expr.ids_grouping]
      exact apart.mono passes.nextId_le passes''.nextId_le
  · exact Reads.missing closed

theorem treats_operand (ready : Ready .operand c) (closed : c.last.kind.isEnd = true) :
    Job.Delivers step (step _ .operand) c (Treats 0 60 c (Promise .operand c)) := by
  refine Treats.bind (reads_primary ready closed) (by decide) fun ts e t passes _ => ?_
  have free := ready.free passes (by omega)
  refine Treats.handOver (free.kept (.suffixes e) passes.closed) (by simp [Request.rank])
    (by simp [Request.rank, Request.surplus]) ?_
  rintro us e' u ⟨derives, apart⟩ ⟨isPrimary, apart'⟩
  exact ⟨derives ts (.primary isPrimary), apart _ passes.nextId_le apart'⟩

/-! ### Assignments -/

/-- An expression that no operator joins. -/
def Unjoined (e : Expr) : Prop :=
  (∀ left operator right, e ≠ .binary left operator right) ∧
    ∀ left operator right, e ≠ .logical left operator right

/-- An expression of a level that no operator joins is one of its operands. -/
theorem derives_operand {l : Level} {ts : List Token} {e : Expr} (unjoined : Unjoined e)
    (h : Derives (.expression (.level l)) ts e) :
    Derives (.expression (Grammar.operand l)) ts e := by
  cases h with
  | join h isOperator h' =>
    cases l with
    | disjunction => exact (unjoined.2 _ _ _ rfl).elim
    | conjunction => exact (unjoined.2 _ _ _ rfl).elim
    | _ => exact (unjoined.1 _ _ _ rfl).elim
  | operand h => exact h

/-- Down all levels. -/
theorem derives_unary {ts : List Token} {e : Expr} (unjoined : Unjoined e) :
    ∀ l, Derives (.expression (.level l)) ts e → Derives (.expression .unary) ts e
  | .factor, h => derives_operand unjoined h
  | .term, h => derives_unary unjoined .factor (derives_operand unjoined h)
  | .comparison, h => derives_unary unjoined .term (derives_operand unjoined h)
  | .equality, h => derives_unary unjoined .comparison (derives_operand unjoined h)
  | .conjunction, h => derives_unary unjoined .equality (derives_operand unjoined h)
  | .disjunction, h => derives_unary unjoined .conjunction (derives_operand unjoined h)
termination_by l => l.rank
decreasing_by all_goals decide

/-- A reference among expressions with operators is a single identifier. -/
theorem eq_of_derives_reference {l : Level} {ts : List Token} {o : Occurrence}
    (h : Derives (.expression (.level l)) ts (.reference o)) :
    ts = [o.name] ∧ o.name.kind = .identifier := by
  have unjoined : Unjoined (.reference o) :=
    ⟨fun _ _ _ eq => (nomatch eq), fun _ _ _ eq => (nomatch eq)⟩
  cases derives_unary unjoined l h with
  | callee h =>
    cases h with
    | primary h =>
      cases h with
      | reference isName => exact ⟨rfl, isName⟩

/-- A property among expressions with operators is a call with a dot and a name behind it. -/
theorem exists_of_derives_get {l : Level} {ts : List Token} {object : Expr} {property : Token}
    (h : Derives (.expression (.level l)) ts (.get object property)) :
    ∃ us dot, ts = us ++ [dot, property] ∧ Derives (.expression .call) us object ∧
      dot.isSymbol .dot ∧ property.kind = .identifier := by
  have unjoined : Unjoined (.get object property) :=
    ⟨fun _ _ _ eq => (nomatch eq), fun _ _ _ eq => (nomatch eq)⟩
  cases derives_unary unjoined l h with
  | callee h =>
    cases h with
    | get isObject isDot isProperty => exact ⟨_, _, rfl, isObject, isDot, isProperty⟩
    | primary h => cases h

/-- Only names and properties can be assigned to. -/
theorem reads_assignment {target value : Expr} {equals : Token}
    (closed : c.last.kind.isEnd = true) :
    Job.Delivers step (assignment target equals value) c
      (Reads 0 0 c fun ts e t => ts = [] ∧
        ((∃ o o', target = .reference o ∧ o'.name = o.name ∧ e = .assign o' value ∧
            Apart c.nextId t.nextId [o'.id]) ∨
          ∃ object property, target = .get object property ∧ e = .set object property value)) := by
  cases target with
  | reference o =>
    refine Reads.bind (Reads.occurrence closed) (by decide) fun _ o' t passes _ => ?_
    refine Reads.pure passes.closed (by decide) ?_
    rintro ⟨rfl, isName, apart⟩
    exact ⟨rfl, .inl ⟨o, o', rfl, isName, rfl, apart⟩⟩
  | get object property =>
    exact Reads.pure closed (by decide) ⟨rfl, .inr ⟨object, property, rfl, rfl⟩⟩
  | _ =>
    refine Reads.bind (Reads.record closed) (by decide) fun _ _ t passes _ => ?_
    exact Reads.pure passes.closed (by decide) False.elim

theorem treats_expression (ready : Ready .expression c) (closed : c.last.kind.isEnd = true) :
    Job.Delivers step (step _ .expression) c (Treats 24 60 c (Promise .expression c)) := by
  refine Treats.bind (ready.ask (.refl closed) (.level .disjunction) (by decide)) (by decide)
    fun ts target t passes paid => ?_
  have some : 0 < ts.length := by
    change 60 ≤ 100 * ts.length + 23 at paid
    omega
  refine delivers_peek ?_
  by_cases isEqual : t.peek.isSymbol .equal = true
  · rw [if_pos isEqual]
    refine Treats.bind (Reads.advance passes.closed (Cursor.isEnd_of_isSymbol isEqual)) (by decide)
      fun _ _ u passes' _ => ?_
    have free := (ready.free passes some).passes passes'
    refine Treats.bind (free.ask .expression passes'.closed) (by decide)
      fun us value v passes'' _ => ?_
    refine Treats.bind (reads_assignment passes''.closed) (by decide) fun _ e w passes₃ _ => ?_
    refine Treats.finish passes₃.closed (by decide) ?_
    rintro ⟨rfl, isAssignment⟩ ⟨isValue, valueApart⟩ rfl ⟨isTarget, targetApart⟩
    rcases isAssignment with ⟨o, o', rfl, isName, rfl, apart⟩ | ⟨object, property, rfl, rfl⟩
    · obtain ⟨rfl, isIdentifier⟩ := eq_of_derives_reference isTarget
      rw [← isName] at isIdentifier ⊢
      refine ⟨by simpa using .assign isIdentifier isEqual isValue, ?_⟩
      rw [Expr.ids_assign]
      have whole := valueApart.append_swap apart passes''.nextId_le (Nat.le_refl _)
        passes₃.nextId_le
      exact whole.mono (passes.trans passes').nextId_le (Nat.le_refl _)
    · obtain ⟨vs, dot, rfl, isObject, isDot, isProperty⟩ := exists_of_derives_get isTarget
      refine ⟨by simpa using .set isObject isDot isProperty isEqual isValue, ?_⟩
      rw [Expr.ids_get] at targetApart
      rw [Expr.ids_set]
      have whole := targetApart.append valueApart passes.nextId_le passes'.nextId_le
        passes''.nextId_le
      exact whole.mono (Nat.le_refl _) passes₃.nextId_le
  · rw [if_neg isEqual]
    refine Treats.finish passes.closed (by decide) ?_
    rintro ⟨isTarget, apart⟩
    rw [List.append_nil]
    exact ⟨.value isTarget, apart⟩

end Lox.Parser
