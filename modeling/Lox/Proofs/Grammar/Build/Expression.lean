import Lox.Proofs.Grammar.Building
import Lox.Proofs.Grammar.Sound.Expression

/-!
# Building expressions

The operands of an operator are built from left to right. An assignment is built behind its value,
out of the same token as its target, whose node is not part of it.

## Main definitions

* `Parser.Ends`: what the treatment of a request comes to.

## Main results

* `Parser.closes_of_ends`: treatments that build keep to the contract.
* `Parser.builds_operators`, `Parser.builds_suffixes`, `Parser.builds_expression`: the requests for
  expressions.
-/

namespace Lox

namespace Parser

open Grammar (Constructs)

variable {p : Phrase} {c : Cursor}

/-- What the treatment of a request comes to: a tree that is built, or another request by which it
will be. -/
def Ends (good : List Token → p.Tree → List Occurrence → Prop) (ts : List Token) (s : Step p)
    (log : List Occurrence) : Prop :=
  match s with
  | .finished tree => good ts tree log
  | .handOver request => ∀ us tree log', Made request us tree log' →
      good (ts ++ us) tree (log ++ log')

/-- A treatment that builds keeps to the contract. -/
theorem closes_of_ends {request : Request p} {left : Except SyntaxError (Step p) × Cursor}
    (h : Built c (Ends (Made request)) left) : Job.Closes building (request, c) left := by
  obtain ⟨outcome, t⟩ := left
  rcases outcome with e | tree | request'
  · obtain ⟨ts, passes, -⟩ := h
    exact .error passes
  · obtain ⟨ts, passes, isGood⟩ := h
    exact ⟨ts, passes, fun _ isResult clean => by cases isResult; exact isGood _ rfl clean⟩
  · obtain ⟨ts, passes, isGood⟩ := h
    refine ⟨passes.closed, trivial, fun answer later => ?_⟩
    have isBefore := isGood _ rfl
    exact .shift passes isBefore
      (later.mono fun us tree log' made log ends => ends us tree log' made)

/-! ### Expressions -/

theorem builds_level (l : Level) (closed : c.last.kind.isEnd = true) :
    Builds c (Ends (Made (.level l))) (step _ (.level l)) := by
  refine .bind (.ask l.operand closed) fun ts left t passes => ?_
  refine .pure passes.closed fun log made => ?_
  have isLeft : Constructs .expression ts left log := by cases l <;> exact made
  rintro us e log' rest
  simpa [Made] using rest ts log isLeft

theorem constructs_combine {l : Level} (operator : Token) {ts us : List Token} {left right : Expr}
    {log log' : List Occurrence} (h : Constructs .expression ts left log)
    (h' : Constructs .expression us right log') :
    Constructs .expression (ts ++ operator :: us) (l.combine left operator right)
      (log ++ log') := by
  cases l with
  | disjunction | conjunction => exact .logical h h'
  | _ => exact .binary h h'

theorem builds_operators (l : Level) (left : Expr) (closed : c.last.kind.isEnd = true) :
    Builds c (Ends (Made (.operators l left))) (step _ (.operators l left)) := by
  refine .peek ?_
  by_cases isOperator : l.accepts c.peek = true
  · rw [if_pos isOperator]
    refine .bind (.advance closed (isEnd_of_accepts isOperator)) fun _ _ t passes => ?_
    refine .bind (.ask l.operand passes.closed) fun us right u passes' => ?_
    refine .pure passes'.closed ?_
    rintro log made _ ⟨rfl, rfl⟩ vs e log'' rest ws log₀ isLeft
    have isRight : Constructs .expression us right log := by cases l <;> exact made
    simpa using rest _ _ (constructs_combine c.peek isLeft isRight)
  · rw [if_neg isOperator]
    refine .pure closed fun us log isLeft => ?_
    simpa using isLeft

theorem builds_unary (closed : c.last.kind.isEnd = true) :
    Builds c (Ends (Made .unary)) (step _ .unary) := by
  refine .peek ?_
  by_cases isOperator : (c.peek.isSymbol .bang || c.peek.isSymbol .minus) = true
  · rw [if_pos isOperator]
    have inside : c.peek.kind.isEnd = false := by
      rcases Bool.or_eq_true _ _ ▸ isOperator with isBang | isMinus
      · exact Cursor.isEnd_of_isSymbol isBang
      · exact Cursor.isEnd_of_isSymbol isMinus
    refine .bind (.advance closed inside) fun _ _ t passes => ?_
    refine .bind (.ask .unary passes.closed) fun us right u passes' => ?_
    refine .pure passes'.closed ?_
    rintro log isRight _ ⟨rfl, rfl⟩
    simpa [Ends, Made] using Constructs.unary c.peek isRight
  · rw [if_neg isOperator]
    exact .pure closed fun _ _ _ made => made

/-- The arguments of a call, if there are any. -/
theorem builds_callArguments (closed : c.last.kind.isEnd = true) (none : Bool) :
    Builds c (fun ts es log => Constructs .values ts es log)
      (if none = true then pure [] else Parse.ask (.arguments 0)) := by
  cases none with
  | true => exact .pure closed .noValues
  | false => exact .ask (.arguments 0) closed

theorem builds_suffixes (callee : Expr) (closed : c.last.kind.isEnd = true) :
    Builds c (Ends (Made (.suffixes callee))) (step _ (.suffixes callee)) := by
  refine .accept (fun isLeft => ?_) (.accept (fun isDot => ?_) ?_)
  · refine .bind (.advance closed (Cursor.isEnd_of_isSymbol isLeft)) fun _ _ t passes => ?_
    refine .sees (.either ?_)
    refine .bind (builds_callArguments passes.closed _) fun us es u passes' => ?_
    refine .bind (.expectSymbol passes'.closed) fun _ paren v passes'' => ?_
    refine .pure passes''.closed ?_
    rintro _ ⟨rfl, isRight, rfl⟩ log isArguments _ ⟨rfl, rfl⟩ vs e log'' rest ws log₀ isCallee
    simpa using rest _ _ (.call isCallee isLeft isArguments isRight)
  · refine .bind (.advance closed (Cursor.isEnd_of_isSymbol isDot)) fun _ _ t passes => ?_
    refine .bind (.expectName passes.closed) fun _ property u passes' => ?_
    refine .pure passes'.closed ?_
    rintro _ ⟨rfl, rfl⟩ _ ⟨rfl, rfl⟩ vs e log'' rest ws log₀ isObject
    simpa using rest _ _ (.get isObject isDot)
  · refine .pure closed fun us log isCallee => ?_
    simpa using isCallee

/-- A list that is too long is not built. -/
theorem builds_checkArity {sort : ListSort} {before : Nat} (closed : c.last.kind.isEnd = true) :
    Builds c (fun ts _ log => ts = [] ∧ log = []) (checkArity sort before) := by
  unfold checkArity
  by_cases tooMany : maxArity ≤ before
  · rw [if_pos tooMany]
    exact .peek (Builds.mono (.record closed) fun _ _ _ => False.elim)
  · rw [if_neg tooMany]
    exact .pure closed ⟨rfl, rfl⟩

theorem builds_arguments (before : Nat) (closed : c.last.kind.isEnd = true) :
    Builds c (Ends (Made (.arguments before))) (step _ (.arguments before)) := by
  refine .bind (builds_checkArity closed) fun _ _ t passes => ?_
  refine .bind (.ask .expression passes.closed) fun us e u passes' => ?_
  refine .accept (fun isComma => ?_) ?_
  · refine .bind (.advance passes'.closed (Cursor.isEnd_of_isSymbol isComma))
      fun _ _ v passes'' => ?_
    refine .bind (.ask (.arguments (before + 1)) passes''.closed) fun vs es w passes₃ => ?_
    refine .pure passes₃.closed ?_
    rintro log' later _ ⟨rfl, rfl⟩ log isFirst _ ⟨rfl, rfl⟩
    simpa [Ends, Made] using Constructs.values isFirst isComma later
  · refine .pure passes'.closed ?_
    rintro log isFirst _ ⟨rfl, rfl⟩
    simpa [Ends, Made] using Constructs.lastValue isFirst

/-- A token that is read as a constant. -/
theorem builds_literal {value : Literal} (closed : c.last.kind.isEnd = true)
    (inside : c.peek.kind.isEnd = false) (isLiteral : Grammar.literal? c.peek.kind = some value) :
    Builds c (fun ts e log => Constructs .expression ts e log)
      (do Parse.advance; return .literal value c.peek.line) := by
  refine .bind (.advance closed inside) fun _ _ t passes => ?_
  refine .pure passes.closed ?_
  rintro _ ⟨rfl, rfl⟩
  exact .literal isLiteral

/-- A token that is read as an occurrence of a name. -/
theorem builds_occurrence {tree : Occurrence → Expr} (closed : c.last.kind.isEnd = true)
    (inside : c.peek.kind.isEnd = false)
    (constructs : ∀ o, Constructs .expression [o.name] (tree o) [o]) :
    Builds c (fun ts e log => Constructs .expression ts e log)
      (do Parse.advance; return tree (← Parse.occurrence c.peek)) := by
  refine .bind (.advance closed inside) fun _ _ t passes => ?_
  refine .bind (.occurrence passes.closed) fun _ o u passes' => ?_
  refine .pure passes'.closed ?_
  rintro _ ⟨rfl, isName, rfl⟩ _ ⟨rfl, rfl⟩
  rw [← isName]
  exact constructs o

theorem builds_primary (closed : c.last.kind.isEnd = true) :
    Builds c (fun ts e log => Constructs .expression ts e log) primary := by
  refine .peek ?_
  split
  case h_6 isKind => exact builds_occurrence closed (by rw [isKind]; rfl) .this
  case h_7 isKind => exact builds_occurrence closed (by rw [isKind]; rfl) .reference
  case h_8 isKind =>
    refine .bind (.advance closed (by rw [isKind]; rfl)) fun _ _ t passes => ?_
    refine .bind (.expectSymbol passes.closed) fun _ dot u passes' => ?_
    refine .bind (.expectName passes'.closed) fun _ method v passes'' => ?_
    refine .bind (.occurrence passes''.closed) fun _ o w passes₃ => ?_
    refine .pure passes₃.closed ?_
    rintro _ ⟨rfl, isName, rfl⟩ _ ⟨rfl, rfl⟩ _ ⟨rfl, isDot, rfl⟩ _ ⟨rfl, rfl⟩
    rw [← isName]
    exact .super o isDot
  case h_9 isKind =>
    refine .bind (.advance closed (by rw [isKind]; rfl)) fun _ _ t passes => ?_
    refine .bind (.ask .expression passes.closed) fun ts e u passes' => ?_
    refine .bind (.expectSymbol passes'.closed) fun _ right v passes'' => ?_
    refine .pure passes''.closed ?_
    rintro _ ⟨rfl, isRight, rfl⟩ log isInner _ ⟨rfl, rfl⟩
    simpa using Constructs.grouping (Token.isSymbol_iff.2 isKind) isInner isRight
  case h_10 => exact .missing closed
  all_goals
    rename_i isKind
    exact builds_literal closed (by rw [isKind]; rfl) (by rw [isKind]; rfl)

theorem builds_operand (closed : c.last.kind.isEnd = true) :
    Builds c (Ends (Made .operand)) (step _ .operand) := by
  refine .bind (builds_primary closed) fun ts e t passes => ?_
  refine .pure passes.closed fun log isPrimary => ?_
  rintro us e' log' rest
  simpa [Made] using rest ts log isPrimary

/-- The node of a target is not part of the assignment, whose own node is constructed now. -/
theorem builds_assignment {target value : Expr} {equals : Token} (closed : c.last.kind.isEnd = true)
    (isEqual : equals.isSymbol .equal) :
    Builds c (fun vs e log'' => ∀ ts us log log', Constructs .expression ts target log →
        Constructs .expression us value log' →
        vs = [] ∧ Constructs .expression (ts ++ equals :: us) e (log ++ (log' ++ log'')))
      (assignment target equals value) := by
  cases target with
  | reference o =>
    refine .bind (.occurrence closed) fun _ o' t passes => ?_
    refine .pure passes.closed ?_
    rintro _ ⟨rfl, isName, rfl⟩ ts us log log' isTarget isValue
    cases isTarget
    exact ⟨rfl, .assign isName isEqual isValue⟩
  | get object property =>
    refine .pure closed fun ts us log log' isTarget isValue => ⟨rfl, ?_⟩
    cases isTarget with
    | get isObject isDot => simpa using Constructs.set isObject isDot isEqual isValue
  | _ => exact .bind (.record closed) fun _ _ t passes => .pure passes.closed fun _ => False.elim

theorem builds_expression (closed : c.last.kind.isEnd = true) :
    Builds c (Ends (Made .expression)) (step _ .expression) := by
  refine .bind (.ask (.level .disjunction) closed) fun ts target t passes => ?_
  refine .peek ?_
  by_cases isEqual : t.peek.isSymbol .equal = true
  · rw [if_pos isEqual]
    refine .bind (.advance passes.closed (Cursor.isEnd_of_isSymbol isEqual))
      fun _ _ u passes' => ?_
    refine .bind (.ask .expression passes'.closed) fun us value v passes'' => ?_
    refine .bind (builds_assignment passes''.closed isEqual) fun _ e w passes₃ => ?_
    refine .pure passes₃.closed ?_
    rintro log'' whole log' isValue _ ⟨rfl, rfl⟩ log isTarget
    obtain ⟨rfl, isWhole⟩ := whole ts us log log' isTarget isValue
    simpa [Ends, Made] using isWhole
  · rw [if_neg isEqual]
    refine .pure passes.closed fun log isTarget => ?_
    simpa [Ends, Made] using isTarget

end Parser

end Lox
