import Lox.Proofs.Alike.Tree
import Lox.Proofs.Number.Text
import Lox.Proofs.Token.Lexeme
import Lox.Proofs.Tree.Formed
import Lox.Proofs.Tree.Printed
import Mathlib.Tactic.FinCases

/-!
# Expressions whose printed form determines them

The tokens that a source gives a tree have the texts of their kinds, and a constant that is neither
a string nor an infinity has a text that no other constant and no name has. The head of a symbolic
expression, the number of its parts and the form of the first one tell by which rule an expression
is made.

## Main definitions

* `Token.IsText`: a token of a kind, with a text of that kind.
* `Literal.Legible`: constants that can be read off their texts.
* `Expr.Written`: expressions with such tokens and constants.

## Main results

* `Expr.Written.alike`: equal symbolic expressions belong to expressions that are the same up to
  their labels.
-/

namespace Lox

/-! ### Tokens and constants -/

/-- A token of a kind, with a text of that kind. -/
structure Token.IsText (t : Token) (kind : TokenKind) : Prop where
  kind_eq : t.kind = kind
  lexes : Lexes t.lexeme.toList kind

/-- A constant that can be read off its text: a finite number, a truth value or nil. -/
def Literal.Legible : Literal → Prop
  | .number x => ∃ negative s e, Number.binary x = .finite negative s e
  | .string _ => False
  | .boolean _ | .nil => True

/-- Any numbers of occurrences, and any lines, correspond. -/
def Relabelling.any : Relabelling where
  ids := fun _ _ => True
  lines := fun _ _ => True

namespace Token.IsText

variable {t t' : Token} {kind : TokenKind} {s : Symbol} {k : Keyword}

theorem of_kind (h : t.IsText t.kind) (isKind : t.kind = kind) : t.IsText kind :=
  isKind ▸ h

theorem alike (h : t.IsText kind) (h' : t'.IsText kind) (same : t.lexeme = t'.lexeme) :
    t.Alike .any t' :=
  ⟨h'.kind_eq.trans h.kind_eq.symm, same.symm, trivial⟩

theorem toList_symbol (h : t.IsText (.symbol s)) : t.lexeme.toList = s.spelling.toList := by
  generalize isText : t.lexeme.toList = text
  have lexes := h.lexes
  rw [isText] at lexes
  cases lexes
  rfl

theorem toList_keyword (h : t.IsText (.keyword k)) : t.lexeme.toList = k.spelling.toList := by
  generalize isText : t.lexeme.toList = text
  have lexes := h.lexes
  rw [isText] at lexes
  cases lexes
  rfl

theorem alike_symbol (h : t.IsText (.symbol s)) (h' : t'.IsText (.symbol s)) :
    t.Alike .any t' :=
  h.alike h' (String.toList_injective (h.toList_symbol.trans h'.toList_symbol.symm))

theorem alike_keyword (h : t.IsText (.keyword k)) (h' : t'.IsText (.keyword k)) :
    t.Alike .any t' :=
  h.alike h' (String.toList_injective (h.toList_keyword.trans h'.toList_keyword.symm))

theorem alike_name (h : t.IsText .identifier) (h' : t'.IsText .identifier)
    (same : t.form = t'.form) : t.Alike .any t' :=
  h.alike h' (String.toList_injective (Form.word.inj same))

/-- Kinds are told apart by their texts. -/
theorem alike_of_toList_eq {kind' : TokenKind} (h : t.IsText kind) (h' : t'.IsText kind')
    (same : t.lexeme.toList = t'.lexeme.toList) : t.Alike .any t' := by
  have lexes := h'.lexes
  rw [← same] at lexes
  obtain rfl := h.lexes.unique lexes
  exact h.alike h' (String.toList_injective same)

end Token.IsText

/-! ### Words -/

namespace Form

theorem isBreak_eq_false_of_isNameRest {c : Char} (h : isNameRest c = true) :
    isBreak c = false := by
  rw [isBreak, Bool.or_eq_false_iff, Bool.or_eq_false_iff, Bool.or_eq_false_iff]
  refine ⟨⟨⟨?_, ?_⟩, ?_⟩, ?_⟩ <;> rw [beq_eq_false_iff_ne] <;> rintro rfl <;>
    exact absurd h (by decide)

theorem isWord_identifier {text : List Char} (h : Lexes text .identifier) : IsWord text := by
  cases h with
  | identifier start more _ =>
    refine ⟨List.cons_ne_nil _ _, fun d inside => isBreak_eq_false_of_isNameRest ?_⟩
    rcases List.mem_cons.1 inside with rfl | inside
    · rw [isNameRest, start, Bool.true_or]
    · exact more d inside

theorem isBreak_eq_false_of_isDigit {c : Char} (h : c.isDigit = true ∨ c = '.') :
    isBreak c = false := by
  rw [isBreak, Bool.or_eq_false_iff, Bool.or_eq_false_iff, Bool.or_eq_false_iff]
  refine ⟨⟨⟨?_, ?_⟩, ?_⟩, ?_⟩ <;> rw [beq_eq_false_iff_ne] <;> rintro rfl <;>
    exact absurd h (by decide)

end Form

theorem Token.IsText.proper {t : Token} (h : t.IsText .identifier) : t.form.Proper :=
  .word (Form.isWord_identifier h.lexes)

namespace Literal.Legible

variable {value value' : Literal} {x y : Float}

/-- The text of a number begins with a digit or a minus sign. -/
theorem exists_cons (h : (number x).Legible) : ∃ c rest,
    (number x).text.toList = c :: rest ∧ isNameStart c = false ∧
      ∀ d ∈ c :: rest, Form.isBreak d = false := by
  obtain ⟨negative, s, e, isFinite⟩ := h
  obtain ⟨text, r, isText, numeral, -⟩ := toList_text_number isFinite
  obtain ⟨c, rest, rfl, digit, more⟩ := numeral.exists_cons
  have start : isNameStart c = false := by
    rw [Bool.eq_false_iff]
    intro start
    exact absurd (digit.symm.trans (isDigit_eq_false_of_isNameStart start)) (by decide)
  have free : ∀ d ∈ c :: rest, Form.isBreak d = false :=
    fun d inside => Form.isBreak_eq_false_of_isDigit <|
      (List.mem_cons.1 inside).elim (fun isFirst => .inl (isFirst ▸ digit)) (more d)
  cases negative with
  | false => exact ⟨c, rest, isText, start, free⟩
  | true => exact ⟨'-', c :: rest, isText, rfl, List.forall_mem_cons.2 ⟨rfl, free⟩⟩

theorem isWord : ∀ {value : Literal}, value.Legible → Form.IsWord value.text.toList
  | .number _, h => by
    obtain ⟨c, rest, isText, -, free⟩ := h.exists_cons
    rw [isText]
    exact ⟨List.cons_ne_nil _ _, free⟩
  | .boolean b, _ => by cases b <;> decide
  | .nil, _ => by decide

theorem ne_of_isNameStart {c : Char} {rest : List Char} (h : (number x).Legible)
    (start : isNameStart c = true) : (number x).text.toList ≠ c :: rest := by
  obtain ⟨d, more, isText, noStart, -⟩ := h.exists_cons
  rw [isText]
  rintro ⟨⟩
  rw [start] at noStart
  cases noStart

/-- The text of a constant determines it. -/
theorem eq_of_text_eq : ∀ {value value' : Literal}, value.Legible → value'.Legible →
    value.text = value'.text → value = value'
  | .number x, .number y, ⟨_, _, _, h⟩, ⟨_, _, _, h'⟩, same =>
    congrArg number (number_injective h h' same)
  | .number _, .boolean b, h, _, same => by
    cases b <;> exact absurd (congrArg String.toList same) (h.ne_of_isNameStart rfl)
  | .number _, .nil, h, _, same =>
    absurd (congrArg String.toList same) (h.ne_of_isNameStart rfl)
  | .boolean b, .number _, _, h, same => by
    cases b <;> exact absurd (congrArg String.toList same.symm) (h.ne_of_isNameStart rfl)
  | .nil, .number _, _, h, same =>
    absurd (congrArg String.toList same.symm) (h.ne_of_isNameStart rfl)
  | .boolean b, .boolean b', _, _, same => by
    cases b <;> cases b' <;> first | rfl | exact absurd same (by decide)
  | .boolean b, .nil, _, _, same => by cases b <;> exact absurd same (by decide)
  | .nil, .boolean b, _, _, same => by cases b <;> exact absurd same (by decide)
  | .nil, .nil, _, _, _ => rfl

end Literal.Legible

/-- Lists with the same symbolic expressions are related, if their members are. -/
theorem Form.forall₂_of_map_eq {α : Type} (form : α → Form) {r : α → α → Prop} {good : α → Prop}
    {as as' : List α} (h : ∀ a ∈ as, ∀ a', good a' → form a = form a' → r a a')
    (h' : ∀ a ∈ as', good a) (same : as.map form = as'.map form) : List.Forall₂ r as as' := by
  induction as generalizing as' with
  | nil =>
    cases as' with
    | nil => exact .nil
    | cons => cases same
  | cons a as ih =>
    cases as' with
    | nil => cases same
    | cons a' as' =>
      rw [List.forall_mem_cons] at h h'
      injection same with first rest
      exact .cons (h.1 a' h'.1 first) (ih h.2 h'.2 rest)

/-! ### Expressions -/

/-- The operators that may leave their right operand unevaluated. -/
def Token.IsLogical (t : Token) : Prop :=
  t.kind = .keyword .and_ ∨ t.kind = .keyword .or_

/-- Expressions whose tokens have the texts of their kinds, and whose constants are legible. -/
inductive Expr.Written : Expr → Prop
  | literal {value : Literal} {line : Nat} (h : value.Legible) : Written (.literal value line)
  | grouping {inner : Expr} (h : Written inner) : Written (.grouping inner)
  | unary {operator : Token} {right : Expr} (isUnary : operator.IsUnary)
      (isText : operator.IsText operator.kind) (h : Written right) :
      Written (.unary operator right)
  | binary {operator : Token} {left right : Expr} (isBinary : operator.IsBinary)
      (isText : operator.IsText operator.kind) (h : Written left) (h' : Written right) :
      Written (.binary left operator right)
  | logical {operator : Token} {left right : Expr} (isLogical : operator.IsLogical)
      (isText : operator.IsText operator.kind) (h : Written left) (h' : Written right) :
      Written (.logical left operator right)
  | reference {name : Occurrence} (isName : name.name.IsText .identifier) :
      Written (.reference name)
  | assign {name : Occurrence} {value : Expr} (isName : name.name.IsText .identifier)
      (h : Written value) : Written (.assign name value)
  | call {callee : Expr} {paren : Token} {arguments : List Expr}
      (isParen : paren.IsText (.symbol .rightParen)) (h : Written callee)
      (h' : ∀ e ∈ arguments, Written e) : Written (.call callee paren arguments)
  | get {object : Expr} {property : Token} (isName : property.IsText .identifier)
      (h : Written object) : Written (.get object property)
  | set {object value : Expr} {property : Token} (isName : property.IsText .identifier)
      (h : Written object) (h' : Written value) : Written (.set object property value)
  | this {keyword : Occurrence} (isThis : keyword.name.IsText (.keyword .this_)) :
      Written (.this keyword)
  | super {keyword : Occurrence} {method : Token}
      (isSuper : keyword.name.IsText (.keyword .super_)) (isName : method.IsText .identifier) :
      Written (.super keyword method)

/-- The rules that make expressions. -/
inductive Expr.Rule where
  | literal | grouping | unary | binary | logical | reference | assign | call | get | set | this
  | super
  deriving DecidableEq

/-- The rule that makes an expression. -/
def Expr.rule : Expr → Expr.Rule
  | .literal .. => .literal
  | .grouping .. => .grouping
  | .unary .. => .unary
  | .binary .. => .binary
  | .logical .. => .logical
  | .reference .. => .reference
  | .assign .. => .assign
  | .call .. => .call
  | .get .. => .get
  | .set .. => .set
  | .this .. => .this
  | .super .. => .super

/-- Whether a word is a name: it begins like one, and is none of the constants. -/
def Form.isName : List Char → Bool
  | [] => false
  | c :: rest => isNameStart c && !Keyword.all.any fun k => k.spelling.toList == c :: rest

/-- The rule by which an expression with the given symbolic expression is made. -/
def Form.rule : Form → Expr.Rule
  | word text =>
    if text = "this".toList then .this else if isName text then .reference else .literal
  | header .. => .literal
  | group head parts =>
    if head = "group".toList then .grouping
    else if head = "call".toList then .call
    else if head = ".".toList then .get
    else if head = "super".toList then .super
    else if head = "and".toList ∨ head = "or".toList then .logical
    else
      match parts with
      | [_] => .unary
      | word _ :: _ => if head = "=".toList then .assign else .binary
      | _ => if head = "=".toList then .set else .binary

namespace Expr.Written

variable {e e' : Expr}

/-- The symbolic expression of an expression tells the rule that makes it. -/
theorem rule_form (h : e.Written) : e.form.rule = e.rule := by
  cases h with
  | @literal value line h =>
    simp only [form, Form.rule, Expr.rule]
    cases value with
    | number x =>
      obtain ⟨c, rest, isText, start, -⟩ := h.exists_cons
      rw [isText, if_neg, if_neg]
      · simp [Form.isName, start]
      · rintro ⟨⟩
        cases start
    | string s => exact h.elim
    | boolean b => cases b <;> rfl
    | nil => rfl
  | grouping => rfl
  | unary isUnary isText =>
    rcases isUnary with isKind | isKind <;>
      rw [form, (isText.of_kind isKind).toList_symbol] <;> rfl
  | @binary _ left _ isBinary isText =>
    obtain ⟨s, isKind, isInfix⟩ := isBinary
    rw [form, (isText.of_kind isKind).toList_symbol]
    generalize left.form = first
    fin_cases isInfix <;> cases first <;> rfl
  | logical isLogical isText =>
    rcases isLogical with isKind | isKind <;>
      rw [form, (isText.of_kind isKind).toList_keyword] <;> rfl
  | @reference name isName =>
    have isWord := isName.lexes
    simp only [form, Token.form, Form.rule, Expr.rule]
    generalize name.name.lexeme.toList = text at isWord
    cases isWord with
    | @identifier c rest start more free =>
      rw [if_neg (show c :: rest ≠ "this".toList from free .this_), if_pos]
      simp only [Form.isName, start, Bool.true_and, Bool.not_eq_true', List.any_eq_false,
        beq_iff_eq]
      exact fun k _ => (free k).symm
  | assign => rfl
  | call => rfl
  | get => rfl
  | set => rfl
  | this => rfl
  | super => rfl

/-- The words of a written expression are words. -/
theorem proper (h : e.Written) : e.form.Proper := by
  induction h with
  | literal h => exact .word h.isWord
  | grouping _ ih => exact .group (by decide) (.cons ih .nil)
  | unary isUnary isText _ ih =>
    refine .group ?_ (.cons ih .nil)
    rcases isUnary with isKind | isKind <;> rw [(isText.of_kind isKind).toList_symbol] <;>
      decide
  | binary isBinary isText _ _ ih ih' =>
    refine .group ?_ (.cons ih (.cons ih' .nil))
    obtain ⟨s, isKind, isInfix⟩ := isBinary
    rw [(isText.of_kind isKind).toList_symbol]
    fin_cases isInfix <;> decide
  | logical isLogical isText _ _ ih ih' =>
    refine .group ?_ (.cons ih (.cons ih' .nil))
    rcases isLogical with isKind | isKind <;> rw [(isText.of_kind isKind).toList_keyword] <;>
      decide
  | reference isName => exact isName.proper
  | assign isName _ ih =>
    exact .group (by decide) (.cons isName.proper (.cons ih .nil))
  | @call _ _ arguments _ _ _ ih ih' =>
    rw [form, Expr.forms_eq]
    exact .group (by decide) (.cons ih (Form.properList ih'))
  | get isName _ ih => exact .group (by decide) (.cons ih (.cons isName.proper .nil))
  | set isName _ _ ih ih' =>
    exact .group (by decide)
      (.cons (.group (by decide) (.cons ih (.cons isName.proper .nil))) (.cons ih' .nil))
  | this => exact .word (by decide)
  | super _ isName => exact .group (by decide) (.cons isName.proper .nil)

theorem alike_occurrence {o o' : Occurrence} (h : o.name.Alike .any o'.name) : o.Alike .any o' :=
  ⟨trivial, h⟩

theorem rule_eq (h : e.Written) (h' : e'.Written) (same : e.form = e'.form) :
    e.rule = e'.rule := by
  rw [← h.rule_form, same, h'.rule_form]

/-- Equal symbolic expressions belong to expressions that are the same up to their labels. -/
theorem alike (h : e.Written) (h' : e'.Written) (same : e.form = e'.form) : e.Alike .any e' := by
  induction h generalizing e' with
  | literal h =>
    have rules := rule_eq (.literal h) h' same
    cases h' with
    | literal h' =>
      obtain rfl := h.eq_of_text_eq h' (String.toList_injective (Form.word.inj same))
      exact .literal _ trivial
    | _ => cases rules
  | grouping h ih =>
    have rules := rule_eq (.grouping h) h' same
    cases h' with
    | grouping h' =>
      simp only [form, Form.group.injEq, List.cons.injEq, and_true, true_and] at same
      exact .grouping (ih h' same)
    | _ => cases rules
  | unary isUnary isText h ih =>
    have rules := rule_eq (.unary isUnary isText h) h' same
    cases h' with
    | unary _ isText' h' =>
      simp only [form, Form.group.injEq, List.cons.injEq, and_true] at same
      exact .unary (isText.alike_of_toList_eq isText' same.1) (ih h' same.2)
    | _ => cases rules
  | binary isBinary isText hl hr ihl ihr =>
    have rules := rule_eq (.binary isBinary isText hl hr) h' same
    cases h' with
    | binary _ isText' hl' hr' =>
      simp only [form, Form.group.injEq, List.cons.injEq, and_true] at same
      exact .binary (ihl hl' same.2.1) (isText.alike_of_toList_eq isText' same.1) (ihr hr' same.2.2)
    | _ => cases rules
  | logical isLogical isText hl hr ihl ihr =>
    have rules := rule_eq (.logical isLogical isText hl hr) h' same
    cases h' with
    | logical _ isText' hl' hr' =>
      simp only [form, Form.group.injEq, List.cons.injEq, and_true] at same
      exact .logical (ihl hl' same.2.1) (isText.alike_of_toList_eq isText' same.1)
        (ihr hr' same.2.2)
    | _ => cases rules
  | reference isName =>
    have rules := rule_eq (.reference isName) h' same
    cases h' with
    | reference isName' => exact .reference (alike_occurrence (isName.alike_name isName' same))
    | _ => cases rules
  | assign isName h ih =>
    have rules := rule_eq (.assign isName h) h' same
    cases h' with
    | assign isName' h' =>
      simp only [form, Form.group.injEq, List.cons.injEq, and_true, true_and] at same
      exact .assign (alike_occurrence (isName.alike_name isName' same.1)) (ih h' same.2)
    | _ => cases rules
  | call isParen h hs ih ihs =>
    have rules := rule_eq (.call isParen h hs) h' same
    cases h' with
    | call isParen' h' hs' =>
      simp only [form, Expr.forms_eq, Form.group.injEq, List.cons.injEq, true_and] at same
      exact .call (ih h' same.1) (isParen.alike_symbol isParen')
        (Form.forall₂_of_map_eq _ (fun e mem _ => ihs e mem) hs' same.2)
    | _ => cases rules
  | get isName h ih =>
    have rules := rule_eq (.get isName h) h' same
    cases h' with
    | get isName' h' =>
      simp only [form, Form.group.injEq, List.cons.injEq, and_true, true_and] at same
      exact .get (ih h' same.1) (isName.alike_name isName' same.2)
    | _ => cases rules
  | set isName h hv ih ihv =>
    have rules := rule_eq (.set isName h hv) h' same
    cases h' with
    | set isName' h' hv' =>
      simp only [form, Form.group.injEq, List.cons.injEq, and_true, true_and] at same
      exact .set (ih h' same.1.1) (isName.alike_name isName' same.1.2) (ihv hv' same.2)
    | _ => cases rules
  | this isThis =>
    have rules := rule_eq (.this isThis) h' same
    cases h' with
    | this isThis' => exact .this (alike_occurrence (isThis.alike_keyword isThis'))
    | _ => cases rules
  | super isSuper isName =>
    have rules := rule_eq (.super isSuper isName) h' same
    cases h' with
    | super isSuper' isName' =>
      simp only [form, Form.group.injEq, List.cons.injEq, and_true, true_and] at same
      exact .super (alike_occurrence (isSuper.alike_keyword isSuper'))
        (isName.alike_name isName' same)
    | _ => cases rules

end Expr.Written

end Lox
