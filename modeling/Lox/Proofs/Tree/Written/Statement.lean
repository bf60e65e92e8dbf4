import Lox.Proofs.Tree.Written.Expression

/-!
# Programs whose printed form determines them

The head of the symbolic expression of a statement tells by which rule it is made. A program is
printed with a newline between its statements, and no statement has a newline in its text.

## Main definitions

* `Stmt.Written`, `FunctionDecl.Written`: statements and functions whose tokens have the texts of
  their kinds, and whose constants are legible.

## Main results

* `Stmt.Written.alike`: equal symbolic expressions belong to statements that are the same up to
  their labels.
* `Expr.Written.alike_of_print_eq`, `Stmt.Written.alike_of_print_eq`: equal printed forms belong to
  expressions, and to programs, that are the same up to their labels.
-/

namespace Lox

mutual

/-- Statements whose tokens have the texts of their kinds, and whose constants are legible. -/
inductive Stmt.Written : Stmt → Prop
  | block {body : List Stmt} (h : ∀ s ∈ body, Stmt.Written s) : Stmt.Written (.block body)
  | classDecl {name : Token} {superclass : Option Occurrence} {methods : List FunctionDecl}
      (isName : name.IsText .identifier)
      (above : ∀ o, superclass = some o → o.name.IsText .identifier)
      (h : ∀ d ∈ methods, FunctionDecl.Written d) :
      Stmt.Written (.classDecl name superclass methods)
  | expression {value : Expr} (h : value.Written) : Stmt.Written (.expression value)
  | functionDecl {d : FunctionDecl} (h : FunctionDecl.Written d) : Stmt.Written (.functionDecl d)
  | conditional {condition : Expr} {thenBranch : Stmt} {elseBranch : Option Stmt}
      (h : condition.Written) (hThen : Stmt.Written thenBranch)
      (hElse : ∀ s, elseBranch = some s → Stmt.Written s) :
      Stmt.Written (.conditional condition thenBranch elseBranch)
  | print {value : Expr} (h : value.Written) : Stmt.Written (.print value)
  | ret {keyword : Token} {value : Option Expr} (isReturn : keyword.IsText (.keyword .return_))
      (h : ∀ e, value = some e → e.Written) : Stmt.Written (.ret keyword value)
  | varDecl {name : Token} {initializer : Option Expr} (isName : name.IsText .identifier)
      (h : ∀ e, initializer = some e → e.Written) : Stmt.Written (.varDecl name initializer)
  | loop {condition : Expr} {body : Stmt} (h : condition.Written) (hBody : Stmt.Written body) :
      Stmt.Written (.loop condition body)

/-- Functions whose tokens have the texts of their kinds, and whose constants are legible. -/
inductive FunctionDecl.Written : FunctionDecl → Prop
  | mk {name : Token} {params : List Token} {body : List Stmt} (isName : name.IsText .identifier)
      (areNames : ∀ t ∈ params, t.IsText .identifier) (h : ∀ s ∈ body, Stmt.Written s) :
      FunctionDecl.Written ⟨name, params, body⟩

end

/-! ### Rules -/

/-- The rules that make statements. -/
inductive Stmt.Rule where
  | block | classDecl | expression | functionDecl | conditional | print | ret | varDecl | loop
  deriving DecidableEq

/-- The rule that makes a statement. -/
def Stmt.rule : Stmt → Stmt.Rule
  | .block .. => .block
  | .classDecl .. => .classDecl
  | .expression .. => .expression
  | .functionDecl .. => .functionDecl
  | .conditional .. => .conditional
  | .print .. => .print
  | .ret .. => .ret
  | .varDecl .. => .varDecl
  | .loop .. => .loop

/-- The rule by which a statement with the given symbolic expression is made. -/
def Form.stmtRule : Form → Stmt.Rule
  | group head _ =>
    if head = "block".toList then .block
    else if head = "class".toList then .classDecl
    else if head = ";".toList then .expression
    else if head = "fun".toList then .functionDecl
    else if head = "print".toList then .print
    else if head = "return".toList then .ret
    else if head = "var".toList then .varDecl
    else if head = "while".toList then .loop
    else .conditional
  | _ => .expression

theorem Stmt.rule_form (s : Stmt) : s.form.stmtRule = s.rule := by
  cases s with
  | classDecl name superclass methods => cases superclass <;> rfl
  | conditional condition thenBranch elseBranch => cases elseBranch <;> rfl
  | ret keyword value => cases value <;> rfl
  | varDecl name initializer => cases initializer <;> rfl
  | functionDecl declaration => cases declaration; rfl
  | _ => rfl

theorem Stmt.rule_eq {s s' : Stmt} (same : s.form = s'.form) : s.rule = s'.rule := by
  rw [← s.rule_form, same, s'.rule_form]

/-! ### Words -/

mutual

/-- The words of a written statement are words. -/
theorem Stmt.Written.proper : ∀ {s : Stmt}, s.Written → s.form.Proper
  | .block body, .block h => by
    rw [Stmt.form, Stmt.forms_eq]
    exact .group (by decide) (Form.properList fun s mem => (h s mem).proper)
  | .classDecl name none methods, .classDecl isName _ h => by
    rw [Stmt.form, FunctionDecl.forms_eq]
    exact .group (by decide)
      (.cons isName.proper (Form.properList fun d mem => (h d mem).proper))
  | .classDecl name (some superclass) methods, .classDecl isName above h => by
    rw [Stmt.form, FunctionDecl.forms_eq]
    exact .group (by decide)
      (.cons isName.proper (.cons (.word (by decide))
        (.cons (above _ rfl).proper (Form.properList fun d mem => (h d mem).proper))))
  | .expression value, .expression h | .print value, .print h =>
    .group (by decide) (.cons h.proper .nil)
  | .functionDecl declaration, .functionDecl h => h.proper
  | .conditional condition thenBranch none, .conditional h hThen _ =>
    .group (by decide) (.cons h.proper (.cons hThen.proper .nil))
  | .conditional condition thenBranch (some elseBranch), .conditional h hThen hElse =>
    .group (by decide)
      (.cons h.proper (.cons hThen.proper (.cons (hElse _ rfl).proper .nil)))
  | .ret _ none, .ret _ _ => .group (by decide) .nil
  | .ret _ (some value), .ret _ h => .group (by decide) (.cons (h _ rfl).proper .nil)
  | .varDecl name none, .varDecl isName _ =>
    .group (by decide) (.cons isName.proper .nil)
  | .varDecl name (some value), .varDecl isName h =>
    .group (by decide)
      (.cons isName.proper (.cons (.word (by decide)) (.cons (h _ rfl).proper .nil)))
  | .loop condition body, .loop h hBody =>
    .group (by decide) (.cons h.proper (.cons hBody.proper .nil))

/-- The words of a written function are words. -/
theorem FunctionDecl.Written.proper : ∀ {d : FunctionDecl}, d.Written → d.form.Proper
  | ⟨name, params, body⟩, .mk isName areNames h => by
    rw [FunctionDecl.form, Stmt.forms_eq]
    refine .group (by decide) (.cons (.header (Form.isWord_identifier isName.lexes) ?_)
      (Form.properList fun s mem => (h s mem).proper))
    simp only [List.forall_mem_map]
    exact fun t mem => Form.isWord_identifier (areNames t mem).lexes

end

/-! ### Equal symbolic expressions -/

theorem Token.IsText.alike_names {ts ts' : List Token} (h : ∀ t ∈ ts, t.IsText .identifier)
    (h' : ∀ t ∈ ts', t.IsText .identifier)
    (same : (ts.map fun t => t.lexeme.toList) = ts'.map fun t => t.lexeme.toList) :
    List.Forall₂ (Token.Alike .any) ts ts' := by
  refine Form.forall₂_of_map_eq Token.form (fun t mem t' isName => ?_) h' ?_
  · exact (h t mem).alike_name isName
  · have words := congrArg (List.map Form.word) same
    rwa [List.map_map, List.map_map] at words

mutual

/-- Equal symbolic expressions belong to statements that are the same up to their labels. -/
theorem Stmt.Written.alike : ∀ {s s' : Stmt}, s.Written → s'.Written → s.form = s'.form →
    s.Alike .any s'
  | .block body, s', .block h, h', same => by
    have rules := Stmt.rule_eq same
    cases h' with
    | block h' =>
      simp only [Stmt.form, Stmt.forms_eq, Form.group.injEq, true_and] at same
      exact .block (Form.forall₂_of_map_eq _ (fun s mem s' isWritten => (h s mem).alike isWritten)
        h' same)
    | _ => cases rules
  | .classDecl name superclass methods, s', .classDecl isName above h, h', same => by
    have rules := Stmt.rule_eq same
    cases h' with
    | @classDecl name' superclass' methods' isName' above' h' =>
      have methods (parts : methods.map FunctionDecl.form = methods'.map FunctionDecl.form) :
          List.Forall₂ (FunctionDecl.Alike .any) methods methods' :=
        Form.forall₂_of_map_eq _ (fun d mem d' isWritten => (h d mem).alike isWritten) h' parts
      -- Behind the name of a class stands a function or the word in front of the name above.
      have apart (ds : List FunctionDecl) (rest : List Form) :
          ds.map FunctionDecl.form ≠ .word "<".toList :: rest := by
        cases ds with
        | nil => exact nofun
        | cons d ds => cases d; exact fun h => nomatch h
      cases superclass with
      | none =>
        cases superclass' with
        | none =>
          simp only [Stmt.form, FunctionDecl.forms_eq, Form.group.injEq, List.cons.injEq,
            true_and] at same
          exact .classDecl (isName.alike_name isName' same.1) .none (methods same.2)
        | some o' =>
          simp only [Stmt.form, FunctionDecl.forms_eq, Form.group.injEq, List.cons.injEq,
            true_and] at same
          exact absurd same.2 (apart _ _)
      | some o =>
        cases superclass' with
        | none =>
          simp only [Stmt.form, FunctionDecl.forms_eq, Form.group.injEq, List.cons.injEq,
            true_and] at same
          exact absurd same.2.symm (apart _ _)
        | some o' =>
          simp only [Stmt.form, FunctionDecl.forms_eq, Form.group.injEq, List.cons.injEq,
            true_and] at same
          exact .classDecl (isName.alike_name isName' same.1)
            (.some (Expr.Written.alike_occurrence
              ((above _ rfl).alike_name (above' _ rfl) same.2.1))) (methods same.2.2)
    | _ => cases rules
  | .expression value, s', .expression h, h', same => by
    have rules := Stmt.rule_eq same
    cases h' with
    | expression h' =>
      simp only [Stmt.form, Form.group.injEq, List.cons.injEq, and_true, true_and] at same
      exact .expression (h.alike h' same)
    | _ => cases rules
  | .functionDecl declaration, s', .functionDecl h, h', same => by
    have rules := Stmt.rule_eq same
    cases h' with
    | functionDecl h' => exact .functionDecl (h.alike h' same)
    | _ => cases rules
  | .conditional condition thenBranch none, s', .conditional h hThen _, h', same => by
    have rules := Stmt.rule_eq same
    cases h' with
    | @conditional condition' thenBranch' elseBranch' h' hThen' _ =>
      cases elseBranch' with
      | none =>
        simp only [Stmt.form, Form.group.injEq, List.cons.injEq, and_true, true_and] at same
        exact .conditional (h.alike h' same.1) (hThen.alike hThen' same.2) .none
      | some elseBranch' => exact absurd (Form.group.inj same).1 (by decide)
    | _ => cases rules
  | .conditional condition thenBranch (some elseBranch), s', .conditional h hThen hElse, h',
      same => by
    have rules := Stmt.rule_eq same
    cases h' with
    | @conditional condition' thenBranch' elseBranch' h' hThen' hElse' =>
      cases elseBranch' with
      | none => exact absurd (Form.group.inj same).1 (by decide)
      | some elseBranch' =>
        simp only [Stmt.form, Form.group.injEq, List.cons.injEq, and_true, true_and] at same
        exact .conditional (h.alike h' same.1) (hThen.alike hThen' same.2.1)
          (.some ((hElse _ rfl).alike (hElse' _ rfl) same.2.2))
    | _ => cases rules
  | .print value, s', .print h, h', same => by
    have rules := Stmt.rule_eq same
    cases h' with
    | print h' =>
      simp only [Stmt.form, Form.group.injEq, List.cons.injEq, and_true, true_and] at same
      exact .print (h.alike h' same)
    | _ => cases rules
  | .ret keyword value, s', .ret isReturn h, h', same => by
    have rules := Stmt.rule_eq same
    cases h' with
    | @ret keyword' value' isReturn' h' =>
      refine .ret (isReturn.alike_keyword isReturn') ?_
      cases value with
      | none =>
        cases value' with
        | none => exact .none
        | some e' => cases (Form.group.inj same).2
      | some e =>
        cases value' with
        | none => cases (Form.group.inj same).2
        | some e' =>
          simp only [Stmt.form, Form.group.injEq, List.cons.injEq, and_true, true_and] at same
          exact .some ((h _ rfl).alike (h' _ rfl) same)
    | _ => cases rules
  | .varDecl name initializer, s', .varDecl isName h, h', same => by
    have rules := Stmt.rule_eq same
    cases h' with
    | @varDecl name' initializer' isName' h' =>
      cases initializer with
      | none =>
        cases initializer' with
        | none =>
          simp only [Stmt.form, Form.group.injEq, List.cons.injEq, and_true, true_and] at same
          exact .varDecl (isName.alike_name isName' same) .none
        | some e' => cases (List.cons.inj (Form.group.inj same).2).2
      | some e =>
        cases initializer' with
        | none => cases (List.cons.inj (Form.group.inj same).2).2
        | some e' =>
          simp only [Stmt.form, Form.group.injEq, List.cons.injEq, and_true, true_and] at same
          exact .varDecl (isName.alike_name isName' same.1)
            (.some ((h _ rfl).alike (h' _ rfl) same.2))
    | _ => cases rules
  | .loop condition body, s', .loop h hBody, h', same => by
    have rules := Stmt.rule_eq same
    cases h' with
    | loop h' hBody' =>
      simp only [Stmt.form, Form.group.injEq, List.cons.injEq, and_true, true_and] at same
      exact .loop (h.alike h' same.1) (hBody.alike hBody' same.2)
    | _ => cases rules

/-- Equal symbolic expressions belong to functions that are the same up to their labels. -/
theorem FunctionDecl.Written.alike : ∀ {d d' : FunctionDecl}, d.Written → d'.Written →
    d.form = d'.form → d.Alike .any d'
  | ⟨name, params, body⟩, ⟨name', params', body'⟩, .mk isName areNames h,
      .mk isName' areNames' h', same => by
    simp only [FunctionDecl.form, Stmt.forms_eq, Form.group.injEq, List.cons.injEq,
      Form.header.injEq, true_and] at same
    exact .mk (isName.alike_name isName' (congrArg Form.word same.1.1))
      (Token.IsText.alike_names areNames areNames' same.1.2)
      (Form.forall₂_of_map_eq _ (fun s mem s' isWritten => (h s mem).alike isWritten) h' same.2)

end

/-! ### Equal printed forms -/

/-- Equal printed forms belong to expressions that are the same up to their labels. -/
theorem Expr.Written.alike_of_print_eq {e e' : Expr} (h : e.Written) (h' : e'.Written)
    (same : e.printed = e'.printed) : e.Alike .any e' := by
  have texts : e.form.chars ++ [] = e'.form.chars ++ [] := by
    rw [← e.toList_printed, ← e'.toList_printed, same]
  exact h.alike h' (Form.unique h.proper h'.proper Form.closes_nil Form.closes_nil texts).1

/-- Equal printed forms belong to programs that are the same up to their labels. -/
theorem Stmt.Written.alike_of_print_eq {p q : List Stmt} (h : ∀ s ∈ p, s.Written)
    (h' : ∀ s ∈ q, s.Written) (same : printedProgram p = printedProgram q) :
    List.Forall₂ (Stmt.Alike .any) p q := by
  have texts : ['\n'].intercalate ((p.map Stmt.form).map Form.chars) =
      ['\n'].intercalate ((q.map Stmt.form).map Form.chars) := by
    rw [List.map_map, List.map_map]
    exact (toList_printedProgram p).symm.trans
      ((congrArg String.toList same).trans (toList_printedProgram q))
  have proper {p : List Stmt} (h : ∀ s ∈ p, s.Written) : ∀ f ∈ p.map Stmt.form, f.Proper := by
    rw [List.forall_mem_map]
    exact fun s mem => (h s mem).proper
  exact Form.forall₂_of_map_eq _ (fun s mem s' isWritten => (h s mem).alike isWritten) h'
    (Form.lines_unique (proper h) (proper h') texts)

end Lox
