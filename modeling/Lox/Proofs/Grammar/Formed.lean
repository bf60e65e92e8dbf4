import Lox.Proofs.Grammar.Derivation
import Lox.Proofs.Token.Spelling
import Lox.Proofs.Tree.Formed

/-!
# Derived trees are formed

The grammar asks for identifiers where names are declared and assigned, and the tokens of a source
are identifiers only if they are spelled as no keyword. So the trees that are derived from spelled
tokens are formed.

## Main definitions

* `Grammar.Nonterminal.Formed`: what it means for the trees of each sort of phrases.

## Main results

* `Grammar.Derives.formed`: derived trees are formed.
-/

namespace Lox

/-- Names that are spelled as identifiers can be written. -/
theorem Token.Spelled.ordinary {t : Token} (h : t.Spelled) (isName : t.kind = .identifier) :
    Ordinary t.lexeme := by
  have notKeyword := h.identifier isName
  constructor <;>
  · intro isSpelling
    rw [isSpelling] at notKeyword
    exact absurd notKeyword (by decide)

namespace Grammar

/-- The trees of a sort of phrases are formed; statements declare nothing. -/
def Nonterminal.Formed : (n : Nonterminal) → n.Tree → Prop
  | .program, p | .declarations, p => ∀ s ∈ p, s.Formed
  | .declaration, s | .classDecl, s | .varDecl, s => s.Formed
  | .functions, ds => ∀ d ∈ ds, d.Formed
  | .function, d => d.Formed
  | .parameters, ts | .names, ts => ∀ t ∈ ts, Ordinary t.lexeme
  | .statement _, s => s.Formed ∧ s.declared? = none
  | .forInit, s => ∀ s', s = some s' → s'.Formed
  | .optional, e => ∀ e', e = some e' → e'.Formed
  | .arguments, es | .values, es => ∀ e ∈ es, e.Formed
  | .expression _, e => e.Formed

/-- Loops are formed if their parts are. -/
theorem formed_forLoop {keyword : Token} {initializer : Option Stmt}
    {condition increment : Option Expr} {body : Stmt}
    (hInitializer : ∀ s, initializer = some s → s.Formed)
    (hCondition : ∀ e, condition = some e → e.Formed)
    (hIncrement : ∀ e, increment = some e → e.Formed) (hBody : body.Formed)
    (plain : body.declared? = none) :
    (forLoop keyword initializer condition increment body).Formed ∧
      (forLoop keyword initializer condition increment body).declared? = none := by
  have isCondition : (condition.getD (.literal (.boolean true) keyword.line)).Formed := by
    cases condition with
    | none => exact .literal
    | some e => exact hCondition e rfl
  have round : (increment.elim body fun e => .block [body, .expression e]).Formed ∧
      (increment.elim body fun e => .block [body, .expression e]).declared? = none := by
    cases increment with
    | none => exact ⟨hBody, plain⟩
    | some e =>
      refine ⟨.block ?_, rfl⟩
      rw [List.forall_mem_cons, List.forall_mem_singleton]
      exact ⟨hBody, .expression (hIncrement e rfl)⟩
  cases initializer with
  | none => exact ⟨.loop isCondition round.2 round.1, rfl⟩
  | some s =>
    refine ⟨.block ?_, rfl⟩
    rw [List.forall_mem_cons, List.forall_mem_singleton]
    exact ⟨hInitializer s rfl, .loop isCondition round.2 round.1⟩

/-- Trees that are derived from spelled tokens are formed. -/
theorem Derives.formed {n : Nonterminal} {ts : List Token} {tree : n.Tree} (h : Derives n ts tree)
    (spelled : ∀ t ∈ ts, t.Spelled) : n.Formed tree := by
  induction h with
  | program _ _ ih => exact ih fun t mem => spelled t (List.mem_append_left _ mem)
  | noDeclarations => exact nofun
  | declarations _ _ ih ih' =>
    rw [List.forall_mem_append] at spelled
    exact List.forall_mem_cons.2 ⟨ih spelled.1, ih' spelled.2⟩
  | classDeclaration _ _ ih => exact ih (List.forall_mem_cons.1 spelled).2
  | functionDeclaration _ _ ih => exact .functionDecl (ih (List.forall_mem_cons.1 spelled).2)
  | varDeclaration _ _ ih => exact ih (List.forall_mem_cons.1 spelled).2
  | statement _ ih => exact (ih spelled).1
  | base isName _ _ _ ih =>
    simp only [List.forall_mem_cons, List.forall_mem_append] at spelled
    exact .classDecl (spelled.1.ordinary isName) nofun (ih spelled.2.2.1)
  | derived isName _ isParent _ _ _ ih =>
    simp only [List.forall_mem_cons, List.forall_mem_append] at spelled
    refine .classDecl (spelled.1.ordinary isName) ?_ (ih spelled.2.2.2.2.1)
    rintro _ ⟨⟩
    exact spelled.2.2.1.ordinary isParent
  | noFunctions => exact nofun
  | functions _ _ ih ih' =>
    rw [List.forall_mem_append] at spelled
    exact List.forall_mem_cons.2 ⟨ih spelled.1, ih' spelled.2⟩
  | function isName _ _ _ _ _ _ ih ih' =>
    simp only [List.forall_mem_cons, List.forall_mem_append] at spelled
    exact .mk (spelled.1.ordinary isName) (ih spelled.2.2.1) (ih' spelled.2.2.2.2.2.1)
  | noParameters => exact nofun
  | parameters _ _ ih => exact ih spelled
  | lastName isName =>
    exact List.forall_mem_singleton.2 ((List.forall_mem_singleton.1 spelled).ordinary isName)
  | names isName _ _ ih =>
    simp only [List.forall_mem_cons] at spelled
    exact List.forall_mem_cons.2 ⟨spelled.1.ordinary isName, ih spelled.2.2⟩
  | declared isName _ => exact .varDecl ((List.forall_mem_cons.1 spelled).1.ordinary isName) nofun
  | initialized isName _ _ _ ih =>
    simp only [List.forall_mem_cons, List.forall_mem_append] at spelled
    refine .varDecl (spelled.1.ordinary isName) ?_
    rintro _ ⟨⟩
    exact ih spelled.2.2.1
  | forLoop _ _ _ _ _ _ _ _ ih ih' ih'' ihBody =>
    simp only [List.forall_mem_cons, List.forall_mem_append] at spelled
    obtain ⟨-, -, inInitializer, inCondition, -, inIncrement, -, inBody⟩ := spelled
    obtain ⟨isBody, plain⟩ := ihBody inBody
    exact formed_forLoop (ih inInitializer) (ih' inCondition) (ih'' inIncrement) isBody plain
  | ifThen _ _ _ _ _ ih ihThen =>
    simp only [List.forall_mem_cons, List.forall_mem_append] at spelled
    obtain ⟨-, -, inCondition, -, inThen⟩ := spelled
    obtain ⟨isThen, plain⟩ := ihThen inThen
    exact ⟨.conditional (ih inCondition) plain isThen nofun nofun, rfl⟩
  | ifThenElse _ _ _ _ _ _ _ ih ihThen ihElse =>
    simp only [List.forall_mem_cons, List.forall_mem_append] at spelled
    obtain ⟨-, -, inCondition, -, inThen, -, inElse⟩ := spelled
    obtain ⟨isThen, plain⟩ := ihThen inThen
    obtain ⟨isElse, plain'⟩ := ihElse inElse
    refine ⟨.conditional (ih inCondition) plain isThen ?_ ?_, rfl⟩
    · rintro _ ⟨⟩
      exact plain'
    · rintro _ ⟨⟩
      exact isElse
  | print _ _ _ ih =>
    simp only [List.forall_mem_cons, List.forall_mem_append] at spelled
    exact ⟨.print (ih spelled.2.1), rfl⟩
  | returns _ _ _ ih =>
    simp only [List.forall_mem_cons, List.forall_mem_append] at spelled
    exact ⟨.ret (ih spelled.2.1), rfl⟩
  | whileLoop _ _ _ _ _ ih ihBody =>
    simp only [List.forall_mem_cons, List.forall_mem_append] at spelled
    obtain ⟨-, -, inCondition, -, inBody⟩ := spelled
    obtain ⟨isBody, plain⟩ := ihBody inBody
    exact ⟨.loop (ih inCondition) plain isBody, rfl⟩
  | block _ _ _ ih =>
    simp only [List.forall_mem_cons, List.forall_mem_append] at spelled
    exact ⟨.block (ih spelled.2.1), rfl⟩
  | effect _ _ ih =>
    rw [List.forall_mem_append] at spelled
    exact ⟨.expression (ih spelled.1), rfl⟩
  | forNothing => exact nofun
  | forVar _ _ ih =>
    rintro _ ⟨⟩
    exact ih (List.forall_mem_cons.1 spelled).2
  | forEffect _ _ ih =>
    rw [List.forall_mem_append] at spelled
    rintro _ ⟨⟩
    exact .expression (ih spelled.1)
  | absent => exact nofun
  | present _ ih =>
    rintro _ ⟨⟩
    exact ih spelled
  | assign isName _ _ ih =>
    simp only [List.forall_mem_cons] at spelled
    exact .assign (spelled.1.ordinary isName) (ih spelled.2.2)
  | set _ _ _ _ _ ih ih' =>
    simp only [List.forall_mem_cons, List.forall_mem_append] at spelled
    exact .set (ih spelled.1) (ih' spelled.2.2.2.2)
  | value _ ih => exact ih spelled
  | @join l operator ts us left right _ isOperator _ ih ih' =>
    simp only [List.forall_mem_cons, List.forall_mem_append] at spelled
    have isLeft := ih spelled.1
    have isRight := ih' spelled.2.2
    have binary (s : Symbol) (isSymbol : operator.kind = .symbol s) (isOne : s ∈ [Symbol.minus,
        .plus, .slash, .star, .bangEqual, .equalEqual, .greater, .greaterEqual, .less,
        .lessEqual]) : (Expr.binary left operator right).Formed :=
      .binary ⟨s, isSymbol, isOne⟩ isLeft isRight
    cases l with
    | disjunction => exact .logical isLeft isRight
    | conjunction => exact .logical isLeft isRight
    | comparison =>
      simp only [operators, List.mem_cons, List.not_mem_nil, or_false] at isOperator
      rcases isOperator with h | h | h | h <;> exact binary _ h (by decide)
    | _ =>
      simp only [operators, List.mem_cons, List.not_mem_nil, or_false] at isOperator
      rcases isOperator with h | h <;> exact binary _ h (by decide)
  | operand _ ih => exact ih spelled
  | unary isOperator _ ih =>
    refine .unary ?_ (ih (List.forall_mem_cons.1 spelled).2)
    rcases isOperator with isBang | isMinus
    · exact .inr (Token.isSymbol_iff.1 isBang)
    · exact .inl (Token.isSymbol_iff.1 isMinus)
  | callee _ ih => exact ih spelled
  | call _ _ _ _ ih ih' =>
    simp only [List.forall_mem_cons, List.forall_mem_append] at spelled
    exact .call (ih spelled.1) (ih' spelled.2.2.1)
  | get _ _ _ ih =>
    rw [List.forall_mem_append] at spelled
    exact .get (ih spelled.1)
  | primary _ ih => exact ih spelled
  | noArguments => exact nofun
  | arguments _ _ ih => exact ih spelled
  | lastValue _ ih => exact List.forall_mem_singleton.2 (ih spelled)
  | values _ _ _ ih ih' =>
    simp only [List.forall_mem_cons, List.forall_mem_append] at spelled
    exact List.forall_mem_cons.2 ⟨ih spelled.1, ih' spelled.2.2⟩
  | literal => exact .literal
  | this isThis =>
    exact .this ((List.forall_mem_singleton.1 spelled).lexeme_eq (Token.isKeyword_iff.1 isThis))
  | reference isName => exact .reference ((List.forall_mem_singleton.1 spelled).ordinary isName)
  | grouping _ _ _ ih =>
    simp only [List.forall_mem_cons, List.forall_mem_append] at spelled
    exact .grouping (ih spelled.2.1)
  | super isSuper =>
    exact .super ((List.forall_mem_cons.1 spelled).1.lexeme_eq (Token.isKeyword_iff.1 isSuper))

end Grammar

end Lox
