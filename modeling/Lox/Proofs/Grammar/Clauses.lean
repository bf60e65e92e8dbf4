import Lox.Proofs.Evaluation.Loop
import Lox.Proofs.Grammar.Orderly
import Lox.Proofs.Grammar.Start
import Lox.Proofs.Grammar.Strict

/-!
# Derivations of `for` statements

A statement that begins with the keyword `for` has three clauses in parentheses, each of which may
be absent, and a body. Its tree is the statement that these clauses stand for.

## Main definitions

* `ForClauses.Derived`: the clauses are read from a list of tokens.

## Main results

* `Grammar.Derives.exists_clauses`: a statement that begins with `for` is lowered from its clauses.
-/

namespace Lox

/-- A list of tokens has these clauses between its parentheses, and this body behind them. -/
inductive ForClauses.Derived (l : ForClauses) : List Token → Prop
  | mk {short : Bool} {left semicolon right : Token} {ts us vs ws : List Token}
      (isFor : l.keyword.isKeyword .for_) (isLeft : left.isSymbol .leftParen)
      (initializer : Grammar.Derives .forInit ts l.initializer)
      (condition : Grammar.Derives .optional us l.condition)
      (isSemicolon : semicolon.isSymbol .semicolon)
      (increment : Grammar.Derives .optional vs l.increment)
      (isRight : right.isSymbol .rightParen)
      (body : Grammar.Derives (.statement short) ws l.body) :
      Derived l (l.keyword :: left :: (ts ++ (us ++ semicolon :: (vs ++ right :: ws))))

namespace Grammar

variable {t : Token} {ts : List Token} {s : Stmt} {e : Expr} {short : Bool}

theorem Derives.starts_varDecl (h : Derives .varDecl ts s) : s.Starts := by
  cases h with
  | declared => exact .varDecl _ none
  | initialized => exact .varDecl _ (some _)

theorem Derives.starts_forInit {o : Option Stmt} (h : Derives .forInit ts o) :
    ∀ s, o = some s → s.Starts := by
  rintro s rfl
  cases h with
  | forVar _ h => exact h.starts_varDecl
  | forEffect => exact .expression _

/-- No expression begins with the keyword `for`. -/
theorem Derives.not_isKeyword_for (h : Derives (.expression .whole) (t :: ts) e) :
    ¬ t.isKeyword .for_ := by
  intro isFor
  obtain ⟨found, relaxed, -⟩ := h.exists_relaxed
  obtain ⟨t', us, isFirst, starts⟩ := relaxed.starts rfl
  obtain ⟨rfl, -⟩ := List.cons.inj isFirst
  change t.kind.startsExpression = true at starts
  rw [Token.isKeyword_iff.1 isFor] at starts
  cases starts

/-- A statement that begins with `for` is lowered from its clauses. -/
theorem Derives.exists_clauses (h : Derives (.statement short) (t :: ts) s)
    (isFor : t.isKeyword .for_) : ∃ l : ForClauses, l.Derived (t :: ts) ∧ s = l.lowered := by
  have other {k : Keyword} (isOther : t.isKeyword k) (differ : k ≠ .for_) : False := by
    have same := (Token.isKeyword_iff.1 isOther).symm.trans (Token.isKeyword_iff.1 isFor)
    exact differ (TokenKind.keyword.inj same)
  generalize isTokens : t :: ts = tokens at h
  cases h with
  | forLoop isKeyword isLeft initializer condition isSemicolon increment isRight body =>
    exact ⟨⟨_, _, _, _, _, initializer.starts_forInit, body.orderly.2⟩,
      .mk isKeyword isLeft initializer condition isSemicolon increment isRight body, rfl⟩
  | ifThen isOther | ifThenElse isOther | print isOther | returns isOther | whileLoop isOther =>
    obtain ⟨rfl, -⟩ := List.cons.inj isTokens
    exact (other isOther nofun).elim
  | block isOpening =>
    obtain ⟨rfl, -⟩ := List.cons.inj isTokens
    cases (Token.isSymbol_iff.1 isOpening).symm.trans (Token.isKeyword_iff.1 isFor)
  | @effect _ semicolon us _ h isSemicolon =>
    cases us with
    | nil =>
      obtain ⟨rfl, -⟩ := List.cons.inj isTokens
      cases (Token.isSymbol_iff.1 isSemicolon).symm.trans (Token.isKeyword_iff.1 isFor)
    | cons t' us =>
      obtain ⟨rfl, -⟩ := List.cons.inj isTokens
      exact (h.not_isKeyword_for isFor).elim

end Grammar

end Lox
