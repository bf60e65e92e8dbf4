import Lox.Token.Lexer

/-!
# How tokens of a source are spelled

The scanner tells keywords from identifiers by their spelling. In the tokens of a source text, no
identifier is spelled as a keyword, and keywords have their one spelling.

## Main definitions

* `Token.Spelled`: the kind of a token agrees with its text.

## Main results

* `spelled_of_tokenize`: the tokens of a source are spelled.
-/

namespace Lox

/-- A token is an identifier only if its text is no keyword, and a keyword only if its text is that
keyword. -/
structure Token.Spelled (t : Token) : Prop where
  identifier : t.kind = .identifier → Keyword.ofSpelling? t.lexeme = none
  keyword : ∀ k, t.kind = .keyword k → Keyword.ofSpelling? t.lexeme = some k

/-- A keyword is spelled in one way. -/
theorem Token.Spelled.lexeme_eq {t : Token} (h : t.Spelled) {k : Keyword}
    (isKeyword : t.kind = .keyword k) : t.lexeme = k.spelling := by
  have found := List.find?_some (h.keyword k isKeyword)
  exact (beq_iff_eq.1 found).symm

namespace Lexeme

/-- The kind of a lexeme agrees with the characters it covers. -/
def Spelled (lexeme : Lexeme) : Prop :=
  (lexeme.kind = .ok .identifier →
    Keyword.ofSpelling? (String.ofList lexeme.covered) = none) ∧
  ∀ k, lexeme.kind = .ok (.keyword k) →
    Keyword.ofSpelling? (String.ofList lexeme.covered) = some k

/-- Only words can be identifiers or keywords. -/
theorem spelled_of_ne {lexeme : Lexeme} (no : lexeme.kind ≠ .ok .identifier)
    (no' : ∀ k, lexeme.kind ≠ .ok (.keyword k)) : lexeme.Spelled :=
  ⟨fun isName => (no isName).elim, fun k isKeyword => (no' k isKeyword).elim⟩

theorem spelled_operator (c : Char) (short long : Symbol) (text : List Char) :
    (operator c short long text).Spelled := by
  unfold operator
  split <;> exact spelled_of_ne (fun eq => nomatch eq) fun k eq => nomatch eq

theorem spelled_string (text : List Char) : (string text).Spelled := by
  unfold string
  split <;> exact spelled_of_ne (fun eq => nomatch eq) fun k eq => nomatch eq

theorem spelled_number (c : Char) (text : List Char) : (number c text).Spelled := by
  unfold number
  dsimp only
  split
  · split <;> exact spelled_of_ne (fun eq => nomatch eq) fun k eq => nomatch eq
  · exact spelled_of_ne (fun eq => nomatch eq) fun k eq => nomatch eq

theorem spelled_word (c : Char) (text : List Char) : (word c text).Spelled := by
  unfold word
  cases isKeyword : Keyword.ofSpelling? (String.ofList (c :: text.takeWhile isNameRest)) with
  | none =>
    refine ⟨fun _ => isKeyword, fun k eq => ?_⟩
    simp only [isKeyword] at eq
    cases eq
  | some k =>
    refine ⟨fun eq => ?_, fun k' eq => ?_⟩
    · simp only [isKeyword] at eq
      cases eq
    · simp only [isKeyword] at eq
      cases eq
      exact isKeyword

theorem spelled_cut (c : Char) (text : List Char) : (cut c text).Spelled := by
  unfold cut
  split
  · exact spelled_of_ne (fun eq => nomatch eq) fun k eq => nomatch eq
  · repeat' split
    all_goals first
      | exact spelled_operator _ _ _ _
      | exact spelled_string _
      | exact spelled_number _ _
      | exact spelled_word _ _
      | exact spelled_of_ne (fun eq => nomatch eq) fun k eq => nomatch eq

theorem spelled_item {lexeme : Lexeme} (h : lexeme.Spelled) {line : Nat} {t : Token}
    (isToken : lexeme.item line = .ok t) : t.Spelled := by
  unfold item at isToken
  cases isKind : lexeme.kind with
  | error cause =>
    rw [isKind] at isToken
    cases isToken
  | ok kind =>
    rw [isKind] at isToken
    cases isToken
    exact ⟨fun isName => h.1 (isKind.trans (congrArg Except.ok isName)),
      fun k isKeyword => h.2 k (isKind.trans (congrArg Except.ok isKeyword))⟩

end Lexeme

/-- Every item that is found is spelled, if those found before are. -/
theorem spelled_scanFrom (line : Nat) (text : List Char) (found : Array Item)
    (spelled : ∀ t, .ok t ∈ found → t.Spelled) (t : Token)
    (mem : .ok t ∈ scanFrom line text found) :
    t.Spelled := by
  induction line, text, found using scanFrom.induct with
  | case1 line text found last isTrivia =>
    rw [scanFrom, isTrivia] at mem
    rcases Array.mem_push.1 mem with mem | eq
    · exact spelled t mem
    · cases eq
      exact { identifier := nofun, keyword := nofun }
  | case2 line text found first c rest isTrivia lexeme last ih =>
    rw [scanFrom, isTrivia] at mem
    refine ih (fun t mem => ?_) mem
    rcases Array.mem_push.1 mem with mem | eq
    · exact spelled t mem
    · exact Lexeme.spelled_item (Lexeme.spelled_cut c rest) eq.symm

/-- The tokens of a source text are spelled. -/
theorem spelled_of_tokenize {source : String} {tokens : List Token}
    (h : tokenize source = .ok tokens) {t : Token} (mem : t ∈ tokens) : t.Spelled := by
  have isItem : .ok t ∈ scan source := by
    unfold tokenize Item.gather at h
    split at h
    · cases h
      obtain ⟨item, isItem, isToken⟩ := List.mem_filterMap.1 mem
      cases item with
      | error e => cases isToken
      | ok t' =>
        cases isToken
        exact isItem
    · cases h
  refine spelled_scanFrom 1 source.toList #[] (fun t mem => ?_) t (Array.mem_toList_iff.1 isItem)
  cases mem with
  | mk mem => cases mem

end Lox
