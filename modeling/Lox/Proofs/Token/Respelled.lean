import Lox.Proofs.Token.Joined
import Mathlib

/-!
# Tokens written with blanks between them

The text of each token is read back as that token when a blank follows: no token but a string
reaches over the blank, and a slash in front of one begins no comment. The tokens of a source can so
be written one after the other with single blanks between them, and are read again as the same
tokens, on other lines at most.

## Main definitions

* `Token.respell`: the texts of tokens with blanks between them.
* `Token.SameButLine`: two tokens differ in their lines only.

## Main results

* `itemsFrom_respelled`: texts of tokens with blanks between them are read as these tokens.
* `tokenize_respelled`: the tokens of a source are read again.
-/

namespace Lox

namespace Token

/-- The texts of tokens, one after the other, with single blanks between them. -/
def respell (tokens : List Token) : String :=
  " ".intercalate (tokens.map Token.lexeme)

/-- Two tokens have the same kind, with the same value of a literal, and the same text. -/
structure SameButLine (t t' : Token) : Prop where
  kind : t'.kind = t.kind
  lexeme : t'.lexeme = t.lexeme

end Token

variable {l rest text : List Char} {kind : TokenKind} {items : List Item} {line : Nat} {t : Token}

/-- The tokens of a text are texts of tokens, except for the end of the input. -/
theorem Itemized.lexes (h : Itemized line text items) (mem : .ok t ∈ items)
    (notEnd : t.kind.isEnd = false) : Lexes t.lexeme.toList t.kind := by
  induction h with
  | done =>
    cases List.mem_singleton.1 mem
    cases notEnd
  | item _ front _ ih =>
    rcases List.mem_cons.1 mem with isFirst | mem
    · cases front with
      | token isToken =>
        cases isFirst
        rw [String.toList_ofList]
        exact isToken
      | unexpected => cases isFirst
      | unterminated => cases isFirst
    · exact ih mem

/-- Texts of tokens with blanks between them are read as these tokens, whether or not a blank comes
last. -/
theorem itemsFrom_respelled {ts : List Token} (lexes : ∀ t ∈ ts, Lexes t.lexeme.toList t.kind)
    {final : List (List Char)} (isFinal : final = [] ∨ final = [[]]) (line : Nat) :
    ∃ us last, itemsFrom line
        ([' '].intercalate (ts.map (fun t => t.lexeme.toList) ++ final)) =
          (us ++ [⟨.endOfInput, "", last⟩]).map .ok ∧
      List.Forall₂ Token.SameButLine ts us := by
  induction ts generalizing line with
  | nil =>
    refine ⟨[], line, ?_, .nil⟩
    rcases isFinal with rfl | rfl <;> exact itemsFrom_of_trivia rfl
  | cons t ts ih =>
    have isFirst := lexes t List.mem_cons_self
    obtain ⟨us, last, isRead, same⟩ :=
      ih (fun t mem => lexes t (List.mem_cons_of_mem _ mem)) (line + t.lexeme.toList.count '\n')
    refine ⟨⟨t.kind, t.lexeme, line + t.lexeme.toList.count '\n'⟩ :: us, last, ?_,
      .cons ⟨rfl, rfl⟩ same⟩
    have isItem := String.ofList_toList (s := t.lexeme)
    rw [List.map_cons, List.cons_append]
    generalize ts.map (fun t => t.lexeme.toList) ++ final = ls at isRead
    cases ls with
    | nil =>
      have isText := isFirst.itemsFrom_eq (.same []) line
      rw [List.append_nil, isItem] at isText
      rw [List.intercalate_nil] at isRead
      rw [List.intercalate_singleton, isText, isRead]
      rfl
    | cons l ls =>
      have deviates : Deviates [] (' ' :: [' '].intercalate (l :: ls)) := .separated [] [] _ rfl
      have isText := isFirst.itemsFrom_eq deviates line
      rw [isItem] at isText
      rw [List.intercalate_cons_cons, List.append_assoc, List.singleton_append]
      rw [isText, itemsFrom_blank, isRead]
      rfl

/-- The tokens of a source, written with single blanks between them, are read as the same tokens,
with the same texts and the same values of literals. This holds with or without the empty text of
the end of the input, in front of which there is a blank too. -/
theorem tokenize_respelled {source : String} {tokens : List Token}
    (isTokens : tokenize source = .ok tokens) :
    (∃ tokens', tokenize (Token.respell tokens) = .ok tokens' ∧
      List.Forall₂ Token.SameButLine tokens tokens') ∧
    ∃ tokens', tokenize (Token.respell tokens.dropLast) = .ok tokens' ∧
      List.Forall₂ Token.SameButLine tokens tokens' := by
  rw [← tokenizeFrom_one] at isTokens
  obtain ⟨ts, rfl, inside⟩ := exists_tokenizeFrom isTokens
  have isScan := Item.gather_eq_ok_iff.1 isTokens
  have lexes : ∀ t ∈ ts, Lexes t.lexeme.toList t.kind := by
    intro t mem
    refine (itemized_itemsFrom 1 source.toList).lexes ?_ (inside t mem)
    rw [isScan]
    exact List.mem_map_of_mem (List.mem_append_left _ mem)
  have again {written : String} {final : List (List Char)} (isFinal : final = [] ∨ final = [[]])
      (isText : written.toList = [' '].intercalate (ts.map (fun t => t.lexeme.toList) ++ final)) :
      ∃ tokens', tokenize written = .ok tokens' ∧
        List.Forall₂ Token.SameButLine
          (ts ++ [⟨.endOfInput, "", 1 + source.toList.count '\n'⟩]) tokens' := by
    obtain ⟨us, last, isRead, same⟩ := itemsFrom_respelled lexes isFinal 1
    rw [← isText] at isRead
    exact ⟨_, Item.gather_eq_ok_iff.2 isRead, List.rel_append same (.cons ⟨rfl, rfl⟩ .nil)⟩
  constructor
  · exact again (.inr rfl) (by simp [Token.respell, Function.comp_def])
  · exact again (.inl rfl) (by simp [Token.respell, Function.comp_def])

/-- Slashes apart and in a comment, a dot, operators with an equals sign, and a string with a
newline and two slashes. -/
theorem tokenize_respelled_slashes :
    let source := "class a//b\n.a/ /\"c\n//\"!==;"
    ∃ tokens, tokenize source = .ok tokens ∧
      Token.respell tokens = "class a . a / / \"c\n//\" != = ; " ∧
      ∃ tokens', tokenize "class a . a / / \"c\n//\" != = ; " = .ok tokens' ∧
        List.Forall₂ Token.SameButLine tokens tokens' := by
  intro source
  have isTokens : tokenize source = .ok [⟨.keyword .class_, "class", 1⟩, ⟨.identifier, "a", 1⟩,
      ⟨.symbol .dot, ".", 2⟩, ⟨.identifier, "a", 2⟩, ⟨.symbol .slash, "/", 2⟩,
      ⟨.symbol .slash, "/", 2⟩, ⟨.string "c\n//", "\"c\n//\"", 3⟩, ⟨.symbol .bangEqual, "!=", 3⟩,
      ⟨.symbol .equal, "=", 3⟩, ⟨.symbol .semicolon, ";", 3⟩, ⟨.endOfInput, "", 3⟩] := by
    cbv
  exact ⟨_, isTokens, rfl, (tokenize_respelled isTokens).1⟩

end Lox
