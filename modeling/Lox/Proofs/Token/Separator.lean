import Lox.Proofs.Token.LongestMatch

/-!
# What separates tokens

No token but a string contains a blank or a newline, and a string ends with its second quote. The
longest match therefore never reaches over a blank or a newline behind a token: what is in front of
the separator alone decides where the token ends, whatever comes after it.

## Main definitions

* `Deviates`: two texts are the same, up to a blank or a newline in the second if they differ.

## Main results

* `Lexes.exists_string`: a token that contains a blank or a newline is a string.
* `Foremost.deviating`: a token stays what it is if the text behind it deviates.
* `Longest.skipTrivia_eq`, `longest_of_skipTrivia`: the lexer drops the longest trivia.
* `skipTrivia_append`, `skipTrivia_eq_self_iff`: where trivia ends, and where there is none.
-/

namespace Lox

/-- The characters between tokens: blanks and newlines. -/
def isSeparator (c : Char) : Bool :=
  isBlank c || c == '\n'

/-- The second text is the first, or has a blank or a newline where the first is over or has
something else, and goes on in any way. -/
inductive Deviates : List Char → List Char → Prop
  | same (rest : List Char) : Deviates rest rest
  | separated (front rest more : List Char) {c : Char} (separates : isSeparator c = true) :
      Deviates (front ++ rest) (front ++ c :: more)

variable {c : Char} {l text rest rest' covered trivia : List Char} {kind : TokenKind} {line : Nat}

/-! ### Separators and strings -/

theorem isNameRest_eq_false_of_isSeparator (h : isSeparator c = true) : isNameRest c = false := by
  simp only [isSeparator, isBlank, Bool.or_eq_true, beq_iff_eq] at h
  rcases h with ((rfl | rfl) | rfl) | rfl <;> decide

theorem Symbol.not_isSeparator (s : Symbol) (mem : c ∈ s.spelling.toList) :
    isSeparator c = false := by
  have noneSeparates : s.spelling.toList.all (fun c => !isSeparator c) = true := by cases s <;> rfl
  simpa using List.all_eq_true.1 noneSeparates c mem

namespace Lexes

/-- A token that contains a blank or a newline is a string. -/
theorem exists_string (h : Lexes l kind) (mem : c ∈ l) (separates : isSeparator c = true) :
    ∃ contents, '"' ∉ contents ∧ l = '"' :: (contents ++ ['"']) := by
  have noName := isNameRest_eq_false_of_isSeparator separates
  have noStart : isNameStart c = false := (Bool.or_eq_false_iff.1 noName).1
  have noDigit : isDigit c = false := (Bool.or_eq_false_iff.1 noName).2
  have outside {p : Char → Bool} {l : List Char} (no : p c = false) (all : ∀ d ∈ l, p d = true) :
      c ∉ l := fun mem => Bool.false_ne_true (no.symm.trans (all c mem))
  have outside' {p q : Char → Bool} {d : Char} {l : List Char} (no : p c = false)
      (first : p d = true) (no' : q c = false) (all : ∀ d ∈ l, q d = true) : c ∉ d :: l :=
    List.not_mem_cons_of_ne_of_not_mem
      (fun same => Bool.false_ne_true (no.symm.trans (same ▸ first)))
      (outside no' all)
  cases h with
  | symbol s => exact (Bool.false_ne_true ((s.not_isSeparator mem).symm.trans separates)).elim
  | keyword k =>
    obtain ⟨d, rest, isSpelling, start, more⟩ := k.exists_spelling
    exact (outside' noStart start noName more (isSpelling ▸ mem)).elim
  | identifier start more => exact (outside' noStart start noName more mem).elim
  | @string contents inside => exact ⟨contents, inside, rfl⟩
  | integer digit more => exact (outside' noDigit digit noDigit more mem).elim
  | @decimal d d' digits fraction digit more digit' more' =>
    rw [← List.cons_append] at mem
    rcases List.mem_append.1 mem with mem | mem
    · exact (outside' noDigit digit noDigit more mem).elim
    · rcases List.mem_cons.1 mem with rfl | mem
      · cases separates
      · exact (outside' noDigit digit' noDigit more' mem).elim

/-- A token that begins with a quote is a string. -/
theorem exists_string_of_quote (h : Lexes ('"' :: l) kind) :
    ∃ contents, '"' ∉ contents ∧ l = contents ++ ['"'] := by
  generalize isText : '"' :: l = text at h
  cases h with
  | symbol s => cases s <;> cases isText
  | keyword k =>
    obtain ⟨d, rest, isSpelling, start, -⟩ := k.exists_spelling
    cases isText.trans isSpelling
    cases start
  | identifier start =>
    cases isText
    cases start
  | string inside =>
    cases isText
    exact ⟨_, inside, rfl⟩
  | integer digit =>
    cases isText
    cases digit
  | decimal digit =>
    cases isText
    cases digit

end Lexes

/-- A string ends with its second quote. -/
theorem prefix_of_quotes {contents contents' : List Char} (inside : '"' ∉ contents)
    (inside' : '"' ∉ contents') (isSame : contents ++ '"' :: rest = contents' ++ '"' :: rest') :
    contents = contents' := by
  induction contents generalizing contents' with
  | nil =>
    cases contents' with
    | nil => rfl
    | cons c contents' =>
      cases isSame
      exact (inside' List.mem_cons_self).elim
  | cons c contents ih =>
    cases contents' with
    | nil =>
      cases isSame
      exact (inside List.mem_cons_self).elim
    | cons c' contents' =>
      obtain ⟨rfl, isSame'⟩ := List.cons.inj isSame
      rw [ih (fun mem => inside (List.mem_cons_of_mem _ mem))
        (fun mem => inside' (List.mem_cons_of_mem _ mem)) isSame']

/-! ### Longest match in front of a separator -/

namespace Deviates

theorem append (h : Deviates rest rest') (l : List Char) : Deviates (l ++ rest) (l ++ rest') := by
  cases h with
  | same => exact .same _
  | separated front rest more separates =>
    rw [← List.append_assoc, ← List.append_assoc]
    exact .separated (l ++ front) rest more separates

theorem head (h : Deviates rest rest') (noSeparator : isSeparator c = false)
    (first : rest'.head? = some c) : rest.head? = some c := by
  cases h with
  | same => exact first
  | separated front rest more separates =>
    cases front with
    | nil =>
      cases first
      cases noSeparator.symm.trans separates
    | cons d front => exact first

end Deviates

namespace Foremost

/-- A token is cut off alike if what is behind it is the same up to a separator. A longer token
would reach over the separator, and so it would be a string; but a string ends with its second
quote. -/
theorem deviating (h : Foremost covered rest (.ok kind)) (deviates : Deviates rest rest') :
    Foremost covered rest' (.ok kind) := by
  obtain @⟨_, _, kind, isToken, longest⟩ := h
  cases deviates with
  | same => exact .token isToken longest
  | @separated front rest more c separates =>
    refine .token isToken ⟨List.prefix_append .., ⟨kind, isToken⟩, ?_⟩
    rintro l ⟨behind, isText⟩ ⟨kind', isToken'⟩
    rw [← List.append_assoc] at isText
    rcases List.append_eq_append_iff.1 isText with ⟨part, isFront, -⟩ | ⟨part, rfl, isBehind⟩
    · refine longest.length_le l ⟨part ++ rest, ?_⟩ ⟨kind', isToken'⟩
      rw [← List.append_assoc, ← isFront, List.append_assoc]
    · cases part with
      | nil =>
        refine longest.length_le _ ⟨rest, ?_⟩ ⟨kind', isToken'⟩
        rw [List.append_nil, List.append_assoc]
      | cons d part =>
        obtain ⟨rfl, -⟩ := List.cons.inj isBehind
        obtain ⟨contents, inside, isString⟩ := isToken'.exists_string (c := c)
          (List.mem_append_right _ List.mem_cons_self) separates
        obtain ⟨first, covered, rfl, -⟩ := isToken.exists_cut
        obtain ⟨rfl, isTail⟩ := List.cons.inj isString
        obtain ⟨contents', inside', rfl⟩ := isToken.exists_string_of_quote
        have isSame : contents' ++ '"' :: (front ++ c :: part) = contents ++ '"' :: [] := by
          rw [← isTail]
          simp
        obtain rfl := prefix_of_quotes inside' inside isSame
        rw [List.append_cancel_left_eq] at isSame
        cases front <;> cases (List.cons.inj isSame).2

/-- What is at the front of a text is cut off. -/
theorem cut_eq {kind : Except LexError.Cause TokenKind} (h : Foremost (c :: l) rest kind) :
    Lexeme.cut c (l ++ rest) = ⟨c :: l, kind, rest⟩ := by
  have isWhole := (Lexeme.cuts c (l ++ rest)).covered_append_rest
  have isFront := foremost_cut c (l ++ rest)
  generalize Lexeme.cut c (l ++ rest) = lexeme at isWhole isFront
  obtain ⟨covered, kind', rest'⟩ := lexeme
  obtain ⟨rfl, rfl, rfl⟩ := isFront.unique h isWhole
  rfl

end Foremost

/-! ### Where trivia ends -/

theorem Longest.skipTrivia_eq (run : Longest Trivia (trivia ++ rest) trivia) (line : Nat) :
    skipTrivia false line (trivia ++ rest) = (line + trivia.count '\n', rest) := by
  obtain ⟨trivia', rest', run', isText, isSkipped⟩ := longest_trivia line (trivia ++ rest)
  obtain ⟨rfl, rfl⟩ := run.unique_append run' isText
  exact isSkipped

theorem longest_of_skipTrivia {last : Nat}
    (isSkipped : skipTrivia false line (trivia ++ rest) = (last, rest)) :
    Longest Trivia (trivia ++ rest) trivia := by
  obtain ⟨trivia', rest', run, isText, isSkipped'⟩ := longest_trivia line (trivia ++ rest)
  obtain rfl : rest = rest' := congrArg Prod.snd (isSkipped.symm.trans isSkipped')
  obtain rfl := List.append_cancel_right isText
  exact run

theorem skipTrivia_ne (inComment : Bool) (line first : Nat) (c : Char) (text : List Char) :
    skipTrivia inComment line text ≠ (first, c :: text) := by
  intro isSkipped
  have le := length_skipTrivia_le inComment line text
  rw [isSkipped] at le
  exact absurd le (Nat.not_succ_le_self _)

/-- Trivia in front of some item is skipped in front of any text. -/
theorem skipTrivia_append {inComment : Bool} {first : Nat}
    (stops : skipTrivia inComment line (l ++ c :: text) = (first, c :: text)) (more : List Char) :
    skipTrivia inComment line (l ++ more) = skipTrivia false first more := by
  have noComment (line : Nat) : skipTrivia true line (c :: text) ≠ (first, c :: text) := by
    rw [skipTrivia]
    split <;> exact skipTrivia_ne _ _ _ _ _
  induction l generalizing inComment line with
  | nil =>
    cases inComment with
    | true => exact (noComment line stops).elim
    | false =>
      rw [List.nil_append, skipTrivia] at stops
      split at stops
      · exact (skipTrivia_ne _ _ _ _ _ stops).elim
      split at stops
      · exact (skipTrivia_ne _ _ _ _ _ stops).elim
      split at stops
      · exact (skipTrivia_ne _ _ _ _ _ stops).elim
      · cases stops
        rfl
  | cons d l ih =>
    rw [List.cons_append, skipTrivia.eq_def] at stops ⊢
    cases inComment with
    | true =>
      dsimp only at stops ⊢
      split at stops
      · next isNewline => rw [if_pos isNewline, ih stops]
      · next noNewline => rw [if_neg noNewline, ih stops]
    | false =>
      dsimp only at stops ⊢
      split at stops
      · next isNewline => rw [if_pos isNewline, ih stops]
      next noNewline =>
      rw [if_neg noNewline]
      split at stops
      · next isBlank => rw [if_pos isBlank, ih stops]
      next noBlank =>
      rw [if_neg noBlank]
      split at stops
      · next isComment =>
        -- The second slash is in the trivia too: the comment would go on over what follows.
        cases l with
        | nil => exact (noComment line stops).elim
        | cons e l => exact (if_pos isComment).trans (ih stops)
      · have lengths := congrArg (fun result => result.2.length) stops
        simp only [List.length_cons, List.length_append] at lengths
        omega

/-- No trivia is skipped in front of a character that separates nothing and begins no comment. -/
theorem skipTrivia_eq_self_iff : skipTrivia false line (c :: text) = (line, c :: text) ↔
    isSeparator c = false ∧ (c = '/' → text.head? ≠ some '/') := by
  rw [skipTrivia]
  by_cases isNewline : c = '\n'
  · subst isNewline
    simp [isSeparator, skipTrivia_ne]
  by_cases isSpace : isBlank c = true
  · simp [isSeparator, isNewline, isSpace, skipTrivia_ne]
  by_cases isComment : c = '/' ∧ text.head? = some '/'
  · obtain ⟨rfl, isSlash⟩ := isComment
    simp [isSpace, isSlash, skipTrivia_ne]
  · have noComment : ¬ (c == '/' && text.head? == some '/') = true := by simpa using isComment
    simp_all [isSeparator]

namespace Longest

/-- The text behind a run of trivia begins with no trivia. -/
theorem stops (run : Longest Trivia (trivia ++ c :: text) trivia) :
    isSeparator c = false ∧ (c = '/' → text.head? ≠ some '/') := by
  have isSkipped : skipTrivia false (0 + trivia.count '\n') (c :: text) =
      (0 + trivia.count '\n', c :: text) := by
    rw [← skipTrivia_append (run.skipTrivia_eq 0), run.skipTrivia_eq]
  exact skipTrivia_eq_self_iff.1 isSkipped

/-- Trivia ends in the same place if the same character is behind it and begins no comment. -/
theorem trivia_congr {text' : List Char} (run : Longest Trivia (trivia ++ c :: text) trivia)
    (noComment : c = '/' → text'.head? = some '/' → text.head? = some '/') :
    Longest Trivia (trivia ++ c :: text') trivia := by
  obtain ⟨noSeparator, noSlashes⟩ := run.stops
  have isSkipped := skipTrivia_append (run.skipTrivia_eq 0) (c :: text')
  rw [skipTrivia_eq_self_iff.2
    ⟨noSeparator, fun isSlash isSlash' =>
      noSlashes isSlash (noComment isSlash isSlash')⟩] at isSkipped
  exact longest_of_skipTrivia isSkipped

end Longest

/-- No trivia is skipped in front of a token, unless two slashes begin a comment. -/
theorem Lexes.skipTrivia_eq (h : Lexes l kind)
    (noComment : l = ['/'] → rest.head? ≠ some '/') (line : Nat) :
    skipTrivia false line (l ++ rest) = (line, l ++ rest) := by
  obtain ⟨c, l, rfl, isCut⟩ := h.exists_cut
  refine skipTrivia_eq_self_iff.2 ⟨Bool.eq_false_iff.2 fun separates => ?_, ?_⟩
  · obtain ⟨contents, -, isString⟩ := h.exists_string List.mem_cons_self separates
    cases isString
    cases separates
  · rintro rfl
    obtain rfl : [] = l := (List.cons.inj (congrArg Lexeme.covered isCut)).2
    exact noComment rfl

end Lox
