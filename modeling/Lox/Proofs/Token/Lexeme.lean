import Lox.Token.Lexer
import Mathlib.Data.List.TakeWhile

/-!
# The lexical grammar

The texts of tokens are described one kind at a time, without regard to what stands around them. A
text has at most one kind, and of the texts of tokens that a source begins with, the scanner cuts
off the longest.

## Main definitions

* `Lexes`: the text of a token of some kind.

## Main results

* `Lexes.unique`: a text has at most one kind.
* `Lexeme.cuts`, `Lexeme.Cuts.lexes`: what is cut off is the text of a token.
* `Lexes.length_le_cut`: it is the longest such text that the source begins with.
-/

namespace Lox

/-- The text of a token of some kind: a symbol, a keyword, a name that is no keyword, a string up to
its closing quote, or a row of digits, with a fraction if digits follow the dot. -/
inductive Lexes : List Char → TokenKind → Prop
  | symbol (s : Symbol) : Lexes s.spelling.toList (.symbol s)
  | keyword (k : Keyword) : Lexes k.spelling.toList (.keyword k)
  | identifier {c : Char} {rest : List Char} (start : isNameStart c = true)
      (more : ∀ d ∈ rest, isNameRest d = true)
      (free : ∀ k : Keyword, c :: rest ≠ k.spelling.toList) : Lexes (c :: rest) .identifier
  | string {contents : List Char} (inside : '"' ∉ contents) :
      Lexes ('"' :: (contents ++ ['"'])) (.string (String.ofList contents))
  | integer {c : Char} {digits : List Char} (digit : isDigit c = true)
      (more : ∀ d ∈ digits, isDigit d = true) :
      Lexes (c :: digits) (.number (Number.ofDigits (c :: digits) []))
  | decimal {c d : Char} {digits fraction : List Char} (digit : isDigit c = true)
      (more : ∀ d ∈ digits, isDigit d = true) (digit' : isDigit d = true)
      (more' : ∀ d ∈ fraction, isDigit d = true) :
      Lexes (c :: (digits ++ '.' :: d :: fraction))
        (.number (Number.ofDigits (c :: digits) (d :: fraction)))

/-! ### Keywords -/

theorem Keyword.ofSpelling?_eq_some_iff {word : String} {k : Keyword} :
    Keyword.ofSpelling? word = some k ↔ word = k.spelling := by
  constructor
  · intro found
    unfold Keyword.ofSpelling? at found
    have isSpelling := List.find?_some found
    exact (beq_iff_eq.1 isSpelling).symm
  · rintro rfl
    cases k <;> rfl

theorem Keyword.exists_spelling (k : Keyword) :
    ∃ c rest, k.spelling.toList = c :: rest ∧ isNameStart c = true ∧
      ∀ d ∈ rest, isNameRest d = true := by
  have all (l : List Char) (h : l.all isNameRest = true) : ∀ d ∈ l, isNameRest d = true :=
    List.all_eq_true.1 h
  cases k <;> exact ⟨_, _, rfl, rfl, all _ rfl⟩

/-! ### Classes of characters -/

theorem isDigit_eq_false_of_isNameStart {c : Char} (h : isNameStart c = true) :
    isDigit c = false := by
  simp only [isNameStart, isDigit, Bool.or_eq_true, Bool.and_eq_true, decide_eq_true_eq,
    beq_iff_eq, Bool.and_eq_false_iff, decide_eq_false_iff_not, Char.le_def] at h ⊢
  rcases h with (⟨h, -⟩ | ⟨h, -⟩) | rfl
  · exact .inr fun h' => absurd (UInt32.le_trans h h') (by decide)
  · exact .inr fun h' => absurd (UInt32.le_trans h h') (by decide)
  · decide

namespace Lexeme

variable {c : Char} {text rest : List Char}

theorem single?_eq_none (h : isDigit c = true ∨ isNameStart c = true) : single? c = none := by
  unfold single?
  split <;> first | rfl | exact absurd h (by decide)

theorem ne_of_isDigit {d : Char} (h : isDigit c = true) (other : isDigit d = false) :
    (c == d) = false := by
  rw [beq_eq_false_iff_ne]
  rintro rfl
  rw [h] at other
  cases other

theorem ne_of_isNameStart {d : Char} (h : isNameStart c = true) (other : isNameStart d = false) :
    (c == d) = false := by
  rw [beq_eq_false_iff_ne]
  rintro rfl
  rw [h] at other
  cases other

theorem cut_of_isDigit (h : isDigit c = true) (text : List Char) : cut c text = number c text := by
  unfold cut
  rw [single?_eq_none (.inl h), ne_of_isDigit h rfl, ne_of_isDigit h rfl, ne_of_isDigit h rfl,
    ne_of_isDigit h rfl, ne_of_isDigit h rfl, h]
  rfl

theorem cut_of_isNameStart (h : isNameStart c = true) (text : List Char) :
    cut c text = word c text := by
  unfold cut
  rw [single?_eq_none (.inr h), ne_of_isNameStart h rfl, ne_of_isNameStart h rfl,
    ne_of_isNameStart h rfl, ne_of_isNameStart h rfl, ne_of_isNameStart h rfl,
    isDigit_eq_false_of_isNameStart h, h]
  rfl

/-- The ways in which the first item of a text is cut off. -/
inductive Cuts (c : Char) (text : List Char) : Lexeme → Prop
  | single {s : Symbol} (spelled : s.spelling.toList = [c]) :
      Cuts c text ⟨[c], .ok (.symbol s), text⟩
  | operator {short long : Symbol} (spelled : short.spelling.toList = [c])
      (spelled' : long.spelling.toList = [c, '=']) : Cuts c text (operator c short long text)
  | string (isQuote : c = '"') : Cuts c text (string text)
  | number (digit : isDigit c = true) : Cuts c text (number c text)
  | word (start : isNameStart c = true) : Cuts c text (word c text)
  | unexpected (always : ∀ l, cut c l = ⟨[c], .error (.unexpected c), l⟩) :
      Cuts c text ⟨[c], .error (.unexpected c), text⟩

theorem toList_spelling_of_single? {s : Symbol} (h : single? c = some s) :
    s.spelling.toList = [c] := by
  unfold single? at h
  split at h <;> cases h <;> rfl

theorem cuts (c : Char) (text : List Char) : Cuts c text (cut c text) := by
  cases isSingle : single? c with
  | some s =>
    have isCut : cut c text = ⟨[c], .ok (.symbol s), text⟩ := by
      unfold cut
      rw [isSingle]
    rw [isCut]
    exact .single (toList_spelling_of_single? isSingle)
  | none =>
    by_cases isBang : c = '!'
    · subst isBang
      exact @Cuts.operator '!' text .bang .bangEqual rfl rfl
    by_cases isEqual : c = '='
    · subst isEqual
      exact @Cuts.operator '=' text .equal .equalEqual rfl rfl
    by_cases isLess : c = '<'
    · subst isLess
      exact @Cuts.operator '<' text .less .lessEqual rfl rfl
    by_cases isGreater : c = '>'
    · subst isGreater
      exact @Cuts.operator '>' text .greater .greaterEqual rfl rfl
    by_cases isQuote : c = '"'
    · subst isQuote
      exact .string rfl
    cases digit : isDigit c with
    | true => exact cut_of_isDigit digit text ▸ .number digit
    | false =>
      cases start : isNameStart c with
      | true => exact cut_of_isNameStart start text ▸ .word start
      | false =>
        have always (l : List Char) : cut c l = ⟨[c], .error (.unexpected c), l⟩ := by
          simp only [cut, isSingle, beq_iff_eq, isBang, isEqual, isLess, isGreater, isQuote, digit,
            start, if_false, Bool.false_eq_true]
        exact always text ▸ .unexpected always

namespace Cuts

variable {lexeme : Lexeme}

/-- What is cut off and what is left make up the text. -/
theorem covered_append_rest (h : Cuts c text lexeme) :
    lexeme.covered ++ lexeme.rest = c :: text := by
  have parted (p : Char → Bool) (l : List Char) : l.takeWhile p ++ l.dropWhile p = l :=
    List.takeWhile_append_dropWhile
  cases h with
  | single => rfl
  | operator =>
    unfold Lexeme.operator
    split <;> rfl
  | string isQuote =>
    subst isQuote
    unfold Lexeme.string
    split
    · next d rest isRest =>
      have isQuote := List.head?_dropWhile_not (· != '"') text
      have isWhole := parted (· != '"') text
      rw [isRest] at isQuote isWhole
      obtain rfl : d = '"' := bne_eq_false_iff_eq.1 isQuote
      simpa using isWhole
    · exact List.append_nil _
  | number =>
    have isWhole := parted isDigit text
    unfold Lexeme.number
    dsimp only
    split
    · next d rest isRest =>
      split
      · rw [isRest] at isWhole ⊢
        simp [parted, isWhole]
      · simp
    · simp
  | word => simp [Lexeme.word]
  | unexpected => rfl

/-- At least one character is cut off. -/
theorem exists_covered (h : Cuts c text lexeme) : ∃ l, lexeme.covered = c :: l := by
  cases h with
  | single => exact ⟨[], rfl⟩
  | operator =>
    unfold Lexeme.operator
    split <;> exact ⟨_, rfl⟩
  | string isQuote =>
    subst isQuote
    unfold Lexeme.string
    split <;> exact ⟨_, rfl⟩
  | number =>
    unfold Lexeme.number
    dsimp only
    split
    · split <;> exact ⟨_, rfl⟩
    · exact ⟨_, rfl⟩
  | word => exact ⟨_, rfl⟩
  | unexpected => exact ⟨[], rfl⟩

/-- What is cut off as a token is the text of a token of that kind. -/
theorem lexes {kind : TokenKind} (h : Cuts c text lexeme) (isKind : lexeme.kind = .ok kind) :
    Lexes lexeme.covered kind := by
  have all (p : Char → Bool) (l : List Char) : ∀ d ∈ l.takeWhile p, p d = true := fun _ mem =>
    List.mem_takeWhile_imp mem
  cases h with
  | @single s spelled =>
    cases isKind
    exact spelled ▸ Lexes.symbol s
  | @operator short long spelled spelled' =>
    unfold Lexeme.operator at isKind ⊢
    split at isKind <;> cases isKind
    · exact spelled' ▸ Lexes.symbol long
    · exact spelled ▸ Lexes.symbol short
  | string =>
    unfold Lexeme.string at isKind ⊢
    split at isKind <;> cases isKind
    exact .string fun isQuote => absurd (all _ _ _ isQuote) (by decide)
  | number digit =>
    have isInteger := Lexes.integer digit (all isDigit text)
    unfold Lexeme.number at isKind ⊢
    dsimp only at isKind ⊢
    split at isKind
    · next d rest isRest =>
      split at isKind
      · next digit' =>
        cases isKind
        simp only [isRest, List.tail_cons, List.takeWhile_cons, digit', if_true]
        exact .decimal digit (all isDigit text) digit' (all isDigit rest)
      · next noDigit =>
        cases isKind
        rw [if_neg noDigit]
        exact isInteger
    · cases isKind
      exact isInteger
  | word start =>
    have more := all isNameRest text
    unfold Lexeme.word at isKind ⊢
    dsimp only at isKind ⊢
    cases found : Keyword.ofSpelling? (String.ofList (c :: text.takeWhile isNameRest)) with
    | none =>
      rw [found] at isKind
      cases isKind
      refine .identifier start more fun k isSpelling => ?_
      rw [isSpelling, String.ofList_toList, Keyword.ofSpelling?_eq_some_iff.2 rfl] at found
      cases found
    | some k =>
      rw [found] at isKind
      cases isKind
      have isSpelling := congrArg String.toList (Keyword.ofSpelling?_eq_some_iff.1 found)
      rw [String.toList_ofList] at isSpelling
      exact isSpelling ▸ Lexes.keyword k
  | unexpected => cases isKind

end Cuts

end Lexeme

/-! ### The texts of tokens -/

namespace Lexes

variable {c : Char} {text more : List Char} {kind kind' : TokenKind}

open Lexeme

/-- The text of a token begins with some character, and that text alone is cut off whole. -/
theorem exists_cut (h : Lexes text kind) :
    ∃ c rest, text = c :: rest ∧ cut c rest = ⟨text, .ok kind, []⟩ := by
  cases h with
  | symbol s => cases s <;> exact ⟨_, _, rfl, rfl⟩
  | keyword k => cases k <;> exact ⟨_, _, rfl, rfl⟩
  | @identifier c rest start more free =>
    refine ⟨c, rest, rfl, ?_⟩
    rw [cut_of_isNameStart start, word, List.takeWhile_eq_self_iff.2 more,
      List.dropWhile_eq_nil_iff.2 more]
    cases found : Keyword.ofSpelling? (String.ofList (c :: rest)) with
    | none => rfl
    | some k =>
      have isSpelling := congrArg String.toList (Keyword.ofSpelling?_eq_some_iff.1 found)
      rw [String.toList_ofList] at isSpelling
      exact absurd isSpelling (free k)
  | @string contents inside =>
    refine ⟨'"', contents ++ ['"'], rfl, ?_⟩
    have ordinary : ∀ d ∈ contents, (d != '"') = true := fun d mem =>
      bne_iff_ne.2 fun isQuote => inside (isQuote ▸ mem)
    change Lexeme.string (contents ++ ['"']) = _
    rw [Lexeme.string, List.dropWhile_append_of_pos ordinary, List.takeWhile_append_of_pos ordinary]
    simp
  | @integer c digits digit more =>
    refine ⟨c, digits, rfl, ?_⟩
    rw [cut_of_isDigit digit, number, List.takeWhile_eq_self_iff.2 more,
      List.dropWhile_eq_nil_iff.2 more]
  | @decimal c d digits fraction digit more digit' more' =>
    refine ⟨c, _, rfl, ?_⟩
    have all : ∀ x ∈ d :: fraction, isDigit x = true := by
      rintro x (_ | ⟨_, mem⟩)
      · exact digit'
      · exact more' x mem
    rw [cut_of_isDigit digit, number, List.takeWhile_append_of_pos more,
      List.dropWhile_append_of_pos more]
    have noDigit : isDigit '.' = false := rfl
    simp [noDigit, digit', List.takeWhile_eq_self_iff.2 more', List.dropWhile_eq_nil_iff.2 more']

/-- A text has at most one kind. -/
theorem unique (h : Lexes text kind) (h' : Lexes text kind') : kind = kind' := by
  obtain ⟨c, rest, rfl, isCut⟩ := h.exists_cut
  obtain ⟨_, _, ⟨⟩, isCut'⟩ := h'.exists_cut
  have isSame := congrArg Lexeme.kind (isCut.symm.trans isCut')
  exact Except.ok.inj isSame

/-- A text of a token that a source begins with is covered by what is cut off. -/
theorem length_le_cut (h : Lexes (c :: text) kind) (more : List Char) :
    (c :: text).length ≤ (cut c (text ++ more)).covered.length := by
  have takes {p : Char → Bool} {l : List Char} (all : ∀ d ∈ l, p d = true) (l' : List Char) :
      l.length ≤ ((l ++ l').takeWhile p).length := by
    rw [List.takeWhile_append_of_pos all, List.length_append]
    exact Nat.le_add_right ..
  have ofWord (start : isNameStart c = true) (more' : ∀ d ∈ text, isNameRest d = true) :
      (c :: text).length ≤ (cut c (text ++ more)).covered.length := by
    rw [cut_of_isNameStart start]
    exact Nat.succ_le_succ (takes more' more)
  generalize isText : c :: text = whole at h
  cases h with
  | symbol s =>
    obtain ⟨l, isCovered⟩ := (cuts c (text ++ more)).exists_covered
    have isLong := congrArg List.length isCovered
    cases s <;> cases isText <;> first
      | exact Nat.le_refl _
      | exact isLong ▸ Nat.le_add_left ..
  | keyword k =>
    obtain ⟨d, rest, isSpelling, start, all⟩ := k.exists_spelling
    rw [isSpelling] at isText ⊢
    cases isText
    exact ofWord start all
  | identifier start all =>
    cases isText
    exact ofWord start all
  | @string contents inside =>
    cases isText
    have ordinary : ∀ d ∈ contents, (d != '"') = true := fun d mem =>
      bne_iff_ne.2 fun isQuote => inside (isQuote ▸ mem)
    change _ ≤ (Lexeme.string (contents ++ ['"'] ++ more)).covered.length
    rw [Lexeme.string, List.append_assoc, List.dropWhile_append_of_pos ordinary,
      List.takeWhile_append_of_pos ordinary]
    simp
  | integer digit all =>
    cases isText
    have isLong := takes all more
    rw [cut_of_isDigit digit, Lexeme.number]
    dsimp only
    split
    · split
      · simp only [List.length_append, List.length_cons]
        omega
      · exact Nat.succ_le_succ isLong
    · exact Nat.succ_le_succ isLong
  | @decimal c' d digits fraction digit all digit' all' =>
    cases isText
    have noDigit : isDigit '.' = false := rfl
    have isLong := takes all' more
    rw [cut_of_isDigit digit, Lexeme.number, List.append_assoc,
      List.takeWhile_append_of_pos all, List.dropWhile_append_of_pos all]
    simp only [List.cons_append, List.takeWhile_cons, List.dropWhile_cons, noDigit, digit',
      List.tail_cons, if_true, Bool.false_eq_true, if_false, List.length_append, List.length_cons,
      List.append_nil]
    omega

end Lexes

end Lox
