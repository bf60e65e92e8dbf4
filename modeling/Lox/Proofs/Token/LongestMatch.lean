import Lox.Proofs.Token.Lexeme

/-!
# Longest match

A source text falls into trivia and items, by turns. Each run of trivia is as long as it can be, and
so is the text of each token. What begins no token is an error: a character that begins the text of
no token at all, or a quote without a second one, with all the rest of the source. The end of the
input is the last item, and the only one of its kind.

## Main definitions

* `Trivia`: runs of blanks, newlines and comments.
* `Longest`: the longest beginning of a text that has some property.
* `Foremost`: what a text that begins with no trivia has at its front.
* `Itemized`: the items of a text, in order, with the lines on which they end.
* `Item.error?`: the errors among items.

## Main results

* `itemized_scan`: the items that the scanner finds are the items of the source.
* `Itemized.unique`: there is one way only to read a text as items.
* `itemized_iff_scan`: scanning is reading by longest match, and `tokenize` sorts the items.
-/

namespace Lox

/-- Blanks, newlines and comments. A comment goes on for as long as there is no newline. -/
inductive Trivia : List Char → Prop
  | nil : Trivia []
  | blank {c : Char} {rest : List Char} (isSpace : isBlank c = true ∨ c = '\n')
      (more : Trivia rest) : Trivia (c :: rest)
  | comment {body rest : List Char} (inside : '\n' ∉ body) (more : Trivia rest) :
      Trivia ('/' :: '/' :: (body ++ rest))

/-- The longest beginning of a text that has a property. -/
structure Longest (p : List Char → Prop) (text l : List Char) : Prop where
  begins : l <+: text
  holds : p l
  length_le : ∀ l', l' <+: text → p l' → l'.length ≤ l.length

/-- What a text that begins with no trivia has at its front: the longest text of a token, or an
error. -/
inductive Foremost : List Char → List Char → Except LexError.Cause TokenKind → Prop
  | token {covered rest : List Char} {kind : TokenKind} (isToken : Lexes covered kind)
      (longest : Longest (fun l => ∃ kind', Lexes l kind') (covered ++ rest) covered) :
      Foremost covered rest (.ok kind)
  | unexpected {c : Char} {rest : List Char} (noToken : ∀ l kind, ¬ Lexes (c :: l) kind) :
      Foremost [c] rest (.error (.unexpected c))
  | unterminated {text : List Char} (unclosed : '"' ∉ text) :
      Foremost ('"' :: text) [] (.error .unterminatedString)

/-- The items of a text that begins on some line. Every item is on the line on which it ends. -/
inductive Itemized : Nat → List Char → List Item → Prop
  | done {line : Nat} {trivia : List Char} (run : Trivia trivia) :
      Itemized line trivia [.ok ⟨.endOfInput, "", line + trivia.count '\n'⟩]
  | item {line : Nat} {trivia covered rest : List Char} {kind : Except LexError.Cause TokenKind}
      {items : List Item} (run : Longest Trivia (trivia ++ (covered ++ rest)) trivia)
      (front : Foremost covered rest kind)
      (more : Itemized (line + trivia.count '\n' + covered.count '\n') rest items) :
      Itemized line (trivia ++ (covered ++ rest))
        (Lexeme.item ⟨covered, kind, rest⟩ (line + trivia.count '\n' + covered.count '\n') :: items)

namespace Longest

variable {p : List Char → Prop} {text l l' : List Char}

theorem unique (h : Longest p text l) (h' : Longest p text l') : l = l' :=
  have isLong := Nat.le_antisymm (h'.length_le l h.begins h.holds)
    (h.length_le l' h'.begins h'.holds)
  (List.prefix_of_prefix_length_le h.begins h'.begins isLong.le).eq_of_length isLong

/-- Two ways to split a text after its longest beginning are the same. -/
theorem unique_append {rest rest' : List Char} (h : Longest p (l ++ rest) l)
    (h' : Longest p (l' ++ rest') l') (isSame : l ++ rest = l' ++ rest') :
    l = l' ∧ rest = rest' := by
  obtain rfl := h.unique (isSame ▸ h')
  exact ⟨rfl, List.append_cancel_left isSame⟩

end Longest

/-! ### Trivia -/

/-- A comment reaches to the next newline. -/
theorem skipTrivia_comment (line : Nat) (text : List Char) :
    skipTrivia true line text = skipTrivia false line (text.dropWhile (· != '\n')) := by
  induction text with
  | nil => simp [skipTrivia]
  | cons c rest ih =>
    by_cases isNewline : c = '\n'
    · subst isNewline
      simp [skipTrivia]
    · simpa [skipTrivia, isNewline] using ih

/-- No run of trivia is longer than what is skipped. -/
theorem Trivia.length_skipTrivia_le {l : List Char} (h : Trivia l) (inComment : Bool) (line : Nat)
    (more : List Char) : (skipTrivia inComment line (l ++ more)).2.length ≤ more.length := by
  have ofComment {body rest : List Char} (inside : '\n' ∉ body) (line : Nat) :
      skipTrivia true line (body ++ rest) = skipTrivia true line rest := by
    rw [skipTrivia_comment, skipTrivia_comment, List.dropWhile_append_of_pos]
    exact fun c mem => bne_iff_ne.2 fun isNewline => inside (isNewline ▸ mem)
  induction h generalizing inComment line with
  | nil => exact Lox.length_skipTrivia_le inComment line more
  | @blank c rest isSpace _ ih =>
    by_cases isNewline : c = '\n'
    · subst isNewline
      cases inComment <;> exact ih false (line + 1)
    · have isBlank := isSpace.resolve_right isNewline
      cases inComment <;> simpa [skipTrivia, isNewline, isBlank] using ih _ line
  | @comment body rest inside _ ih =>
    have skipped : skipTrivia inComment line ('/' :: '/' :: (body ++ rest) ++ more) =
        skipTrivia true line (body ++ (rest ++ more)) := by
      cases inComment <;> simp [skipTrivia, isBlank]
    rw [skipped, ofComment inside]
    exact ih true line

/-- What is skipped is trivia, and its newlines are counted. -/
theorem exists_trivia (line : Nat) (text : List Char) :
    ∃ trivia rest, Trivia trivia ∧ text = trivia ++ rest ∧
      skipTrivia false line text = (line + trivia.count '\n', rest) := by
  match text with
  | [] => exact ⟨[], [], .nil, rfl, by simp [skipTrivia]⟩
  | c :: text =>
    by_cases isNewline : c = '\n'
    · obtain ⟨trivia, rest, run, rfl, isSkipped⟩ := exists_trivia (line + 1) text
      refine ⟨c :: trivia, rest, .blank (.inr isNewline) run, rfl, ?_⟩
      subst isNewline
      simp [skipTrivia, isSkipped, Nat.add_assoc, Nat.add_comm 1]
    by_cases isSpace : isBlank c = true
    · obtain ⟨trivia, rest, run, rfl, isSkipped⟩ := exists_trivia line text
      exact ⟨c :: trivia, rest, .blank (.inl isSpace) run, rfl, by
        simp [skipTrivia, isNewline, isSpace, isSkipped]⟩
    by_cases isComment : c = '/' ∧ text.head? = some '/'
    · obtain ⟨rfl, isSlash⟩ := isComment
      obtain ⟨body, isBody⟩ := List.head?_eq_some_iff.1 isSlash
      have parted : body.takeWhile (· != '\n') ++ body.dropWhile (· != '\n') = body :=
        List.takeWhile_append_dropWhile
      have inside : '\n' ∉ body.takeWhile (· != '\n') := fun mem =>
        absurd (List.mem_takeWhile_imp mem) (by decide)
      have isShort : (body.dropWhile (· != '\n')).length < text.length :=
        isBody ▸ Nat.lt_succ_of_le (List.dropWhile_suffix _).length_le
      obtain ⟨trivia, rest, run, isText, isSkipped⟩ :=
        exists_trivia line (body.dropWhile (· != '\n'))
      subst isBody
      refine ⟨_, rest, .comment inside run, ?_, ?_⟩
      · rw [List.cons_append, List.cons_append, List.append_assoc, ← isText, parted]
      · simpa [skipTrivia, isSpace, skipTrivia_comment, List.count_eq_zero_of_not_mem inside]
          using isSkipped
    · refine ⟨[], c :: text, .nil, rfl, ?_⟩
      have noComment : ¬ (c == '/' && text.head? == some '/') = true := by simpa using isComment
      simp only [skipTrivia, beq_iff_eq, isNewline, if_false, isSpace, noComment]
      rfl
termination_by text.length

/-- Trivia is skipped for as long as there is any. -/
theorem longest_trivia (line : Nat) (text : List Char) :
    ∃ trivia rest, Longest Trivia (trivia ++ rest) trivia ∧ text = trivia ++ rest ∧
      skipTrivia false line text = (line + trivia.count '\n', rest) := by
  obtain ⟨trivia, rest, run, isText, isSkipped⟩ := exists_trivia line text
  refine ⟨trivia, rest, ⟨List.prefix_append .., run, fun l' ⟨more, isMore⟩ run' => ?_⟩, isText,
    isSkipped⟩
  have isShort := run'.length_skipTrivia_le false line more
  rw [isMore, ← isText, isSkipped] at isShort
  have isLong := congrArg List.length isMore
  simp only [List.length_append] at isLong
  dsimp only at isShort
  omega

/-! ### The first item -/

/-- The scanner cuts off what is at the front. -/
theorem foremost_cut (c : Char) (text : List Char) :
    Foremost (Lexeme.cut c text).covered (Lexeme.cut c text).rest (Lexeme.cut c text).kind := by
  have isCut := Lexeme.cuts c text
  have isWhole := isCut.covered_append_rest
  cases isKind : (Lexeme.cut c text).kind with
  | ok kind =>
    refine .token (isCut.lexes isKind) ⟨List.prefix_append .., ⟨kind, isCut.lexes isKind⟩, ?_⟩
    rintro l' ⟨more, isMore⟩ ⟨kind', isToken⟩
    obtain ⟨d, rest, rfl, -⟩ := isToken.exists_cut
    obtain ⟨rfl, rfl⟩ := List.cons.inj (isMore.trans isWhole)
    exact isToken.length_le_cut more
  | error cause =>
    generalize Lexeme.cut c text = lexeme at isCut isKind
    cases isCut with
    | single => cases isKind
    | operator =>
      unfold Lexeme.operator at isKind
      split at isKind <;> cases isKind
    | string isQuote =>
      subst isQuote
      unfold Lexeme.string at isKind ⊢
      split at isKind
      · cases isKind
      · next isRest =>
        cases isKind
        exact .unterminated fun mem =>
          absurd (List.dropWhile_eq_nil_iff.1 isRest _ mem) (by decide)
    | number =>
      unfold Lexeme.number at isKind
      dsimp only at isKind
      split at isKind
      · split at isKind <;> cases isKind
      · cases isKind
    | word => cases isKind
    | unexpected always =>
      cases isKind
      refine .unexpected fun l kind isToken => ?_
      obtain ⟨d, rest, isText, isCut⟩ := isToken.exists_cut
      obtain ⟨rfl, rfl⟩ := List.cons.inj isText
      rw [always] at isCut
      cases isCut

namespace Lexes

variable {c : Char} {l text rest : List Char} {kind : TokenKind}

theorem not_unexpected (h : Lexes l kind) (noToken : ∀ l kind, ¬ Lexes (c :: l) kind)
    (isSame : l ++ rest = [c] ++ text) : False := by
  obtain ⟨d, l, rfl, -⟩ := h.exists_cut
  obtain ⟨rfl, -⟩ := List.cons.inj isSame
  exact noToken l kind h

theorem not_isEnd (h : Lexes l kind) : kind.isEnd = false := by
  cases h <;> rfl

/-- Only strings begin with a quote, and they have a second one. -/
theorem not_unterminated (h : Lexes l kind) (unclosed : '"' ∉ text)
    (isSame : l ++ rest = '"' :: text ++ []) : False := by
  obtain ⟨d, l, rfl, isCut⟩ := h.exists_cut
  obtain ⟨rfl, isText⟩ := List.cons.inj isSame
  have isText : l ++ rest = text := isText.trans (List.append_nil text)
  have ordinary : ∀ c ∈ l, (c != '"') = true := fun c mem => bne_iff_ne.2 fun isQuote =>
    unclosed (isText ▸ List.mem_append_left _ (isQuote ▸ mem))
  change Lexeme.string l = _ at isCut
  rw [Lexeme.string, List.dropWhile_eq_nil_iff.2 ordinary] at isCut
  cases isCut

end Lexes

namespace Foremost

variable {covered rest covered' rest' : List Char} {kind kind' : Except LexError.Cause TokenKind}

theorem exists_cons (h : Foremost covered rest kind) : ∃ c l, covered = c :: l := by
  cases h with
  | token isToken =>
    obtain ⟨c, l, isText, -⟩ := isToken.exists_cut
    exact ⟨c, l, isText⟩
  | unexpected => exact ⟨_, _, rfl⟩
  | unterminated => exact ⟨_, _, rfl⟩

theorem not_trivia {trivia : List Char} (h : Foremost covered rest kind)
    (run : Longest Trivia (trivia ++ (covered ++ rest)) trivia)
    (run' : Trivia (trivia ++ (covered ++ rest))) : False := by
  have isLong := run.length_le _ (List.prefix_refl _) run'
  obtain ⟨c, l, rfl⟩ := h.exists_cons
  simp only [List.length_append, List.length_cons] at isLong
  omega

/-- A text has one item only at its front. -/
theorem unique (h : Foremost covered rest kind) (h' : Foremost covered' rest' kind')
    (isSame : covered ++ rest = covered' ++ rest') :
    covered = covered' ∧ rest = rest' ∧ kind = kind' := by
  cases h with
  | token isToken longest =>
    cases h' with
    | token isToken' longest' =>
      obtain ⟨rfl, rfl⟩ := longest.unique_append longest' isSame
      exact ⟨rfl, rfl, congrArg Except.ok (isToken.unique isToken')⟩
    | unexpected noToken => exact (isToken.not_unexpected noToken isSame).elim
    | unterminated unclosed => exact (isToken.not_unterminated unclosed isSame).elim
  | unexpected noToken =>
    cases h' with
    | token isToken' => exact (isToken'.not_unexpected noToken isSame.symm).elim
    | unexpected =>
      cases isSame
      exact ⟨rfl, rfl, rfl⟩
    | unterminated =>
      cases isSame
      exact (noToken ['"'] _ (.string (List.not_mem_nil))).elim
  | unterminated unclosed =>
    cases h' with
    | token isToken' => exact (isToken'.not_unterminated unclosed isSame.symm).elim
    | unexpected noToken =>
      cases isSame
      exact (noToken ['"'] _ (.string (List.not_mem_nil))).elim
    | unterminated =>
      exact ⟨List.append_cancel_right isSame, rfl, rfl⟩

end Foremost

/-! ### All items -/

namespace Itemized

variable {line : Nat} {text : List Char} {items items' : List Item}

/-- There is one way only to read a text as items. -/
theorem unique (h : Itemized line text items) (h' : Itemized line text items') :
    items = items' := by
  induction h generalizing items' with
  | @done line text run =>
    generalize isText : text = text' at h'
    cases h' with
    | done => rfl
    | item run' front => exact (front.not_trivia run' (isText ▸ run)).elim
  | @item line trivia covered rest kind items run front more ih =>
    generalize isText : trivia ++ (covered ++ rest) = text at h'
    cases h' with
    | done run' => exact (front.not_trivia run (isText ▸ run')).elim
    | item run' front' more' =>
      obtain ⟨rfl, isSame⟩ := run.unique_append run' isText
      obtain ⟨rfl, rfl, rfl⟩ := front.unique front' isSame
      exact congrArg _ (ih more')

/-- The end of the input is the last item and no other. -/
theorem exists_end (h : Itemized line text items) :
    ∃ before last, items = before ++ [.ok ⟨.endOfInput, "", last⟩] ∧
      ∀ t, .ok t ∈ before → t.kind.isEnd = false := by
  induction h with
  | done => exact ⟨[], _, rfl, fun t mem => nomatch mem⟩
  | item run front more ih =>
    obtain ⟨before, last, rfl, inside⟩ := ih
    refine ⟨_ :: before, last, rfl, fun t mem => ?_⟩
    rcases List.mem_cons.1 mem with isFirst | mem
    · cases front with
      | token isToken =>
        cases isFirst
        exact isToken.not_isEnd
      | unexpected => cases isFirst
      | unterminated => cases isFirst
    · exact inside t mem

end Itemized

/-- The items that the scanner finds are the items of the text, behind those found before. -/
theorem itemized_scanFrom (line : Nat) (text : List Char) (found : Array Item) :
    ∃ items, (scanFrom line text found).toList = found.toList ++ items ∧
      Itemized line text items := by
  induction line, text, found using scanFrom.induct with
  | case1 line text found last isSkipped =>
    obtain ⟨trivia, rest, run, rfl, isSkipped'⟩ := exists_trivia line text
    cases isSkipped.symm.trans isSkipped'
    rw [scanFrom, isSkipped, List.append_nil]
    exact ⟨_, Array.toList_push .., .done run⟩
  | case2 line text found first c rest isSkipped lexeme last ih =>
    obtain ⟨trivia, rest', run, rfl, isSkipped'⟩ := longest_trivia line text
    cases isSkipped.symm.trans isSkipped'
    obtain ⟨items, isScan, isRead⟩ := ih
    have isWhole := (Lexeme.cuts c rest).covered_append_rest
    rw [scanFrom, isSkipped]
    refine ⟨lexeme.item last :: items, ?_, ?_⟩
    · rw [isScan, Array.toList_push, List.append_assoc]
      rfl
    · rw [← isWhole] at run ⊢
      exact .item run (foremost_cut c rest) isRead

theorem itemized_scan (source : String) : Itemized 1 source.toList (scan source) := by
  obtain ⟨items, isScan, isRead⟩ := itemized_scanFrom 1 source.toList #[]
  have isScan : scan source = items := isScan
  exact isScan ▸ isRead

/-! ### Tokens and errors -/

namespace Item

variable {items : List Item}

/-- The error that an item is, if it is one. -/
def error? : Item → Option LexError
  | .error e => some e
  | .ok _ => none

theorem gather_eq (items : List Item) :
    gather items = match items.filterMap error? with
      | [] => .ok (items.filterMap Except.toOption)
      | errors => .error errors :=
  rfl

theorem eq_map_ok (noError : items.filterMap error? = []) :
    items = (items.filterMap Except.toOption).map .ok := by
  induction items with
  | nil => rfl
  | cons item items ih =>
    cases item with
    | error e => cases noError
    | ok t => exact congrArg _ (ih noError)

theorem filterMap_error?_map_ok (tokens : List Token) :
    (tokens.map .ok).filterMap error? = [] := by
  simp [error?]

theorem gather_eq_ok_iff {tokens : List Token} :
    gather items = .ok tokens ↔ items = tokens.map .ok := by
  rw [gather_eq]
  split
  · next noError =>
    have isMap := eq_map_ok noError
    constructor
    · rintro ⟨⟩
      exact isMap
    · rintro rfl
      exact congrArg _ ((List.map_inj_right fun _ _ => Except.ok.inj).1 isMap).symm
  · next someError =>
    refine ⟨nofun, ?_⟩
    rintro rfl
    exact (someError (filterMap_error?_map_ok tokens)).elim

theorem gather_eq_error_iff {errors : List LexError} :
    gather items = .error errors ↔ errors ≠ [] ∧ errors = items.filterMap error? := by
  rw [gather_eq]
  split
  · next noError =>
    refine ⟨nofun, fun ⟨someError, isErrors⟩ => ?_⟩
    exact (someError (isErrors.trans noError)).elim
  · next someError =>
    constructor
    · rintro ⟨⟩
      exact ⟨someError, rfl⟩
    · rintro ⟨-, rfl⟩
      rfl

end Item

/-- Scanning is reading by longest match: the items of a source are those that the scanner finds,
of which the end of the input is the last and only the last. Its tokens are all the items if there
is no error among these; otherwise its errors are the errors among them, in order. -/
theorem itemized_iff_scan (source : String) :
    (∀ items, Itemized 1 source.toList items ↔ items = scan source) ∧
    (∃ before line, scan source = before ++ [.ok ⟨.endOfInput, "", line⟩] ∧
      ∀ t, .ok t ∈ before → t.kind.isEnd = false) ∧
    (∀ tokens, tokenize source = .ok tokens ↔ scan source = tokens.map .ok) ∧
    ∀ errors, tokenize source = .error errors ↔
      errors ≠ [] ∧ errors = (scan source).filterMap Item.error? := by
  have isRead := itemized_scan source
  exact ⟨fun items => ⟨fun h => h.unique isRead, fun h => h ▸ isRead⟩, isRead.exists_end,
    fun _ => Item.gather_eq_ok_iff, fun _ => Item.gather_eq_error_iff⟩

end Lox
