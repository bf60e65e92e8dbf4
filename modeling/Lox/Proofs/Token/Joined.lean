import Lox.Proofs.Token.Separator

/-!
# Two texts joined by a newline

A newline belongs to trivia or to a string, and no token but a string reaches over it. If a text has
no lexical error, its strings are closed, and a newline behind it begins the reading of the next
text anew: the tokens of the joined text are those of both, except for the end of the first.

## Main definitions

* `itemsFrom`, `tokenizeFrom`: the items and the tokens of a text that begins on some line.

## Main results

* `Lexeme.cut_newline`, `skipTrivia_newline`: what is cut from the front of a text does not depend
  on what follows a newline behind it.
* `tokenizeFrom_joined`: the tokens of two texts that are joined by a newline.
* `Lexes.itemsFrom_eq`: the text of a token at the front of a text is read as that token.
* `tokenizeFrom_keyword`: the tokens of a text behind a keyword.
-/

namespace Lox

/-! ### Texts that begin on some line -/

/-- The items of a text that begins on the given line. -/
def itemsFrom (line : Nat) (text : List Char) : List Item :=
  (scanFrom line text #[]).toList

/-- The tokens of a source that begins on the given line, or its lexical errors. -/
def tokenizeFrom (line : Nat) (source : String) : Except (List LexError) (List Token) :=
  Item.gather (itemsFrom line source.toList)

theorem tokenizeFrom_one (source : String) : tokenizeFrom 1 source = tokenize source :=
  rfl

theorem itemized_itemsFrom (line : Nat) (text : List Char) :
    Itemized line text (itemsFrom line text) := by
  obtain ⟨items, isScan, isRead⟩ := itemized_scanFrom line text #[]
  have isItems : itemsFrom line text = items := isScan
  rw [isItems]
  exact isRead

theorem toList_scanFrom (line : Nat) (text : List Char) (found : Array Item) :
    (scanFrom line text found).toList = found.toList ++ itemsFrom line text := by
  obtain ⟨items, isScan, isRead⟩ := itemized_scanFrom line text found
  rw [isScan, isRead.unique (itemized_itemsFrom line text)]

theorem itemsFrom_of_trivia {line last : Nat} {text : List Char}
    (isSkipped : skipTrivia false line text = (last, [])) :
    itemsFrom line text = [.ok ⟨.endOfInput, "", last⟩] := by
  rw [itemsFrom, scanFrom, isSkipped]
  rfl

/-- What is found depends on the text behind leading trivia only. -/
theorem itemsFrom_congr {line line' : Nat} {text text' : List Char}
    (isSkipped : skipTrivia false line text = skipTrivia false line' text') :
    itemsFrom line text = itemsFrom line' text' := by
  rw [itemsFrom, itemsFrom, scanFrom, scanFrom, isSkipped]

theorem itemsFrom_blank (line : Nat) (text : List Char) :
    itemsFrom line (' ' :: text) = itemsFrom line text :=
  itemsFrom_congr rfl

theorem itemsFrom_of_cut {line first : Nat} {text rest : List Char} {c : Char}
    (isSkipped : skipTrivia false line text = (first, c :: rest)) :
    itemsFrom line text =
      (Lexeme.cut c rest).item (first + (Lexeme.cut c rest).covered.count '\n') ::
        itemsFrom (first + (Lexeme.cut c rest).covered.count '\n') (Lexeme.cut c rest).rest := by
  rw [itemsFrom, scanFrom, isSkipped]
  exact toList_scanFrom _ _ _

theorem itemsFrom_ne_nil (line : Nat) (text : List Char) : itemsFrom line text ≠ [] := by
  obtain ⟨before, last, isEnd, -⟩ := (itemized_itemsFrom line text).exists_end
  rw [isEnd]
  exact List.append_ne_nil_of_right_ne_nil _ (List.cons_ne_nil _ _)

/-- The end of the input is on the line behind all newlines of the text. -/
theorem Itemized.line_end {line last : Nat} {text : List Char} {items before : List Item}
    (h : Itemized line text items) (isEnd : items = before ++ [.ok ⟨.endOfInput, "", last⟩]) :
    last = line + text.count '\n' := by
  induction h generalizing before with
  | done =>
    obtain ⟨-, isLast⟩ := List.append_inj' ((List.nil_append _).trans isEnd) rfl
    cases isLast
    rfl
  | item run front more ih =>
    cases before with
    | nil =>
      obtain ⟨-, isNil⟩ := List.cons.inj isEnd
      rw [isNil] at more
      cases more
    | cons item before =>
      rw [ih (List.cons.inj isEnd).2, List.count_append, List.count_append, Nat.add_assoc,
        Nat.add_assoc]

/-- The tokens of a text are closed by the end of the input, on the line behind all newlines. -/
theorem exists_tokenizeFrom {line : Nat} {source : String} {tokens : List Token}
    (isTokens : tokenizeFrom line source = .ok tokens) :
    ∃ ts, tokens = ts ++ [⟨.endOfInput, "", line + source.toList.count '\n'⟩] ∧
      ∀ t ∈ ts, t.kind.isEnd = false := by
  have isItems := Item.gather_eq_ok_iff.1 isTokens
  have isRead := itemized_itemsFrom line source.toList
  obtain ⟨before, last, isEnd, inside⟩ := isRead.exists_end
  obtain rfl := isRead.line_end isEnd
  obtain ⟨ts, us, rfl, isBefore, isLast⟩ := List.map_eq_append_iff.1 (isItems.symm.trans isEnd)
  obtain ⟨u, us, rfl, isToken, isNil⟩ := List.map_eq_cons_iff.1 isLast
  cases isToken
  obtain rfl := List.map_eq_nil_iff.1 isNil
  refine ⟨ts, rfl, fun t mem => inside t ?_⟩
  rw [← isBefore]
  exact List.mem_map_of_mem mem

/-! ### Texts that go on behind a newline -/

variable {c : Char} {more : List Char}

namespace Lexeme

/-- A lexeme in front of a longer text. -/
def before (lexeme : Lexeme) (more : List Char) : Lexeme :=
  { lexeme with rest := lexeme.rest ++ more }

theorem exists_kind {lexeme : Lexeme} {line : Nat} {t : Token}
    (isItem : lexeme.item line = .ok t) : ∃ kind, lexeme.kind = .ok kind := by
  unfold item at isItem
  cases isKind : lexeme.kind with
  | ok kind => exact ⟨kind, rfl⟩
  | error cause =>
    rw [isKind] at isItem
    cases isItem

/-- The token at the front of a text is cut off alike if a newline and more text follow. -/
theorem cut_newline {text : List Char} {kind : TokenKind} (isToken : (cut c text).kind = .ok kind) :
    cut c (text ++ '\n' :: more) = (cut c text).before ('\n' :: more) := by
  have front := foremost_cut c text
  have isWhole := (cuts c text).covered_append_rest
  obtain ⟨l, isCovered⟩ := (cuts c text).exists_covered
  generalize cut c text = lexeme at *
  obtain ⟨covered, kind', rest⟩ := lexeme
  dsimp only at *
  subst isToken isCovered
  obtain rfl : l ++ rest = text := (List.cons.inj isWhole).2
  have deviates : Deviates (rest ++ []) (rest ++ '\n' :: more) := .separated rest [] more rfl
  rw [List.append_nil] at deviates
  rw [List.append_assoc]
  exact (front.deviating deviates).cut_eq

end Lexeme

theorem head_newline (rest more : List Char) :
    ((rest ++ '\n' :: more).head? == some '/') = (rest.head? == some '/') := by
  cases rest <;> rfl

/-- Behind a newline, trivia begins anew. -/
theorem skipTrivia_newline (inComment : Bool) (line : Nat) (text more : List Char) :
    skipTrivia inComment line (text ++ '\n' :: more) =
      match skipTrivia inComment line text with
      | (last, []) => skipTrivia false (last + 1) more
      | (first, c :: rest) => (first, c :: (rest ++ '\n' :: more)) := by
  fun_induction skipTrivia inComment line text with
  | case1 inComment line => cases inComment <;> rfl
  | case2 line c rest isNewline ih =>
    rw [List.cons_append, skipTrivia, if_pos isNewline, ih]
  | case3 line c rest noNewline ih =>
    rw [List.cons_append, skipTrivia, if_neg noNewline, ih]
  | case4 line c rest isNewline ih =>
    rw [List.cons_append, skipTrivia, if_pos isNewline, ih]
  | case5 line c rest noNewline isBlank ih =>
    rw [List.cons_append, skipTrivia, if_neg noNewline, if_pos isBlank, ih]
  | case6 line c rest noNewline noBlank isComment ih =>
    rw [List.cons_append, skipTrivia, if_neg noNewline, if_neg noBlank, head_newline,
      if_pos isComment,
      ih]
  | case7 line c rest noNewline noBlank noComment =>
    rw [List.cons_append, skipTrivia, if_neg noNewline, if_neg noBlank, head_newline,
      if_neg noComment]

/-! ### The joined text -/

/-- The items of two texts that are joined by a newline, if there is no error in the first. -/
theorem itemsFrom_newline (line : Nat) (text more : List Char) {ts : List Token} {last : Nat}
    (isItems : itemsFrom line text = ts.map .ok ++ [.ok ⟨.endOfInput, "", last⟩]) :
    itemsFrom line (text ++ '\n' :: more) = ts.map .ok ++ itemsFrom (last + 1) more := by
  have skipped := skipTrivia_newline false line text more
  induction ts generalizing line text with
  | nil =>
    rcases isSkipped : skipTrivia false line text with ⟨first, _ | ⟨c, rest⟩⟩
    · rw [isSkipped] at skipped
      rw [itemsFrom_of_trivia isSkipped] at isItems
      cases isItems
      exact itemsFrom_congr skipped
    · rw [itemsFrom_of_cut isSkipped] at isItems
      exact (itemsFrom_ne_nil _ _ (List.cons.inj isItems).2).elim
  | cons t ts ih =>
    rcases isSkipped : skipTrivia false line text with ⟨first, _ | ⟨c, rest⟩⟩
    · rw [itemsFrom_of_trivia isSkipped, List.map_cons, List.cons_append] at isItems
      cases ts <;> cases (List.cons.inj isItems).2
    · rw [isSkipped] at skipped
      rw [itemsFrom_of_cut isSkipped, List.map_cons, List.cons_append] at isItems
      obtain ⟨isItem, isItems⟩ := List.cons.inj isItems
      obtain ⟨kind, isToken⟩ := Lexeme.exists_kind isItem
      rw [itemsFrom_of_cut skipped, Lexeme.cut_newline isToken]
      exact congrArg₂ List.cons isItem (ih _ _ isItems (skipTrivia_newline ..))

/-- The tokens of two sources that are joined by a newline are those of the first without its end,
and those of the second, which begins on the next line. -/
theorem tokenizeFrom_joined {line last : Nat} {a b : String} {ts us : List Token}
    (isTokens : tokenizeFrom line a = .ok (ts ++ [⟨.endOfInput, "", last⟩]))
    (isTokens' : tokenizeFrom (last + 1) b = .ok us) :
    tokenizeFrom line (a ++ "\n" ++ b) = .ok (ts ++ us) := by
  have isItems := Item.gather_eq_ok_iff.1 isTokens
  have isItems' := Item.gather_eq_ok_iff.1 isTokens'
  rw [List.map_append] at isItems
  have isJoined : (a ++ "\n" ++ b).toList = a.toList ++ '\n' :: b.toList := by
    simp
  refine Item.gather_eq_ok_iff.2 ?_
  rw [isJoined, itemsFrom_newline line _ _ isItems, isItems', List.map_append]

/-! ### A token in front of a text -/

/-- The item behind the first trivia comes first, and the rest is read from its end. -/
theorem itemsFrom_of_foremost {trivia covered rest : List Char}
    {kind : Except LexError.Cause TokenKind}
    (run : Longest Trivia (trivia ++ (covered ++ rest)) trivia) (front : Foremost covered rest kind)
    (line : Nat) :
    itemsFrom line (trivia ++ (covered ++ rest)) =
      Lexeme.item ⟨covered, kind, rest⟩ (line + trivia.count '\n' + covered.count '\n') ::
        itemsFrom (line + trivia.count '\n' + covered.count '\n') rest :=
  (itemized_itemsFrom line _).unique (.item run front (itemized_itemsFrom _ rest))

namespace Lexes

variable {l rest : List Char} {kind : TokenKind}

/-- The text of a token is a token by itself. -/
theorem foremost (h : Lexes l kind) : Foremost l [] (.ok kind) := by
  obtain ⟨c, text, rfl, isCut⟩ := h.exists_cut
  have isFront := foremost_cut c text
  rwa [isCut] at isFront

/-- The text of a token is read as that token if nothing or a blank follows. -/
theorem itemsFrom_eq (h : Lexes l kind) (deviates : Deviates [] rest) (line : Nat) :
    itemsFrom line (l ++ rest) =
      .ok ⟨kind, String.ofList l, line + l.count '\n'⟩ :: itemsFrom (line + l.count '\n') rest := by
  have noComment : l = ['/'] → rest.head? ≠ some '/' := fun _ isSlash =>
    nomatch deviates.head rfl isSlash
  have run : Longest Trivia ([] ++ (l ++ rest)) [] :=
    longest_of_skipTrivia (h.skipTrivia_eq noComment line)
  exact itemsFrom_of_foremost run (h.foremost.deviating deviates) line

end Lexes

/-- A keyword and a blank in front of a text. -/
theorem itemsFrom_keyword (line : Nat) (k : Keyword) (text : List Char) :
    itemsFrom line (k.spelling.toList ++ ' ' :: text) =
      .ok ⟨.keyword k, k.spelling, line⟩ :: itemsFrom line text := by
  have deviates : Deviates [] (' ' :: text) := .separated [] [] text rfl
  have noNewline : k.spelling.toList.count '\n' = 0 := by cases k <;> rfl
  rw [(Lexes.keyword k).itemsFrom_eq deviates, noNewline, String.ofList_toList, itemsFrom_blank,
    Nat.add_zero]

/-- A keyword and a blank in front of a source without lexical errors. -/
theorem tokenizeFrom_keyword {line : Nat} {source : String} {tokens : List Token} (k : Keyword)
    (isTokens : tokenizeFrom line source = .ok tokens) :
    tokenizeFrom line (k.spelling ++ " " ++ source) =
      .ok (⟨.keyword k, k.spelling, line⟩ :: tokens) := by
  have isItems := Item.gather_eq_ok_iff.1 isTokens
  have isText : (k.spelling ++ " " ++ source).toList =
      k.spelling.toList ++ ' ' :: source.toList := by
    simp
  refine Item.gather_eq_ok_iff.2 ?_
  rw [isText, itemsFrom_keyword, isItems, List.map_cons]

end Lox
