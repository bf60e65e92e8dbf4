import Lox.Proofs.Token.Joined

/-!
# Items in their places

A text falls into stretches, each of which is a run of trivia with the item behind it, and a last
run of trivia. Every newline of the text stands in one of these, whether between tokens, behind a
comment or in a string, and so an item is on the line that is told by the newlines up to its end.

## Main definitions

* `Stretch`: trivia and the item behind it.
* `Parted`: the stretches of a text, and the trivia behind the last item.
* `Item.line`: the line of a token or an error.

## Main results

* `exists_parted`: every text falls into stretches.
* `lines_of_scan`: the lines of the items of a source.
-/

namespace Lox

/-- A run of trivia, and the characters of the item behind it with what they are. -/
structure Stretch where
  trivia : List Char
  covered : List Char
  kind : Except LexError.Cause TokenKind

namespace Stretch

/-- The characters of a stretch. The item ends where the stretch does. -/
def text (s : Stretch) : List Char :=
  s.trivia ++ s.covered

/-- The item of a stretch, on a line. -/
def item (s : Stretch) (line : Nat) : Item :=
  Lexeme.item ⟨s.covered, s.kind, []⟩ line

end Stretch

/-- A text falls into stretches and trivia behind them. -/
inductive Parted : List Char → List Stretch → List Char → Prop
  | done {trailing : List Char} (run : Trivia trailing) : Parted trailing [] trailing
  | stretch {trivia covered rest trailing : List Char} {kind : Except LexError.Cause TokenKind}
      {ss : List Stretch} (run : Longest Trivia (trivia ++ (covered ++ rest)) trivia)
      (front : Foremost covered rest kind) (more : Parted rest ss trailing) :
      Parted (trivia ++ (covered ++ rest)) (⟨trivia, covered, kind⟩ :: ss) trailing

/-- The line of an item. -/
def Item.line : Item → Nat
  | .ok t => t.line
  | .error e => e.line

variable {text trivia covered rest trailing : List Char} {ss : List Stretch} {items : List Item}
  {kind : Except LexError.Cause TokenKind} {line : Nat}

@[simp] theorem Lexeme.line_item (lexeme : Lexeme) (line : Nat) :
    (lexeme.item line).line = line := by
  unfold Lexeme.item
  cases lexeme.kind <;> rfl

theorem Itemized.exists_parted (h : Itemized line text items) :
    ∃ ss trailing, Parted text ss trailing := by
  induction h with
  | done run => exact ⟨[], _, .done run⟩
  | item run front _ ih =>
    obtain ⟨ss, trailing, parted⟩ := ih
    exact ⟨_, trailing, .stretch run front parted⟩

/-- Every text falls into stretches. -/
theorem exists_parted (text : List Char) : ∃ ss trailing, Parted text ss trailing :=
  (itemized_itemsFrom 1 text).exists_parted

theorem Trivia.itemsFrom_eq (run : Trivia trailing) (line : Nat) :
    itemsFrom line trailing = [.ok ⟨.endOfInput, "", line + trailing.count '\n'⟩] :=
  (itemized_itemsFrom line trailing).unique (.done run)

theorem itemsFrom_stretch (run : Longest Trivia (trivia ++ (covered ++ rest)) trivia)
    (front : Foremost covered rest kind) (line : Nat) :
    itemsFrom line (trivia ++ (covered ++ rest)) =
      Stretch.item ⟨trivia, covered, kind⟩ (line + trivia.count '\n' + covered.count '\n') ::
        itemsFrom (line + trivia.count '\n' + covered.count '\n') rest :=
  itemsFrom_of_foremost run front line

namespace Parted

/-- The stretches make up the text. -/
theorem text_eq (h : Parted text ss trailing) :
    text = ss.flatMap Stretch.text ++ trailing := by
  induction h with
  | done => rfl
  | stretch _ _ _ ih =>
    rw [List.flatMap_cons, List.append_assoc, ← ih, Stretch.text, List.append_assoc]

/-- Each item is on the line told by the newlines of the stretches up to its own. -/
theorem itemsFrom_eq (h : Parted text ss trailing) (line : Nat) :
    itemsFrom line text =
      ss.mapIdx (fun n s => s.item (line + ((ss.take (n + 1)).flatMap Stretch.text).count '\n')) ++
        [.ok ⟨.endOfInput, "", line + text.count '\n'⟩] := by
  induction h generalizing line with
  | done run => exact run.itemsFrom_eq line
  | stretch run front _ ih =>
    rw [itemsFrom_stretch run front, ih, List.mapIdx_cons]
    simp [Stretch.text, List.count_append, Nat.add_assoc]

end Parted

/-- The lines of items never go back. -/
theorem Itemized.pairwise_line (h : Itemized line text items) :
    items.Pairwise (fun a b => a.line ≤ b.line) ∧ ∀ item ∈ items, line ≤ item.line := by
  induction h with
  | done =>
    refine ⟨List.pairwise_singleton .., fun item mem => ?_⟩
    rw [List.mem_singleton.1 mem]
    exact Nat.le_add_right ..
  | item _ _ _ ih =>
    obtain ⟨sorted, later⟩ := ih
    refine ⟨List.pairwise_cons.2 ⟨fun item mem => ?_, sorted⟩, fun item mem => ?_⟩
    · rw [Lexeme.line_item]
      exact later item mem
    · rcases List.mem_cons.1 mem with rfl | mem
      · rw [Lexeme.line_item, Nat.add_assoc]
        exact Nat.le_add_right ..
      · exact Nat.le_trans (Nat.le_trans (Nat.le_add_right ..) (Nat.le_add_right ..))
          (later item mem)

/-- The lines of items are exact. The source falls into stretches that end with its items, and
trivia behind them. The line of each item is one more than the number of newlines in the source up
to the end of the item; that of the end of the input is one more than the number of all of them.
The lines never go back. -/
theorem lines_of_scan (source : String) :
    (∃ ss trailing, Parted source.toList ss trailing) ∧
    (∀ ss trailing, Parted source.toList ss trailing →
      source.toList = ss.flatMap Stretch.text ++ trailing ∧
      scan source =
        ss.mapIdx (fun n s => s.item (1 + ((ss.take (n + 1)).flatMap Stretch.text).count '\n')) ++
          [.ok ⟨.endOfInput, "", 1 + source.toList.count '\n'⟩]) ∧
    (scan source).Pairwise fun a b => a.line ≤ b.line :=
  ⟨exists_parted source.toList, fun _ _ parted => ⟨parted.text_eq, parted.itemsFrom_eq 1⟩,
    (itemized_scan source).pairwise_line.1⟩

/-- Newlines behind a comment, in a string, between tokens and in a string without an end. -/
example : (scan "a // b\n\"c\nd\" @\n\"\n").map Item.line = [1, 3, 3, 5, 5] := by cbv

end Lox
