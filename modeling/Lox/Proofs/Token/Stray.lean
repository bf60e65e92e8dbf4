import Lox.Proofs.Token.Stretch

/-!
# Stray characters

A character that begins no token is an error by itself, and the reading goes on behind it as it does
behind a blank. With a blank in the place of every such character a source has the same other items
on the same lines.

## Main definitions

* `Stretch.isStray`, `Item.isStray`: the errors about characters that begin no token.
* `Stretch.cleared`: the characters of a stretch, with a blank in the place of a stray character.
* `differences`: the number of places in which two texts are different.

## Main results

* `Parted.exists_stray`: a stray character is covered by its error, and is no blank.
* `Parted.itemsFrom_cleared`: the items of a text that is cleared of stray characters.
* `scan_cleared`: stray characters are isolated.
-/

namespace Lox

/-- Whether an item is the error about a character that begins no token. -/
def Item.isStray : Item → Bool
  | .error ⟨.unexpected _, _⟩ => true
  | _ => false

namespace Stretch

/-- Whether the item of a stretch is a character that begins no token. -/
def isStray (s : Stretch) : Bool :=
  match s.kind with
  | .error (.unexpected _) => true
  | _ => false

/-- The characters of a stretch, with a blank in the place of a character that begins no token. -/
def cleared (s : Stretch) : List Char :=
  s.trivia ++ if s.isStray then [' '] else s.covered

theorem isStray_item (s : Stretch) (line : Nat) : (s.item line).isStray = s.isStray := by
  unfold item isStray Lexeme.item
  match s.kind with
  | .ok _ => rfl
  | .error (.unexpected _) => rfl
  | .error .unterminatedString => rfl

end Stretch

/-- The number of places in which two texts of one length are different. -/
def differences (text text' : List Char) : Nat :=
  (text.zip text').countP fun (c, c') => c != c'

variable {text rest rest' trivia trailing : List Char} {ss : List Stretch} {line : Nat}

theorem differences_append (l : List Char) : differences (l ++ rest) (l ++ rest') =
    differences rest rest' := by
  induction l with
  | nil => rfl
  | cons c l ih => simpa [differences] using ih

/-- A stray character is all that its error covers. -/
theorem Foremost.exists_stray {covered : List Char} {kind : Except LexError.Cause TokenKind}
    (h : Foremost covered rest kind) (stray : Stretch.isStray ⟨trivia, covered, kind⟩ = true) :
    ∃ c, covered = [c] ∧ kind = .error (.unexpected c) := by
  cases h with
  | token => cases stray
  | @unexpected c => exact ⟨c, rfl, rfl⟩
  | unterminated => cases stray

namespace Parted

/-- A stray character is all that its error covers; it is no blank. -/
theorem exists_stray (h : Parted text ss trailing) {s : Stretch} (mem : s ∈ ss)
    (stray : s.isStray = true) :
    ∃ c, s.covered = [c] ∧ s.kind = .error (.unexpected c) ∧ isSeparator c = false := by
  induction h with
  | done => cases mem
  | stretch run front _ ih =>
    rcases List.mem_cons.1 mem with rfl | mem
    · obtain ⟨c, rfl, rfl⟩ := front.exists_stray stray
      exact ⟨c, rfl, rfl, run.stops.1⟩
    · exact ih mem

theorem length_cleared (h : Parted text ss trailing) :
    (ss.flatMap Stretch.cleared ++ trailing).length = text.length := by
  induction h with
  | done => rfl
  | @stretch trivia covered rest trailing kind ss run front more ih =>
    have same : (Stretch.cleared ⟨trivia, covered, kind⟩).length = (trivia ++ covered).length := by
      unfold Stretch.cleared
      split
      · next stray =>
        obtain ⟨c, rfl, -⟩ := front.exists_stray stray
        simp
      · rfl
    rw [List.flatMap_cons, List.append_assoc, List.length_append, ih, same, ← List.length_append,
      List.append_assoc]

/-- A text that is cleared of stray characters is the same up to the first of them. -/
theorem deviates_cleared (h : Parted text ss trailing) :
    Deviates text (ss.flatMap Stretch.cleared ++ trailing) := by
  induction h with
  | done => exact .same _
  | @stretch trivia covered rest trailing kind ss run front more ih =>
    rw [List.flatMap_cons, List.append_assoc, Stretch.cleared, List.append_assoc]
    split
    · exact .separated trivia _ _ rfl
    · exact (ih.append covered).append trivia

/-- Stray characters are what is missing from the items of the cleared text. -/
theorem itemsFrom_cleared (h : Parted text ss trailing) (line : Nat) :
    itemsFrom line (ss.flatMap Stretch.cleared ++ trailing) =
      (itemsFrom line text).filter fun item => !item.isStray := by
  induction h generalizing line with
  | done run =>
    rw [List.flatMap_nil, List.nil_append, run.itemsFrom_eq]
    rfl
  | @stretch trivia covered rest trailing kind ss run front more ih =>
    rw [itemsFrom_stretch run front, List.filter_cons, Stretch.isStray_item, List.flatMap_cons,
      List.append_assoc, Stretch.cleared, List.append_assoc]
    dsimp only
    generalize isRest : ss.flatMap Stretch.cleared ++ trailing = rest' at ih ⊢
    cases stray : Stretch.isStray ⟨trivia, covered, kind⟩ with
    | true =>
      obtain ⟨c, rfl, -⟩ := front.exists_stray stray
      have noNewline : [c].count '\n' = 0 := by
        obtain ⟨-, noNewline⟩ := Bool.or_eq_false_iff.1 run.stops.1
        rw [List.count_singleton, noNewline]
        rfl
      have isSkipped := skipTrivia_append (run.skipTrivia_eq line) (' ' :: rest')
      rw [noNewline, Nat.add_zero]
      exact ((itemsFrom_congr isSkipped).trans (itemsFrom_blank _ _)).trans (ih _)
    | false =>
      have deviates : Deviates rest rest' := isRest ▸ more.deviates_cleared
      have front' : Foremost covered rest' kind := by
        cases front with
        | token isToken longest => exact (Foremost.token isToken longest).deviating deviates
        | unexpected => cases stray
        | unterminated unclosed =>
          obtain rfl : rest' = [] := List.length_eq_zero_iff.1 (isRest ▸ more.length_cleared)
          exact .unterminated unclosed
      have run' : Longest Trivia (trivia ++ (covered ++ rest')) trivia := by
        obtain ⟨c, l, rfl⟩ := front.exists_cons
        refine run.trivia_congr fun isSlash isSlash' => ?_
        exact (deviates.append l).head rfl isSlash'
      exact (itemsFrom_stretch run' front' line).trans (congrArg _ (ih _))

/-- Each stray character is one place of difference. -/
theorem differences_cleared (h : Parted text ss trailing) :
    differences text (ss.flatMap Stretch.cleared ++ trailing) = ss.countP Stretch.isStray := by
  induction h with
  | @done trailing =>
    have same := @differences_append [] [] trailing
    rw [List.append_nil] at same
    exact same
  | @stretch trivia covered rest trailing kind ss run front more ih =>
    rw [List.flatMap_cons, List.append_assoc, Stretch.cleared, List.append_assoc,
      differences_append, List.countP_cons, ← ih]
    split
    · next stray =>
      obtain ⟨c, rfl, -⟩ := front.exists_stray stray
      have noBlank : c ≠ ' ' := by
        rintro rfl
        cases run.stops.1
      simp [differences, noBlank]
    · rw [differences_append]
      rfl

theorem countP_isStray (h : Parted text ss trailing) (line : Nat) :
    (itemsFrom line text).countP Item.isStray = ss.countP Stretch.isStray := by
  induction h generalizing line with
  | done run =>
    rw [run.itemsFrom_eq]
    rfl
  | stretch run front _ ih =>
    rw [itemsFrom_stretch run front, List.countP_cons, List.countP_cons, Stretch.isStray_item, ih]

end Parted

/-- Stray characters are isolated. The source falls into stretches; each error about an unexpected
character covers one character, which is not a blank. Put a blank into the place of each of these:
the new text has as many characters, and differs from the source in as many places as there are such
errors. Its items are the other items of the source, the same tokens and the same error about a
string without an end, on the same lines. -/
theorem scan_cleared (source : String) :
    (∃ ss trailing, Parted source.toList ss trailing) ∧
    ∀ ss trailing, Parted source.toList ss trailing →
      let cleared := ss.flatMap Stretch.cleared ++ trailing
      (∀ s ∈ ss, s.isStray = true → ∃ c, s.covered = [c] ∧ s.kind = .error (.unexpected c) ∧
        c ≠ ' ') ∧
      cleared.length = source.toList.length ∧
      differences source.toList cleared = (scan source).countP Item.isStray ∧
      scan (String.ofList cleared) = (scan source).filter (fun item => !item.isStray) := by
  refine ⟨exists_parted source.toList, fun ss trailing parted => ⟨fun s mem stray => ?_,
    parted.length_cleared, parted.differences_cleared.trans (parted.countP_isStray 1).symm, ?_⟩⟩
  · obtain ⟨c, isCovered, isKind, noSeparator⟩ := parted.exists_stray mem stray
    refine ⟨c, isCovered, isKind, ?_⟩
    rintro rfl
    cases noSeparator
  · have isCleared := parted.itemsFrom_cleared 1
    rwa [← String.toList_ofList (l := ss.flatMap Stretch.cleared ++ trailing)] at isCleared

/-- A number sign in a string is not stray. -/
example : (scan "a$=é\"#").map Item.isStray = [false, true, false, true, false, false] := by cbv

end Lox
