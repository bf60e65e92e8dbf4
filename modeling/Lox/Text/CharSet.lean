/-!
# Sets of characters

A set of characters is kept as ranges of their numbers in ascending order. All tables of this
library follow version 17 of the Unicode character database.

## Main definitions

* `CharSet`: a set of characters.
* `CharSet.contains`: membership.

## Main results

* `CharSet.contains_iff`: a character is in a set if and only if it lies in one of the ranges.
-/

namespace Lox

/-- Whether ranges ascend from a number on: each begins where it ends or before, and after the end
of the one before. -/
def ascendingFrom (least : Nat) : List (Nat × Nat) → Bool
  | [] => true
  | (first, last) :: rest => least ≤ first && first ≤ last && ascendingFrom (last + 1) rest

/-- Whether a number lies in one of some ascending ranges. -/
def inRanges (n : Nat) : List (Nat × Nat) → Bool
  | [] => false
  | (first, last) :: rest => first ≤ n && (n ≤ last || inRanges n rest)

theorem inRanges_eq_false_of_lt {n least : Nat} (below : n < least) :
    {ranges : List (Nat × Nat)} → ascendingFrom least ranges = true → inRanges n ranges = false
  | [], _ => rfl
  | (first, last) :: rest, ascending => by
    simp only [ascendingFrom, Bool.and_eq_true, decide_eq_true_eq] at ascending
    simp only [inRanges, Bool.and_eq_false_iff, decide_eq_false_iff_not]
    exact Or.inl (by omega)

theorem inRanges_iff {n least : Nat} {ranges : List (Nat × Nat)}
    (ascending : ascendingFrom least ranges = true) :
    inRanges n ranges = true ↔ ∃ r ∈ ranges, r.1 ≤ n ∧ n ≤ r.2 := by
  induction ranges generalizing least with
  | nil => simp [inRanges]
  | cons r rest ih =>
    obtain ⟨first, last⟩ := r
    simp only [ascendingFrom, Bool.and_eq_true, decide_eq_true_eq] at ascending
    obtain ⟨⟨_, ordered⟩, ascending⟩ := ascending
    simp only [inRanges, Bool.and_eq_true, Bool.or_eq_true, decide_eq_true_eq, ih ascending,
      List.mem_cons, exists_eq_or_imp]
    constructor
    · rintro ⟨above, within | later⟩
      · exact Or.inl ⟨above, within⟩
      · exact Or.inr later
    · rintro (⟨above, within⟩ | later)
      · exact ⟨above, Or.inl within⟩
      · refine ⟨?_, Or.inr later⟩
        by_cases below : n < last + 1
        · have absent := inRanges_eq_false_of_lt below ascending
          rw [← Bool.not_eq_true, ih ascending] at absent
          exact absurd later absent
        · omega

/-- A set of characters: the first and the last number of each of its ranges. -/
structure CharSet where
  ranges : List (Nat × Nat)
  ascending : ascendingFrom 0 ranges = true := by decide +kernel

namespace CharSet

/-- Whether a character is in a set. -/
def contains (s : CharSet) (c : Char) : Bool :=
  inRanges c.toNat s.ranges

theorem contains_iff {s : CharSet} {c : Char} :
    s.contains c = true ↔ ∃ r ∈ s.ranges, r.1 ≤ c.toNat ∧ c.toNat ≤ r.2 :=
  inRanges_iff s.ascending

end CharSet

end Lox
