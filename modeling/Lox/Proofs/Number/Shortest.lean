import Lox.Number.Shortest
import Mathlib.Algebra.Order.Field.Power
import Mathlib.Data.Rat.Cast.Order
import Mathlib.Tactic.Linarith
import Mathlib.Tactic.NormNum
import Mathlib.Tactic.Ring
import Mathlib.Tactic.FieldSimp
import Mathlib.Tactic.Positivity
import Mathlib.Tactic.GCongr

/-!
# Shortest decimals read back

The neighbourhoods of two numbers do not meet: a rational lies in the neighbourhood of at most one
number. The search for a shortest decimal ends at a point of the neighbourhood, because one of its
grids is finer than the neighbourhood is wide. So the shortest decimal of a number is that of no
other number.

## Main definitions

* `Decimal.value`, `Interval.Contains`: decimals and neighbourhoods among the rationals.
* `Canonical`: the significands and exponents that words of 64 bits have.

## Main results

* `Canonical.unique`: a rational lies around at most one number.
* `Canonical.contains_shortest`: the shortest decimal of a number that is not whole lies around it.
-/

namespace Lox.Number

/-- The value of a decimal. -/
def Decimal.value (d : Decimal) : ℚ :=
  d.coefficient * 10 ^ d.exponent

/-- The rationals in a neighbourhood. -/
def Interval.Contains (interval : Interval) (r : ℚ) : Prop :=
  if interval.closed then
    interval.low * 2 ^ interval.exponent ≤ r ∧ r ≤ interval.high * 2 ^ interval.exponent
  else interval.low * 2 ^ interval.exponent < r ∧ r < interval.high * 2 ^ interval.exponent

/-- The significands and exponents of the numbers: the significand has 53 binary digits, fewer only
at the least exponent. -/
structure Canonical (significand : Nat) (exponent : Int) : Prop where
  lt : significand < 2 ^ 53
  least : -1074 ≤ exponent
  full : exponent ≠ -1074 → 2 ^ 52 ≤ significand

/-! ### Neighbourhoods of numbers -/

namespace Interval

variable {interval : Interval} {r : ℚ} {significand : Nat} {exponent : Int}

theorem Contains.low_le (h : interval.Contains r) : interval.low * 2 ^ interval.exponent ≤ r := by
  unfold Contains at h
  split at h
  · exact h.1
  · exact h.1.le

theorem Contains.le_high (h : interval.Contains r) : r ≤ interval.high * 2 ^ interval.exponent := by
  unfold Contains at h
  split at h
  · exact h.2
  · exact h.2.le

theorem Contains.closed_of_low (h : interval.Contains r)
    (isLow : r = interval.low * 2 ^ interval.exponent) : interval.closed = true := by
  unfold Contains at h
  split at h
  · assumption
  · exact absurd isLow h.1.ne'

theorem Contains.closed_of_high (h : interval.Contains r)
    (isHigh : r = interval.high * 2 ^ interval.exponent) : interval.closed = true := by
  unfold Contains at h
  split at h
  · assumption
  · exact absurd isHigh h.2.ne

theorem contains_of_lt (low : interval.low * 2 ^ interval.exponent < r)
    (high : r < interval.high * 2 ^ interval.exponent) : interval.Contains r := by
  unfold Contains
  split
  · exact ⟨low.le, high.le⟩
  · exact ⟨low, high⟩

theorem closed_around : (around significand exponent).closed = decide (significand % 2 = 0) :=
  rfl

theorem high_around : (around significand exponent).high = 4 * significand + 2 :=
  rfl

theorem le_low_around : 4 * significand ≤ (around significand exponent).low + 2 := by
  unfold around
  split <;> dsimp only <;> omega

theorem low_around_lt (h : 0 < significand) :
    (around significand exponent).low + 1 ≤ 4 * significand := by
  unfold around
  split <;> dsimp only <;> omega

end Interval

namespace Canonical

variable {s s' : Nat} {e e' : Int} {r : ℚ}

/-- The lower end of a neighbourhood with a greater exponent, in finer units. -/
theorem le_two_mul_low (h : Canonical s' e') (lt : -1074 < e') :
    2 ^ 55 - 2 ≤ 2 * (Interval.around s' e').low ∧
      (2 * (Interval.around s' e').low = 2 ^ 55 - 2 → s' = 2 ^ 52) := by
  have full := h.full (by omega)
  have isPower : powerOfTwo 52 = 2 ^ 52 := rfl
  unfold Interval.around
  dsimp only
  split <;> omega

theorem eq_of_exponent_eq (inside : (Interval.around s e).Contains r)
    (inside' : (Interval.around s' e).Contains r) (le : s ≤ s') : s = s' := by
  by_contra ne
  have unit : (0 : ℚ) < 2 ^ (e - 2) := by positivity
  have meet : (Interval.around s' e).low * (2 : ℚ) ^ (e - 2) ≤
      (Interval.around s e).high * (2 : ℚ) ^ (e - 2) :=
    inside'.low_le.trans inside.le_high
  have ends : (Interval.around s' e).low ≤ 4 * s + 2 := by
    exact_mod_cast le_of_mul_le_mul_right meet unit
  have above : 4 * s' ≤ (Interval.around s' e).low + 2 := Interval.le_low_around
  have isLow : (Interval.around s' e).low = 4 * s + 2 := by omega
  -- Both neighbourhoods end at the same point, so neither of two successive significands is odd.
  have isEnd : r = (Interval.around s e).high * 2 ^ (e - 2) := by
    refine le_antisymm inside.le_high ?_
    rw [Interval.high_around, ← isLow]
    exact inside'.low_le
  have even := inside.closed_of_high isEnd
  have even' := inside'.closed_of_low (by
    rw [isEnd, Interval.high_around, isLow]
    rfl)
  rw [Interval.closed_around, decide_eq_true_eq] at even even'
  omega

theorem exponent_le (h : Canonical s e) (h' : Canonical s' e')
    (inside : (Interval.around s e).Contains r) (inside' : (Interval.around s' e').Contains r) :
    e' ≤ e := by
  by_contra lt
  have unit : (0 : ℚ) < 2 ^ (e - 2) := by positivity
  obtain ⟨lower, isLower⟩ := h'.le_two_mul_low (by have := h.least; omega)
  have finer : (2 : ℚ) * (Interval.around s' e').low * 2 ^ (e - 2) ≤
      (Interval.around s' e').low * 2 ^ (e' - 2) := by
    have scaled : (2 : ℚ) * 2 ^ (e - 2) ≤ 2 ^ (e' - 2) := by
      rw [← zpow_one_add₀ (by norm_num)]
      exact zpow_le_zpow_right₀ (by norm_num) (by omega)
    calc (2 : ℚ) * (Interval.around s' e').low * 2 ^ (e - 2)
        = (Interval.around s' e').low * (2 * 2 ^ (e - 2)) := by ring
      _ ≤ (Interval.around s' e').low * 2 ^ (e' - 2) := by gcongr
  have meet : (2 : ℚ) * (Interval.around s' e').low * 2 ^ (e - 2) ≤
      (Interval.around s e).high * 2 ^ (e - 2) :=
    finer.trans (inside'.low_le.trans inside.le_high)
  have ends : 2 * (Interval.around s' e').low ≤ 4 * s + 2 := by
    exact_mod_cast le_of_mul_le_mul_right meet unit
  have small := h.lt
  have isEnd : r = (Interval.around s e).high * 2 ^ (e - 2) := by
    refine le_antisymm inside.le_high ?_
    have same : (Interval.around s e).high = 2 * (Interval.around s' e').low := by
      rw [Interval.high_around]
      omega
    rw [same, Nat.cast_mul]
    exact finer.trans inside'.low_le
  have even := inside.closed_of_high isEnd
  rw [Interval.closed_around, decide_eq_true_eq] at even
  omega

/-- A rational lies in the neighbourhood of at most one number. -/
theorem unique (h : Canonical s e) (h' : Canonical s' e')
    (inside : (Interval.around s e).Contains r) (inside' : (Interval.around s' e').Contains r) :
    s = s' ∧ e = e' := by
  obtain rfl : e = e' :=
    le_antisymm (exponent_le h' h inside' inside) (exponent_le h h' inside inside')
  refine ⟨?_, rfl⟩
  rcases le_total s s' with le | le
  · exact eq_of_exponent_eq inside inside' le
  · exact (eq_of_exponent_eq inside' inside le).symm

/-- A number lies in its neighbourhood. -/
theorem contains_self : (Interval.around s e).Contains (s * 2 ^ e) := by
  have unit : (0 : ℚ) < 2 ^ (e - 2) := by positivity
  have centre : (s : ℚ) * 2 ^ e = (4 * s : Nat) * 2 ^ (e - 2) := by
    rw [zpow_sub₀ (by norm_num)]
    push_cast
    ring
  rw [centre]
  rcases Nat.eq_zero_or_pos s with rfl | positive
  · refine ⟨?_, ?_⟩ <;> simp [Interval.around, unit.le]
  · refine Interval.contains_of_lt ?_ ?_
    · have : (Interval.around s e).low + 1 ≤ 4 * s := Interval.low_around_lt positive
      exact mul_lt_mul_of_pos_right (by exact_mod_cast this) unit
    · exact mul_lt_mul_of_pos_right (by rw [Interval.high_around]; exact_mod_cast (by omega)) unit

end Canonical

/-! ### Grids -/

section Scale

variable {two ten : Int}

theorem den_pos : 0 < (scale two ten).2 :=
  Nat.mul_pos (Nat.pow_pos (by decide)) (Nat.pow_pos (by decide))

theorem zpow_eq_div {b : ℚ} (h : b ≠ 0) (n : Int) : b ^ n = b ^ n.toNat / b ^ (-n).toNat := by
  rw [eq_div_iff (pow_ne_zero _ h), ← zpow_natCast, ← zpow_natCast, ← zpow_add₀ h]
  congr 1
  omega

/-- The quotient of a scale is that of the powers. -/
theorem num_mul_eq : ((scale two ten).1 : ℚ) * 10 ^ ten = (scale two ten).2 * 2 ^ two := by
  simp only [scale, powerOfTwo, powerOfTen, Nat.pow_eq]
  rw [zpow_eq_div (b := 10) (by norm_num) ten, zpow_eq_div (b := 2) (by norm_num) two]
  push_cast
  field_simp

/-- Units of a power of two and units of a power of ten are compared in whole numbers. -/
theorem mul_num_lt_iff {a c : Nat} : a * (scale two ten).1 < c * (scale two ten).2 ↔
    (a : ℚ) * 2 ^ two < c * 10 ^ ten := by
  have den : (0 : ℚ) < (scale two ten).2 := by exact_mod_cast den_pos
  have unit : (0 : ℚ) < 10 ^ ten := by positivity
  rw [← mul_lt_mul_iff_of_pos_left den, ← Nat.cast_lt (α := ℚ),
    ← mul_lt_mul_iff_of_pos_right unit]
  push_cast
  rw [mul_assoc, num_mul_eq]
  ring_nf

theorem mul_den_lt_iff {a c : Nat} : c * (scale two ten).2 < a * (scale two ten).1 ↔
    (c : ℚ) * 10 ^ ten < a * 2 ^ two := by
  have den : (0 : ℚ) < (scale two ten).2 := by exact_mod_cast den_pos
  have unit : (0 : ℚ) < 10 ^ ten := by positivity
  rw [← mul_lt_mul_iff_of_pos_left den, ← Nat.cast_lt (α := ℚ),
    ← mul_lt_mul_iff_of_pos_right unit]
  push_cast
  rw [mul_assoc (a : ℚ), num_mul_eq]
  ring_nf

theorem mul_num_le_iff {a c : Nat} : a * (scale two ten).1 ≤ c * (scale two ten).2 ↔
    (a : ℚ) * 2 ^ two ≤ c * 10 ^ ten := by
  rw [← not_lt, mul_den_lt_iff, not_lt]

theorem mul_den_le_iff {a c : Nat} : c * (scale two ten).2 ≤ a * (scale two ten).1 ↔
    (c : ℚ) * 10 ^ ten ≤ a * 2 ^ two := by
  rw [← not_lt, mul_num_lt_iff, not_lt]

end Scale

namespace Interval

variable {interval : Interval} {tie : Tie} {grid : Int} {decimal : Decimal}

/-- The test of the search: whether a point of a grid lies in the neighbourhood. -/
def admits (interval : Interval) (grid : Int) (c : Nat) : Bool :=
  let (num, den) := scale interval.exponent grid
  if interval.closed then interval.low * num ≤ c * den && c * den ≤ interval.high * num
  else interval.low * num < c * den && c * den < interval.high * num

theorem admits_iff {c : Nat} :
    interval.admits grid c = true ↔ interval.Contains (Decimal.value ⟨c, grid⟩) := by
  unfold admits Contains Decimal.value
  dsimp only
  split <;> simp only [Bool.and_eq_true, decide_eq_true_eq, mul_num_lt_iff, mul_den_lt_iff,
    mul_num_le_iff, mul_den_le_iff]

/-- The greatest point of a grid that is not above the number. -/
def below (interval : Interval) (grid : Int) : Nat :=
  interval.centre * (scale interval.exponent grid).1 / (scale interval.exponent grid).2

/-- What is picked is one of the two neighbours on the grid, if one of them is admitted. -/
theorem pick?_eq (interval : Interval) (tie : Tie) (grid : Int) :
    ∃ preferAbove : Bool, interval.pick? tie grid =
    if interval.admits grid (interval.below grid) &&
        !(preferAbove && interval.admits grid (interval.below grid + 1)) then
      some ⟨interval.below grid, grid⟩
    else if interval.admits grid (interval.below grid + 1) then
      some ⟨interval.below grid + 1, grid⟩
    else none :=
  ⟨_, rfl⟩

/-- What is picked lies in the neighbourhood. -/
theorem contains_of_pick? (h : interval.pick? tie grid = some decimal) :
    interval.Contains decimal.value := by
  obtain ⟨preferAbove, isPick⟩ := interval.pick?_eq tie grid
  rw [isPick] at h
  split at h
  case isTrue admitted =>
    cases h
    exact admits_iff.1 (Bool.and_elim_left admitted)
  case isFalse =>
    split at h
    case isTrue admitted =>
      cases h
      exact admits_iff.1 admitted
    case isFalse => cases h

/-- A grid as fine as the unit of a neighbourhood has a point in it. -/
theorem exists_pick? (fine : (10 : ℚ) ^ grid ≤ 2 ^ interval.exponent)
    (low : interval.low < interval.centre) (high : interval.centre < interval.high) :
    ∃ decimal, interval.pick? tie grid = some decimal := by
  have unit : (0 : ℚ) < 2 ^ interval.exponent := by positivity
  have inside : interval.admits grid (interval.below grid) = true := by
    have upper : (interval.below grid : ℚ) * 10 ^ grid ≤ interval.centre * 2 ^ interval.exponent :=
      mul_den_le_iff.1 (Nat.div_mul_le_self _ _)
    have lower : (interval.centre : ℚ) * 2 ^ interval.exponent <
        (interval.below grid + 1 : Nat) * 10 ^ grid :=
      mul_num_lt_iff.1 (Nat.lt_mul_of_div_lt (Nat.lt_succ_self _) den_pos)
    have low' : (interval.low : ℚ) + 1 ≤ interval.centre := by exact_mod_cast low
    have high' : (interval.centre : ℚ) < interval.high := by exact_mod_cast high
    refine admits_iff.2 (contains_of_lt ?_ ?_)
    · have apart : ((interval.low : ℚ) + 1) * 2 ^ interval.exponent ≤
          interval.centre * 2 ^ interval.exponent := by gcongr
      simp only [Decimal.value]
      push_cast at lower
      linarith
    · exact upper.trans_lt (by gcongr)
  obtain ⟨preferAbove, isPick⟩ := interval.pick?_eq tie grid
  rw [isPick]
  split
  · exact ⟨_, rfl⟩
  · rename_i above
    simp only [inside, Bool.true_and, Bool.not_eq_true', Bool.not_eq_false,
      Bool.and_eq_true] at above
    rw [if_pos above.2]
    exact ⟨_, rfl⟩

/-- A search that comes to a grid as fine as the unit of the neighbourhood ends inside. -/
theorem contains_search (n k : Nat) (lt : k < n)
    (fine : (10 : ℚ) ^ (grid - k) ≤ 2 ^ interval.exponent)
    (low : interval.low < interval.centre) (high : interval.centre < interval.high) :
    interval.Contains (interval.search tie n grid).value := by
  induction n generalizing k grid with
  | zero => cases lt
  | succ n ih =>
    rw [search]
    split
    case h_1 picked => exact contains_of_pick? picked
    case h_2 missed =>
      cases k with
      | zero =>
        obtain ⟨decimal, picked⟩ : ∃ decimal, interval.pick? tie grid = some decimal :=
          exists_pick? (by simpa using fine) low high
        rw [missed] at picked
        cases picked
      | succ k =>
        refine ih k (by omega) ?_
        rwa [show grid - 1 - (k : Int) = grid - (k + 1 : Nat) by push_cast; ring]

end Interval

/-- Enough decimal digits for a power of two. -/
theorem two_pow_le_ten_pow : ∀ a : Fin 1100, 2 ^ a.val ≤ 10 ^ (a.val * 30103 / 100000 + 1) := by
  decide +kernel

/-- The shortest decimal of a number that is not whole lies around it. -/
theorem Canonical.contains_shortest {s : Nat} {e : Int} {tie : Tie} (h : Canonical s e)
    (positive : 0 < s) (small : e < 0) :
    (Interval.around s e).Contains (shortest tie s e).value := by
  have bits : s.log2 < 53 := (Nat.log2_lt positive.ne').2 h.lt
  have least := h.least
  refine Interval.contains_search 20 19 (by decide) ?_ (Interval.low_around_lt positive)
    (by simp [Interval.around])
  obtain ⟨a, isExponent⟩ : ∃ a : Nat, e - 2 = -a := ⟨(2 - e).toNat, by omega⟩
  have power : (2 : ℚ) ^ a ≤ 10 ^ (a * 30103 / 100000 + 1) := by
    exact_mod_cast two_pow_le_ten_pow ⟨a, by omega⟩
  calc (10 : ℚ) ^ ((s.log2 + 1 + e) * 30103 / 100000 + 1 - (19 : Nat))
      ≤ 10 ^ (-((a * 30103 / 100000 + 1 : Nat) : Int)) :=
        zpow_le_zpow_right₀ (by norm_num) (by omega)
    _ ≤ 2 ^ (Interval.around s e).exponent := by
        rw [show (Interval.around s e).exponent = -(a : Int) from isExponent, zpow_neg, zpow_neg,
          zpow_natCast, zpow_natCast]
        gcongr

end Lox.Number
