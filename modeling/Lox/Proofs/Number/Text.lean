import Lox.Number.Text
import Lox.Number.Reading
import Lox.Tree.Printer
import Lox.Proofs.Number.Shortest
import Mathlib.Data.List.TakeWhile
import Mathlib.Data.Nat.Cast.Field

/-!
# The text of a number determines it

A text of digits and a dot has a value. The text of a finite number, without its sign, has a value
around the number, which is the number itself if it is whole. No other number is around that value,
so that distinct finite numbers have distinct texts.

## Main definitions

* `Number.Numeral`: digits with or without a fraction, and their value.

## Main results

* `Literal.toList_text_number`: the text of a finite number is its sign and a numeral around it.
* `Literal.number_injective`: the text of a finite number determines it.
-/

namespace Lox.Number

/-! ### Numbers and their exact values -/

namespace Binary

variable {bits bits' s : Nat} {negative : Bool} {e : Int}

/-- The fields of a word that stands for a finite number. -/
theorem fields_of_ofBits (h : ofBits bits = .finite negative s e) :
    (bits / 2 ^ 63 % 2 = 1 ↔ negative = true) ∧
      ((bits / 2 ^ 52 % 2 ^ 11 = 0 ∧ s = bits % 2 ^ 52 ∧ e = -1074) ∨
        (bits / 2 ^ 52 % 2 ^ 11 ≠ 0 ∧ s = 2 ^ 52 + bits % 2 ^ 52 ∧
          e = (bits / 2 ^ 52 % 2 ^ 11 : Nat) - 1075)) := by
  unfold ofBits at h
  dsimp only [powerOfTwo, Nat.pow_eq] at h
  split at h
  · split at h <;> cases h
  split at h
  case isTrue small =>
    cases h
    exact ⟨beq_iff_eq.symm, .inl ⟨small, rfl, rfl⟩⟩
  case isFalse large =>
    cases h
    exact ⟨beq_iff_eq.symm, .inr ⟨large, rfl, rfl⟩⟩

theorem canonical_ofBits (h : ofBits bits = .finite negative s e) : Canonical s e := by
  obtain ⟨-, fields⟩ := fields_of_ofBits h
  exact ⟨by omega, by omega, by omega⟩

/-- No two words stand for one finite number. -/
theorem ofBits_injective (lt : bits < 2 ^ 64) (lt' : bits' < 2 ^ 64)
    (h : ofBits bits = .finite negative s e) (h' : ofBits bits' = .finite negative s e) :
    bits = bits' := by
  obtain ⟨sign, fields⟩ := fields_of_ofBits h
  obtain ⟨sign', fields'⟩ := fields_of_ofBits h'
  have signs : bits / 2 ^ 63 % 2 = 1 ↔ bits' / 2 ^ 63 % 2 = 1 := sign.trans sign'.symm
  omega

/-- The magnitude of a whole number is its value. -/
theorem cast_natAbs (h : isIntegral (.finite negative s e) = true) :
    ((finite negative s e).natAbs : ℚ) = s * 2 ^ e := by
  simp only [isIntegral, powerOfTwo, Nat.pow_eq, Bool.or_eq_true, decide_eq_true_eq,
    beq_iff_eq] at h
  simp only [natAbs, powerOfTwo, Nat.pow_eq]
  split
  case isTrue positive =>
    obtain ⟨n, rfl⟩ := Int.eq_ofNat_of_zero_le positive
    simp
  case isFalse negative =>
    obtain ⟨n, isExponent⟩ : ∃ n : Nat, e = -n := ⟨(-e).toNat, by omega⟩
    subst isExponent
    have divides := h.resolve_left negative
    simp only [neg_neg, Int.toNat_natCast] at divides ⊢
    rw [Nat.cast_div (Nat.dvd_of_mod_eq_zero divides) (by positivity), zpow_neg, zpow_natCast,
      div_eq_mul_inv]
    push_cast
    rfl

end Binary

theorem toBits_injective {x y : Float} (h : x.toBits = y.toBits) : x = y := by
  obtain ⟨bits, valid⟩ := x
  obtain ⟨bits', valid'⟩ := y
  obtain rfl : bits = bits' := h
  rfl

/-! ### Numerals -/

/-- Digits only. -/
def AllDigits (digits : List Char) : Prop :=
  ∀ c ∈ digits, c.isDigit = true

/-- Digits with or without a fraction, and their value. -/
inductive Numeral : List Char → ℚ → Prop
  | whole {digits : List Char} (some : digits ≠ []) (all : AllDigits digits) :
      Numeral digits (natOfDigits digits)
  | fraction {digits fraction : List Char} (some : digits ≠ []) (all : AllDigits digits)
      (all' : AllDigits fraction) : Numeral (digits ++ '.' :: fraction)
        (natOfDigits (digits ++ fraction) / 10 ^ fraction.length)

section Digits

variable {text digits fraction : List Char} {r r' : ℚ}

theorem AllDigits.ne_dot (h : AllDigits digits) : ∀ c ∈ digits, (c != '.') = true := by
  intro c inside
  rw [bne_iff_ne]
  rintro rfl
  exact absurd (h _ inside) (by decide)

theorem AllDigits.append (h : AllDigits digits) (h' : AllDigits fraction) :
    AllDigits (digits ++ fraction) :=
  fun c inside => (List.mem_append.1 inside).elim (h c) (h' c)

theorem allDigits_toDigits (n : Nat) : AllDigits (Nat.toDigits 10 n) :=
  fun _ inside => Nat.isDigit_of_mem_toDigits (by decide) (by decide) inside

theorem allDigits_zeros (n : Nat) : AllDigits (List.replicate n '0') := by
  intro c inside
  rw [List.eq_of_mem_replicate inside]
  rfl

theorem natOfDigits_toDigits (n : Nat) : natOfDigits (Nat.toDigits 10 n) = n :=
  Nat.ofDigitChars_ten_toDigits

theorem natOfDigits_append_zeros (n : Nat) :
    natOfDigits (digits ++ List.replicate n '0') = natOfDigits digits * 10 ^ n := by
  rw [Nat.mul_comm]
  exact (Nat.ofDigitChars_append 0).trans Nat.ofDigitChars_replicate_zero

theorem natOfDigits_zeros_append (n : Nat) :
    natOfDigits (List.replicate n '0' ++ digits) = natOfDigits digits := by
  refine (Nat.ofDigitChars_append 0).trans ?_
  rw [Nat.ofDigitChars_replicate_zero, Nat.mul_zero]
  rfl

/-- The value of digits and a dot. -/
def textValue (text : List Char) : ℚ :=
  let fraction := (text.dropWhile (· != '.')).tail
  natOfDigits (text.takeWhile (· != '.') ++ fraction) / 10 ^ fraction.length

theorem Numeral.value_eq (h : Numeral text r) : textValue text = r := by
  cases h with
  | whole _ all =>
    have rest : text.dropWhile (· != '.') = [] := List.dropWhile_eq_nil_iff.2 all.ne_dot
    have whole : text.takeWhile (· != '.') = text := List.takeWhile_eq_self_iff.2 all.ne_dot
    simp [textValue, rest, whole]
  | fraction _ all _ =>
    simp [textValue, List.takeWhile_append_of_pos all.ne_dot,
      List.dropWhile_append_of_pos all.ne_dot]

/-- A numeral has one value. -/
theorem Numeral.unique (h : Numeral text r) (h' : Numeral text r') : r = r' :=
  h.value_eq.symm.trans h'.value_eq

/-- A numeral begins with a digit, and digits and dots follow. -/
theorem Numeral.exists_cons (h : Numeral text r) : ∃ c rest, text = c :: rest ∧
    c.isDigit = true ∧ ∀ d ∈ rest, d.isDigit = true ∨ d = '.' := by
  have spread {digits : List Char} (fraction : List Char) (some : digits ≠ [])
      (all : AllDigits digits) (rest : ∀ d ∈ fraction, d.isDigit = true ∨ d = '.') :
      ∃ c rest, digits ++ fraction = c :: rest ∧ c.isDigit = true ∧
        ∀ d ∈ rest, d.isDigit = true ∨ d = '.' := by
    obtain ⟨c, more, rfl⟩ := List.exists_cons_of_ne_nil some
    rw [AllDigits, List.forall_mem_cons] at all
    refine ⟨c, more ++ fraction, rfl, all.1, fun d inside => ?_⟩
    exact (List.mem_append.1 inside).elim (fun inside => .inl (all.2 d inside)) (rest d)
  cases h with
  | whole some all => simpa using spread [] some all (by simp)
  | fraction some all all' =>
    refine spread _ some all fun d inside => ?_
    exact (List.mem_cons.1 inside).elim .inr fun inside => .inl (all' d inside)

/-- Digits behind the decimal point, and zeros between. -/
theorem numeral_below (all : AllDigits digits) (zeros : Nat) :
    Numeral ("0." ++ String.ofList (List.replicate zeros '0' ++ digits)).toList
      (natOfDigits digits * 10 ^ (-(zeros : Int) - digits.length)) := by
  have text : ("0." ++ String.ofList (List.replicate zeros '0' ++ digits)).toList =
      List.replicate 1 '0' ++ '.' :: (List.replicate zeros '0' ++ digits) := by simp
  have value : (natOfDigits digits : ℚ) * 10 ^ (-(zeros : Int) - digits.length) =
      natOfDigits (List.replicate 1 '0' ++ (List.replicate zeros '0' ++ digits)) /
        10 ^ (List.replicate zeros '0' ++ digits).length := by
    rw [natOfDigits_zeros_append, natOfDigits_zeros_append, List.length_append,
      List.length_replicate, div_eq_mul_inv, ← zpow_natCast, ← zpow_neg]
    congr 2
    push_cast
    ring
  rw [text, value]
  exact .fraction (by decide) (allDigits_zeros 1) ((allDigits_zeros zeros).append all)

/-- Digits before the decimal point, and zeros between. -/
theorem numeral_above (some : digits ≠ []) (all : AllDigits digits) {n : Nat}
    (short : digits.length ≤ n) :
    Numeral (digits ++ List.replicate (n - digits.length) '0')
      (natOfDigits digits * 10 ^ ((n : Int) - digits.length)) := by
  have value : (natOfDigits digits : ℚ) * 10 ^ ((n : Int) - digits.length) =
      natOfDigits (digits ++ List.replicate (n - digits.length) '0') := by
    rw [natOfDigits_append_zeros, ← Nat.cast_sub short, zpow_natCast]
    push_cast
    rfl
  rw [value]
  exact .whole (by simp [some]) (all.append (allDigits_zeros _))

/-- Digits with the decimal point among them. -/
theorem numeral_within (all : AllDigits digits) {n : Nat} (start : digits.take n ≠ [])
    (long : n ≤ digits.length) :
    Numeral (digits.take n ++ '.' :: digits.drop n)
      (natOfDigits digits * 10 ^ ((n : Int) - digits.length)) := by
  have value : (natOfDigits digits : ℚ) * 10 ^ ((n : Int) - digits.length) =
      natOfDigits (digits.take n ++ digits.drop n) / 10 ^ (digits.drop n).length := by
    rw [List.take_append_drop, List.length_drop, div_eq_mul_inv, ← zpow_natCast, ← zpow_neg,
      Nat.cast_sub long, neg_sub]
  rw [value]
  exact .fraction start (fun c inside => all c (List.mem_of_mem_take inside))
    (fun c inside => all c (List.mem_of_mem_drop inside))

/-- Digits with a decimal point anywhere are a numeral. -/
theorem numeral_positional (some : digits ≠ []) (all : AllDigits digits) (point : Int) :
    Numeral (positional "" digits point).toList
      (natOfDigits digits * 10 ^ (point - digits.length)) := by
  unfold positional
  split
  case isTrue small =>
    obtain ⟨zeros, rfl⟩ : ∃ zeros : Nat, point = -zeros := ⟨(-point).toNat, by omega⟩
    rw [neg_neg, Int.toNat_natCast]
    exact numeral_below all zeros
  case isFalse large =>
    obtain ⟨n, rfl⟩ := Int.eq_ofNat_of_zero_le (by omega : 0 ≤ point)
    simp only [Int.toNat_natCast]
    split
    case h_1 rest =>
      have short : digits.length ≤ n := List.drop_eq_nil_iff.1 rest
      have text : (String.ofList (digits.take n ++ List.replicate (n - digits.length) '0') ++
          "").toList = digits ++ List.replicate (n - digits.length) '0' := by
        simp [List.take_of_length_le short]
      exact text ▸ numeral_above some all short
    case h_2 nonempty =>
      have long : n ≤ digits.length := by
        by_contra short
        exact nonempty (List.drop_eq_nil_of_le (by omega))
      have text : (String.ofList (digits.take n) ++ "." ++ String.ofList (digits.drop n)).toList =
          digits.take n ++ '.' :: digits.drop n := by simp
      have start : digits.take n ≠ [] := by
        rw [Ne, List.take_eq_nil_iff]
        simp [some]
        omega
      exact text ▸ numeral_within all start long

/-- A whole number with one decimal place is a numeral. -/
theorem numeral_whole (n : Nat) : Numeral (toString n ++ ".0").toList n := by
  have text : (toString n ++ ".0").toList =
      Nat.toDigits 10 n ++ '.' :: List.replicate 1 '0' := by
    simp [Nat.toList_repr]
  have value : (n : ℚ) = natOfDigits (Nat.toDigits 10 n ++ List.replicate 1 '0') /
      10 ^ (List.replicate 1 '0').length := by
    rw [natOfDigits_append_zeros, natOfDigits_toDigits]
    simp
  rw [text, value]
  exact .fraction Nat.toDigits_ne_nil (allDigits_toDigits n) (allDigits_zeros 1)

end Digits

end Number

/-! ### The text of a number -/

namespace Literal

open Number

variable {x y : Float} {s : Nat} {negative : Bool} {e : Int}

/-- The text of a finite number: a sign, and a numeral whose value lies around the number. -/
theorem toList_text_number (h : binary x = .finite negative s e) :
    ∃ text r, (Literal.number x).text.toList = (if negative then ['-'] else []) ++ text ∧
      Numeral text r ∧ (Interval.around s e).Contains r := by
  have canonical : Canonical s e := Binary.canonical_ofBits h
  have sign : (if negative then "-" else "").toList = if negative then ['-'] else [] := by
    cases negative <;> rfl
  simp only [Literal.text]
  split
  case isTrue whole =>
    rw [h] at whole
    refine ⟨_, _, ?_, numeral_whole (Binary.finite negative s e).natAbs, ?_⟩
    · rw [wholeText, h, String.append_assoc, String.toList_append, ← sign]
      rfl
    · rw [Binary.cast_natAbs whole]
      exact Canonical.contains_self
  case isFalse broken =>
    rw [h] at broken
    have positive : 0 < s := by
      refine Nat.pos_of_ne_zero ?_
      rintro rfl
      exact broken (by simp [Binary.isIntegral])
    have small : e < 0 := by
      by_contra large
      exact broken (by simp [Binary.isIntegral, not_lt.1 large])
    have inside : (Interval.around s e).Contains (shortest .up s e).value :=
      canonical.contains_shortest positive small
    have written : Style.plain.write x = (if negative then "-" else "") ++
        positional "" (Nat.toDigits 10 (shortest .up s e).coefficient)
          ((Nat.toDigits 10 (shortest .up s e).coefficient).length +
            (shortest .up s e).exponent) := by
      obtain ⟨s, rfl⟩ := Nat.exists_eq_succ_of_ne_zero positive.ne'
      rw [Style.write, h]
      rfl
    generalize shortest .up s e = decimal at inside written
    refine ⟨_, _, by rw [written, String.toList_append, sign],
      numeral_positional Nat.toDigits_ne_nil (allDigits_toDigits _) _, ?_⟩
    rwa [add_sub_cancel_left, natOfDigits_toDigits]

/-- The text of a finite number determines it. -/
theorem number_injective {negative' : Bool} {s' : Nat} {e' : Int}
    (h : binary x = .finite negative s e) (h' : binary y = .finite negative' s' e')
    (same : (Literal.number x).text = (Literal.number y).text) : x = y := by
  obtain ⟨text, r, isText, numeral, inside⟩ := toList_text_number h
  obtain ⟨text', r', isText', numeral', inside'⟩ := toList_text_number h'
  have texts : (if negative then ['-'] else []) ++ text =
      (if negative' then ['-'] else []) ++ text' := by
    rw [← isText, ← isText', same]
  obtain ⟨c, rest, rfl, digit, -⟩ := numeral.exists_cons
  obtain ⟨c', rest', rfl, digit', -⟩ := numeral'.exists_cons
  have unsigned {d : Char} (digit : d.isDigit = true) : d ≠ '-' := by
    rintro rfl
    exact absurd digit (by decide)
  obtain ⟨rfl, same⟩ : negative = negative' ∧ c :: rest = c' :: rest' := by
    cases negative <;> cases negative' <;> simp_all
  rw [numeral.unique (same ▸ numeral')] at inside
  obtain ⟨rfl, rfl⟩ :=
    (Binary.canonical_ofBits h).unique (Binary.canonical_ofBits h') inside inside'
  exact toBits_injective (UInt64.toNat_inj.1
    (Binary.ofBits_injective x.toBits.toNat_lt y.toBits.toNat_lt h h'))

end Literal

end Lox
