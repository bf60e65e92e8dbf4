import Lox.Number.Reading
import Lox.Number.Binary
import Mathlib

/-!
# Numerals are numbers

A row of digits with or without a fraction stands for a finite number or for an infinity. Reading
one multiplies or divides a finite number by a finite power of ten and rounds, and none of these
steps leads out of the numbers.

## Main definitions

* `IsValue`: a number is not the one that is no number.

## Main results

* `isValue_ofDigits`, `binary_ofDigits_ne_undefined`: what the digits of a numeral stand for.
-/

namespace Lox.Number

open Float.Model

/-- A number that has a value, finite or infinite. -/
def IsValue (x : Float) : Prop :=
  x.toModel.unpack ≠ .notANumber

/-! ### Words of bits -/

theorem unpack_eq_notANumber_iff (b : BitVec Format.binary64.numBits) :
    UnpackedFloat.unpack Format.binary64 b = .notANumber ↔
      UnpackedFloat.unpackExponent b = -1#11 ∧ UnpackedFloat.unpackMantissa b ≠ 0#52 := by
  unfold UnpackedFloat.unpack
  by_cases exponent : UnpackedFloat.unpackExponent b = -1#11
  · by_cases mantissa : UnpackedFloat.unpackMantissa b = 0#52 <;> simp [exponent, mantissa]
  · refine iff_of_false ?_ fun h => exponent h.1
    dsimp only
    rw [if_neg exponent]
    split
    · split <;> simp
    · simp

theorem binary_ne_undefined {x : Float} (h : IsValue x) : binary x ≠ .undefined := by
  rw [IsValue, Float.Model.unpack, Ne, unpack_eq_notANumber_iff, not_and, not_not] at h
  have exponent :
      (@UnpackedFloat.unpackExponent Format.binary64 x.toModel.toBits.toBitVec).toNat =
        x.toBits.toNat / powerOfTwo 52 % powerOfTwo 11 := by
    rw [UnpackedFloat.unpackExponent, BitVec.toNat_cast, BitVec.extractLsb_toNat,
      Nat.shiftRight_eq_div_pow]
    rfl
  have fraction :
      (@UnpackedFloat.unpackMantissa Format.binary64 x.toModel.toBits.toBitVec).toNat =
        x.toBits.toNat % powerOfTwo 52 := by
    rw [UnpackedFloat.unpackMantissa, BitVec.toNat_cast, BitVec.extractLsb_toNat]
    rfl
  rw [binary, Binary.ofBits, ← exponent, ← fraction]
  split
  case isTrue special =>
    rw [h (BitVec.eq_of_toNat_eq special)]
    simp
  case isFalse => split <;> simp

theorem isValue_pack {f : UnpackedFloat} (h : f ≠ .notANumber) : IsValue ⟨pack f⟩ := by
  rw [IsValue, Float.Model.unpack, Ne, unpack_eq_notANumber_iff]
  rintro ⟨exponent, mantissa⟩
  have infinite (s : UnpackedFloat.Sign) :
      UnpackedFloat.unpackMantissa (UnpackedFloat.packedInfinity Format.binary64 s) = 0#52 :=
    UnpackedFloat.unpackMantissa_packComponents
  cases f with
  | notANumber => exact h rfl
  | infinity s => exact mantissa (infinite s)
  | zero s =>
    have zero :
        UnpackedFloat.unpackExponent (UnpackedFloat.packedZero Format.binary64 s) = 0#11 :=
      UnpackedFloat.unpackExponent_packComponents
    exact absurd (zero.symm.trans exponent) (by decide)
  | finite s m e positive =>
    simp only [pack, UnpackedFloat.pack] at exponent mantissa
    split at exponent
    case isTrue large =>
      rw [if_pos large] at mantissa
      exact mantissa (infinite s)
    case isFalse small =>
      split at exponent
      · rw [UnpackedFloat.unpackExponent_packComponents] at exponent
        have biased := congrArg BitVec.toNat exponent
        simp [Format.binary64] at biased small
        omega
      · rw [UnpackedFloat.unpackExponent_packComponents] at exponent
        exact absurd exponent (by decide)

/-! ### Rounding -/

section Unpacked

variable {f : UnpackedFloat} (s : UnpackedFloat.Sign) (m : Nat) (e : Int)

theorem roundWithAccuracy_ne (accuracy : UnpackedFloat.Accuracy) :
    UnpackedFloat.roundWithAccuracy Format.binary64 s m e accuracy ≠ .notANumber := by
  unfold UnpackedFloat.roundWithAccuracy
  dsimp only
  split <;> simp

theorem ofNat_ne : UnpackedFloat.ofNat Format.binary64 m ≠ .notANumber := by
  unfold UnpackedFloat.ofNat UnpackedFloat.ofInt UnpackedFloat.normalize
  split
  · exact roundWithAccuracy_ne _ _ _ _
  · simp
  · exact roundWithAccuracy_ne _ _ _ _

theorem mul_ne (h : f ≠ .notANumber) (positive : 0 < m) :
    UnpackedFloat.mul Format.binary64 f (.finite s m e positive) ≠ .notANumber := by
  cases f with
  | notANumber => exact absurd rfl h
  | infinity | zero => simp [UnpackedFloat.mul]
  | finite => exact roundWithAccuracy_ne _ _ _ _

theorem div_ne (h : f ≠ .notANumber) (positive : 0 < m) :
    UnpackedFloat.div Format.binary64 f (.finite s m e positive) ≠ .notANumber := by
  cases f with
  | notANumber => exact absurd rfl h
  | infinity | zero => simp [UnpackedFloat.div]
  | finite => exact roundWithAccuracy_ne _ _ _ _

theorem ofScientific_ne : UnpackedFloat.ofScientific Format.binary64 m e ≠ .notANumber := by
  unfold UnpackedFloat.ofScientific
  split
  · simp
  split
  · simp
  split
  · simp
  split
  · exact mul_ne _ _ _ (by simp) _
  · exact div_ne _ _ _ (by simp) _

end Unpacked

/-! ### Numerals -/

/-- Whether an unpacked number is finite and not zero. -/
def isRegular : UnpackedFloat → Bool
  | .finite .. => true
  | _ => false

theorem isRegular_powerOfTen : ∀ e : Fin 23,
    isRegular (Float.exactlyRepresentablePowersOfTen[e]).toModel.unpack = true := by
  decide +kernel

theorem isValue_ofScientific (coefficient : Nat) (negative : Bool) (exponent : Nat) :
    IsValue (Float.ofScientific coefficient negative exponent) := by
  unfold Float.ofScientific
  split
  case isTrue small =>
    -- A short coefficient and a small power of ten are exact, and only the last step rounds.
    have whole : coefficient.toUInt64.toFloat.toModel.unpack ≠ .notANumber :=
      isValue_pack (ofNat_ne _)
    have regular := isRegular_powerOfTen ⟨exponent, by omega⟩
    dsimp only [Fin.getElem_fin] at regular ⊢
    generalize getElem Float.exactlyRepresentablePowersOfTen exponent _ = power at regular ⊢
    cases isPower : power.toModel.unpack with
    | notANumber | infinity | zero => rw [isPower] at regular; cases regular
    | finite =>
      split
      · refine isValue_pack ?_
        rw [isPower]
        exact div_ne _ _ _ whole _
      · refine isValue_pack ?_
        rw [isPower]
        exact mul_ne _ _ _ whole _
  case isFalse => exact isValue_pack (ofScientific_ne _ _)

/-- Digits stand for a number. -/
theorem isValue_ofDigits (whole fraction : List Char) : IsValue (ofDigits whole fraction) := by
  unfold ofDigits ofDecimal
  dsimp only
  split
  · exact isValue_ofScientific 0 true 1
  · rw [if_neg (by omega)]
    exact isValue_ofScientific _ _ _

/-- Digits stand for a finite number or an infinity. -/
theorem binary_ofDigits_ne_undefined (whole fraction : List Char) :
    binary (ofDigits whole fraction) ≠ .undefined :=
  binary_ne_undefined (isValue_ofDigits whole fraction)

end Lox.Number
