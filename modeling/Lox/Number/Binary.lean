/-!
# The exact value of a number

A number of the language is a binary floating-point number of 64 bits. Its exact value is read off
the bits: a sign, a natural significand and a power of two. All text of numbers is computed from
this reading in integer arithmetic.

## Main definitions

* `Number.Binary`, `Number.binary`: the exact value of a number.
* `Number.Binary.isIntegral`, `Number.Binary.natAbs`: the whole numbers among the values.
-/

namespace Lox.Number

/-- The exact value of a number: `± significand · 2 ^ exponent`, an infinity, or no value at all. -/
inductive Binary where
  | undefined
  | infinite (negative : Bool)
  | finite (negative : Bool) (significand : Nat) (exponent : Int)
  deriving Repr, DecidableEq

/-- The powers of two. -/
abbrev powerOfTwo (n : Nat) : Nat :=
  Nat.pow 2 n

/-- The powers of ten. -/
abbrev powerOfTen (n : Nat) : Nat :=
  Nat.pow 10 n

/-- The value that a word of 64 bits stands for: one bit of sign, eleven of exponent and fifty-two
of fraction. The least exponent has no leading one, the greatest marks infinities and non-values. -/
def Binary.ofBits (bits : Nat) : Binary :=
  let negative := bits / powerOfTwo 63 % 2 == 1
  let exponent : Nat := bits / powerOfTwo 52 % powerOfTwo 11
  let fraction : Nat := bits % powerOfTwo 52
  if exponent = 2047 then
    if fraction = 0 then .infinite negative else .undefined
  else if exponent = 0 then
    .finite negative fraction (-1074)
  else
    .finite negative (powerOfTwo 52 + fraction) ((exponent : Int) - 1075)

/-- The exact value of a number. -/
def binary (x : Float) : Binary :=
  .ofBits x.toBits.toNat

/-- Whether the value is a whole number. -/
def Binary.isIntegral : Binary → Bool
  | .finite _ significand exponent =>
    0 ≤ exponent || significand % powerOfTwo (-exponent).toNat == 0
  | _ => false

/-- The magnitude of a value, cut down to a whole number. -/
def Binary.natAbs : Binary → Nat
  | .finite _ significand exponent =>
    if 0 ≤ exponent then significand * powerOfTwo exponent.toNat
    else significand / powerOfTwo (-exponent).toNat
  | _ => 0

/-- Whether the value carries a minus sign; zero may carry one. -/
def Binary.isNegative : Binary → Bool
  | .finite negative _ _ => negative
  | .infinite negative => negative
  | .undefined => false

end Lox.Number
