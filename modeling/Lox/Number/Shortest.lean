import Lox.Number.Binary

/-!
# Shortest decimals

The decimals that read back as a given number fill an interval around it. The shortest text of the
number is a point of the coarsest decimal grid that meets this interval, and of the points of that
grid the one nearest to the number.

## Main definitions

* `Number.Interval`: the decimals that read back as a number, in exact arithmetic.
* `Number.Decimal`: a natural number of units of a power of ten.
* `Number.shortest`: the shortest decimal that reads back.
-/

namespace Lox.Number

/-- The decimal `coefficient · 10 ^ exponent`. -/
structure Decimal where
  coefficient : Nat
  exponent : Int
  deriving Repr, DecidableEq

/-- What is taken when a number lies halfway between two decimals. -/
inductive Tie where
  | up
  | even
  deriving Repr, DecidableEq

/-- The neighbourhood of a number: `centre`, `low` and `high` count units of `2 ^ exponent`, and
the two ends belong to it if it is `closed`. -/
structure Interval where
  low : Nat
  centre : Nat
  high : Nat
  exponent : Int
  closed : Bool
  deriving Repr, DecidableEq

/-- The reals that round to `significand · 2 ^ exponent`. They reach half way to the two
neighbours; the neighbour below a power of two is nearer, unless it has the same exponent. A tie
between two numbers goes to the even significand. -/
def Interval.around (significand : Nat) (exponent : Int) : Interval where
  low :=
    if significand = powerOfTwo 52 ∧ exponent ≠ -1074 then 4 * significand - 1
    else 4 * significand - 2
  centre := 4 * significand
  high := 4 * significand + 2
  exponent := exponent - 2
  closed := significand % 2 = 0

/-- The quotient of `2 ^ two` by `10 ^ ten` as a fraction of natural numbers. -/
def scale (two ten : Int) : Nat × Nat :=
  (powerOfTwo two.toNat * powerOfTen (-ten).toNat, powerOfTwo (-two).toNat * powerOfTen ten.toNat)

/-- The point of the grid of `10 ^ grid` that stands for the number: of its two neighbours on the
grid the nearest that lies in the interval. -/
def Interval.pick? (interval : Interval) (tie : Tie) (grid : Int) : Option Decimal :=
  let (num, den) := scale interval.exponent grid
  let centre := interval.centre * num
  let contains (c : Nat) : Bool :=
    let point := c * den
    if interval.closed then interval.low * num ≤ point && point ≤ interval.high * num
    else interval.low * num < point && point < interval.high * num
  let below := centre / den
  let above := below + 1
  let rest := 2 * (centre % den)
  let preferAbove := den < rest || (rest == den && (tie == .up || above % 2 == 0))
  if contains below && !(preferAbove && contains above) then some ⟨below, grid⟩
  else if contains above then some ⟨above, grid⟩
  else none

/-- The first point found on the grids of `10 ^ grid`, `10 ^ (grid - 1)`, and so on. -/
def Interval.search (interval : Interval) (tie : Tie) : Nat → Int → Decimal
  | 0, grid => ⟨interval.centre * (scale interval.exponent grid).1 /
      (scale interval.exponent grid).2, grid⟩
  | n + 1, grid =>
    match interval.pick? tie grid with
    | some decimal => decimal
    | none => interval.search tie n (grid - 1)

/-- The shortest decimal that reads back as the positive number `significand · 2 ^ exponent`, and
of those the nearest. The search begins at a power of ten above the number, since
`2 ^ n ≤ 10 ^ (n · 30103 / 100000 + 1)`; seventeen digits are always enough. -/
def shortest (tie : Tie) (significand : Nat) (exponent : Int) : Decimal :=
  let bits : Int := significand.log2 + 1 + exponent
  (Interval.around significand exponent).search tie 20 (bits * 30103 / 100000 + 1)

end Lox.Number
