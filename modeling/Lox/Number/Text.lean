import Lox.Number.Shortest

/-!
# Decimal text of numbers

Numbers are written in several places of the program, each with its own conventions. A `Style`
collects the conventions; `Style.write` writes a number by them.

## Main definitions

* `Number.positional`, `Number.scientific`: the two ways to write a decimal.
* `Number.Style`, `Number.Style.write`: the text of a number.
* `Number.wholeText`: the exact digits of a whole number.
-/

namespace Lox.Number

/-- Digits with a decimal point after the first `point` of them, filled up with zeros on either
side; `mark` stands after a whole number. -/
def positional (mark : String) (digits : List Char) (point : Int) : String :=
  if point ≤ 0 then
    "0." ++ String.ofList (List.replicate (-point).toNat '0' ++ digits)
  else
    let whole := digits.take point.toNat
    let zeros := List.replicate (point.toNat - digits.length) '0'
    match digits.drop point.toNat with
    | [] => String.ofList (whole ++ zeros) ++ mark
    | fraction => String.ofList whole ++ "." ++ String.ofList fraction

/-- One digit before the decimal point, the others behind it, and a signed exponent. -/
def scientific (digits : List Char) (point : Int) : String :=
  let exponent := point - 1
  let power := (if exponent < 0 then "e-" else "e+") ++ toString exponent.natAbs
  match digits with
  | [] => "0" ++ power
  | [digit] => digit.toString ++ power
  | digit :: fraction => digit.toString ++ "." ++ String.ofList fraction ++ power

/-- How numbers are written. -/
structure Style where
  /-- The choice between two shortest decimals at the same distance. -/
  tie : Tie
  /-- What follows the digits of a whole number in positional form. -/
  mark : String
  /-- Whether a number whose decimal point stands after this many digits is positional. -/
  isPositional : Int → Bool
  /-- The text of an infinity, without its sign. -/
  infinity : String
  /-- The text of the number that is not a number. -/
  undefined : String

/-- The text of a number: a sign, and the shortest digits that read back. -/
def Style.write (style : Style) (x : Float) : String :=
  let sign (negative : Bool) : String := if negative then "-" else ""
  match binary x with
  | .undefined => style.undefined
  | .infinite negative => sign negative ++ style.infinity
  | .finite negative 0 _ => sign negative ++ "0" ++ style.mark
  | .finite negative significand exponent =>
    let decimal := shortest style.tie significand exponent
    let digits := Nat.toDigits 10 decimal.coefficient
    let point := digits.length + decimal.exponent
    sign negative ++
      if style.isPositional point then positional style.mark digits point
      else scientific digits point

/-- The plain style: always positional, nothing after a whole number, halves upward. -/
def Style.plain : Style where
  tie := .up
  mark := ""
  isPositional := fun _ => true
  infinity := "inf"
  undefined := "NaN"

/-- The exact digits of a whole number, with its sign. -/
def wholeText (x : Float) : String :=
  (if (binary x).isNegative then "-" else "") ++ toString (binary x).natAbs

end Lox.Number
