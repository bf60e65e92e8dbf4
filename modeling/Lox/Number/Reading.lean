/-!
# Reading numbers

A decimal is read as the nearest number, halves going to the even significand. Beyond the greatest
number this is an infinity, and below half of the least one it is zero.

## Main definitions

* `Number.ofDecimal`: the number nearest to `coefficient · 10 ^ exponent`.
* `Number.ofDigits`: the number written by digits and a fraction.
* `Number.ofText?`: the number written with sign, fraction and exponent, or by the name of an
  infinity or of the number that is not a number.
-/

namespace Lox.Number

/-- The natural number written by decimal digits. -/
def natOfDigits (digits : List Char) : Nat :=
  digits.foldl (fun n c => 10 * n + (c.toNat - '0'.toNat)) 0

/-- The number nearest to `coefficient · 10 ^ exponent`. A coefficient of `n` digits lies below
`10 ^ n`, so that very large and very small exponents decide the result by themselves. -/
def ofDecimal (coefficient : Nat) (exponent : Int) : Float :=
  let digits : Int := coefficient.log2 * 30103 / 100000 + 1
  if coefficient = 0 || digits + exponent < -400 then 0.0
  else if 400 < exponent then 1.0 / 0.0
  else Float.ofScientific coefficient (exponent < 0) exponent.natAbs

/-- The number with the given digits before and after the decimal point. -/
def ofDigits (whole fraction : List Char) : Float :=
  ofDecimal (natOfDigits (whole ++ fraction)) (-fraction.length)

/-- A signed whole number, for exponents. -/
def intOfText? (text : List Char) : Option Int :=
  let (negative, digits) :=
    match text with
    | '-' :: rest => (true, rest)
    | '+' :: rest => (false, rest)
    | _ => (false, text)
  if digits.isEmpty || !digits.all Char.isDigit then none
  else some (if negative then -natOfDigits digits else natOfDigits digits)

/-- The number written without a sign. -/
def magnitudeOfText? (text : List Char) : Option Float :=
  let lower := String.ofList (text.map Char.toLower)
  if lower == "inf" || lower == "infinity" then some (1.0 / 0.0)
  else if lower == "nan" then some (0.0 / 0.0)
  else
    let whole := text.takeWhile Char.isDigit
    let rest := text.dropWhile Char.isDigit
    let (fraction, rest) :=
      match rest with
      | '.' :: rest => (rest.takeWhile Char.isDigit, rest.dropWhile Char.isDigit)
      | _ => ([], rest)
    if whole.isEmpty && fraction.isEmpty then none
    else
      let exponent? : Option Int :=
        match rest with
        | [] => some 0
        | 'e' :: rest => intOfText? rest
        | 'E' :: rest => intOfText? rest
        | _ => none
      exponent?.map fun exponent =>
        ofDecimal (natOfDigits (whole ++ fraction)) (exponent - fraction.length)

/-- The number written by a text: an optional sign, then digits with an optional fraction and an
optional exponent, or `inf`, `infinity` or `nan` in any case. -/
def ofText? (text : String) : Option Float :=
  match text.toList with
  | '-' :: rest => (magnitudeOfText? rest).map fun x => -x
  | '+' :: rest => magnitudeOfText? rest
  | rest => magnitudeOfText? rest

end Lox.Number
