import MotionControl.Numeric.Single

/-!
# Decimal numerals

A `Numeral` is an exact decimal number `± significand · 10 ^ exponent`.

* `Numeral.parse?` reads an optional sign, digits around an optional point with at least one digit
  on some side of it, and an optional exponent.
* `Numeral.toSingle` is the single precision number nearest to it; `Numeral.toSingleViaDouble`
  rounds to double precision first.
* `Single.fixedPieces` writes a number with a fixed count of decimals.
-/

namespace MotionControl

/-- The digits of a decimal numeral read as one number. -/
def digitsValue (digits : List Char) : Nat :=
  digits.foldl (fun n c => 10 * n + (c.toNat - '0'.toNat)) 0

/-- An exact decimal number. -/
structure Numeral where
  isNegative : Bool
  significand : Nat
  exponent : Int
deriving DecidableEq, Repr

namespace Numeral

/-- Splits off a leading sign; without one the number is not negative. -/
def splitSign : List Char → Bool × List Char
  | '-' :: rest => (true, rest)
  | '+' :: rest => (false, rest)
  | rest => (false, rest)

/-- Splits off the leading digits. -/
def splitDigits (text : List Char) : List Char × List Char :=
  (text.takeWhile Char.isDigit, text.dropWhile Char.isDigit)

/-- Reads what follows the digits: nothing, or an exponent of at least one digit. -/
def parseExponent? : List Char → Option Int
  | [] => some 0
  | c :: rest =>
    if c = 'e' ∨ c = 'E' then
      let (negative, rest) := splitSign rest
      let (digits, rest) := splitDigits rest
      if digits.isEmpty || !rest.isEmpty then none
      else some (if negative then -(digitsValue digits : Int) else digitsValue digits)
    else none

/-- Splits off a decimal fraction, if a point starts one. -/
def splitFraction : List Char → List Char × List Char
  | '.' :: rest => splitDigits rest
  | rest => ([], rest)

/-- Reads a whole text as a numeral. -/
def parse? (text : List Char) : Option Numeral :=
  let (negative, rest) := splitSign text
  let (whole, rest) := splitDigits rest
  let (fraction, rest) := splitFraction rest
  if whole.isEmpty && fraction.isEmpty then none
  else (parseExponent? rest).map fun exponent =>
    { isNegative := negative
      significand := digitsValue (whole ++ fraction)
      exponent := exponent - fraction.length }

/-- Above this power of ten every number overflows and below its inverse every one vanishes, in
single and in double precision. -/
def exponentLimit : Int := 400

/-- The rank nearest to a numeral's magnitude on the grid with `f` fraction bits on which one is
`2 ^ scale` units. A significand `m` is below `10 ^ (log₂ m + 1)`. -/
def nearestRank (f scale infinityRank : Nat) (x : Numeral) : Nat :=
  if x.significand = 0 then 0
  else if exponentLimit < x.exponent then infinityRank
  else if x.exponent + (x.significand.log2 + 1) < -exponentLimit then 0
  else if 0 ≤ x.exponent then
    min infinityRank
      (Grid.nearestRank f ((x.significand * Nat.pow 10 x.exponent.toNat) <<< scale) 1)
  else
    min infinityRank (Grid.nearestRank f (x.significand <<< scale) (Nat.pow 10 (-x.exponent).toNat))

/-- The nearest single precision number. -/
def toSingle (x : Numeral) : Single :=
  .ofRank x.isNegative (nearestRank Single.fractionBits Single.unitScale Single.infinityRank x)

/-- The number of fraction bits in double precision. -/
def doubleFractionBits : Nat := 52

/-- One is `2 ^ doubleUnitScale` units in double precision. -/
def doubleUnitScale : Nat := 1074

/-- The rank of infinity in double precision. -/
def doubleInfinityRank : Nat := 0x7ff0000000000000

/-- The rank of the nearest double precision magnitude. -/
def doubleRank (x : Numeral) : Nat :=
  nearestRank doubleFractionBits doubleUnitScale doubleInfinityRank x

/-- The single precision number nearest to the double precision number nearest to a numeral, as a
reader gets it that works in double precision. -/
def toSingleViaDouble (x : Numeral) : Single :=
  let rank := x.doubleRank
  if doubleInfinityRank ≤ rank then .infinity x.isNegative
  else .nearest x.isNegative (Grid.units doubleFractionBits rank)
    (1 <<< (doubleUnitScale - Single.unitScale))

end Numeral

/-- A literal such as `0.2` is the single precision number nearest to it. -/
instance : OfScientific Single where
  ofScientific significand negativeExponent exponent :=
    Numeral.toSingle
      { isNegative := false
        significand
        exponent := if negativeExponent then -(exponent : Int) else exponent }

namespace Single

/-- `n` zeros. -/
def zeros (n : Nat) : String := "".pushn '0' n

/-- The magnitude of a finite number times `10 ^ places`, rounded to an integer, a half going to
the even one. -/
def scaledDecimal (places : Nat) (x : Single) : Nat :=
  let exact := x.magnitude * Nat.pow 10 places
  let whole := exact >>> unitScale
  let rest := exact % (1 <<< unitScale)
  let half := 1 <<< (unitScale - 1)
  if half < rest || (rest == half && whole % 2 == 1) then whole + 1 else whole

/-- The pieces in which a number with `places` decimals is written: a minus sign if the sign bit is
set, then whole part, point and decimals, or below one the zeros and the other digits. -/
def fixedPieces (places : Nat) (x : Single) : List String :=
  if x.isNaN then ["NaN"]
  else
    let sign := if x.isNegative then ["-"] else []
    if x.isInfinite then sign ++ ["inf"]
    else
      let n := x.scaledDecimal places
      let whole := n / Nat.pow 10 places
      let decimals := n % Nat.pow 10 places
      let digits := Nat.repr decimals
      if 0 < whole then sign ++ [Nat.repr whole, ".", zeros (places - digits.length) ++ digits]
      else if decimals = 0 then sign ++ ["0.", zeros places]
      else sign ++ ["0.", zeros (places - digits.length), digits]

end Single

end MotionControl
