import MotionControl.Toml.Value

/-!
# Unquoted TOML scalars

Booleans, integers, floats, dates and times are written without quotes. `scalar?` reads the text
of one as a value.

* Integers are decimal, or hexadecimal, octal or binary with a marker, and fit into 64 bits.
* Floats have a fraction or an exponent, or are `inf` or `nan`, and do not overflow.
* Digits may be separated by single underscores.
-/

namespace MotionControl.Toml

/-! ## Digits -/

/-- The value of a digit in a base of at most 16. -/
def digitValue? (base : Nat) (c : Char) : Option Nat :=
  let value? :=
    if c.isDigit then some (c.toNat - '0'.toNat)
    else if 'a' ≤ c ∧ c ≤ 'f' then some (c.toNat - 'a'.toNat + 10)
    else if 'A' ≤ c ∧ c ≤ 'F' then some (c.toNat - 'A'.toNat + 10)
    else none
  value?.filter (· < base)

/-- Reads digits between which single underscores may stand. A digit or the start comes before
`text`; `afterDigit` tells which. -/
def digitsFrom? (base : Nat) (afterDigit : Bool) : List Char → Option (List Nat)
  | [] => if afterDigit then some [] else none
  | c :: rest =>
    if c = '_' then
      if afterDigit then digitsFrom? base false rest else none
    else
      match digitValue? base c with
      | none => none
      | some digit => (digitsFrom? base true rest).map (digit :: ·)

/-- Reads one digit or more. -/
def digits? (base : Nat) (text : List Char) : Option (List Nat) := digitsFrom? base false text

/-- The number that digits stand for. -/
def ofDigits (base : Nat) (digits : List Nat) : Nat := digits.foldl (fun n d => base * n + d) 0

/-- Reads decimal digits without a needless zero in front. -/
def wholeDigits? (text : List Char) : Option (List Nat) :=
  match digits? 10 text with
  | some (0 :: _ :: _) => none
  | digits => digits

/-! ## Numbers -/

/-- An integer that fits into 64 bits, with a sign or without one. -/
def boundedInteger? (n : Int) : Option Value :=
  if -0x8000000000000000 ≤ n ∧ n < UInt64.size then some (.integer n) else none

/-- Reads an integer. -/
def integer? : List Char → Option Value
  | '0' :: 'x' :: rest => do boundedInteger? (ofDigits 16 (← digits? 16 rest))
  | '0' :: 'o' :: rest => do boundedInteger? (ofDigits 8 (← digits? 8 rest))
  | '0' :: 'b' :: rest => do boundedInteger? (ofDigits 2 (← digits? 2 rest))
  | text => do
    let (negative, rest) := Numeral.splitSign text
    let n := ofDigits 10 (← wholeDigits? rest)
    boundedInteger? (if negative then -(n : Int) else n)

/-- The float nearest to a numeral, unless the numeral overflows double precision. -/
def boundedFloat? (x : Numeral) : Option Value :=
  if x.doubleRank < Numeral.doubleInfinityRank then some (.float x.toSingleViaDouble) else none

/-- Reads an exponent: a sign or none, and digits. -/
def exponent? (text : List Char) : Option Int := do
  let (negative, rest) := Numeral.splitSign text
  let n := ofDigits 10 (← digits? 10 rest)
  return if negative then -(n : Int) else n

/-- Reads a float without its sign. -/
def finiteFloat? (negative : Bool) (text : List Char) : Option Value := do
  let isMark (c : Char) : Bool := c == 'e' || c == 'E'
  let significand := text.takeWhile (!isMark ·)
  let exponent ←
    match text.dropWhile (!isMark ·) with
    | [] => some 0
    | _ :: rest => exponent? rest
  let whole ← wholeDigits? (significand.takeWhile (· != '.'))
  let fraction ←
    match significand.dropWhile (· != '.') with
    | [] => if text.any isMark then some [] else none
    | _ :: rest => digits? 10 rest
  boundedFloat?
    { isNegative := negative
      significand := ofDigits 10 (whole ++ fraction)
      exponent := exponent - fraction.length }

/-- Reads a float. -/
def float? (text : List Char) : Option Value :=
  let (negative, rest) := Numeral.splitSign text
  if rest = "inf".toList then some (.float (.infinity negative))
  else if rest = "nan".toList then some (.float .nan)
  else finiteFloat? negative rest

/-! ## Dates and times -/

/-- Splits off a number of exactly `n` digits. -/
def fixedDigits? (n : Nat) (text : List Char) : Option (Nat × List Char) :=
  let digits := text.take n
  if digits.length = n ∧ digits.all Char.isDigit then some (digitsValue digits, text.drop n)
  else none

/-- Splits off one character. -/
def expect? (c : Char) : List Char → Option (List Char)
  | first :: rest => if first = c then some rest else none
  | [] => none

/-- The number of days of a month. -/
def daysOfMonth (year month : Nat) : Nat :=
  if month = 2 then
    if year % 4 = 0 ∧ (year % 100 ≠ 0 ∨ year % 400 = 0) then 29 else 28
  else if month = 4 ∨ month = 6 ∨ month = 9 ∨ month = 11 then 30
  else 31

/-- Splits off a date, `YYYY-MM-DD`. -/
def splitDate? (text : List Char) : Option (List Char) := do
  let (year, rest) ← fixedDigits? 4 text
  let (month, rest) ← fixedDigits? 2 (← expect? '-' rest)
  let (day, rest) ← fixedDigits? 2 (← expect? '-' rest)
  if 1 ≤ month ∧ month ≤ 12 ∧ 1 ≤ day ∧ day ≤ daysOfMonth year month then some rest else none

/-- Splits off the seconds of a time, which may be left out. -/
def splitSeconds? : List Char → Option (List Char)
  | ':' :: rest => do
    let (second, rest) ← fixedDigits? 2 rest
    if 60 < second then none
    else
      match rest with
      | '.' :: rest =>
        if (rest.takeWhile Char.isDigit).isEmpty then none else some (rest.dropWhile Char.isDigit)
      | rest => some rest
  | rest => some rest

/-- Splits off a time, `HH:MM`, with seconds or without. -/
def splitTime? (text : List Char) : Option (List Char) := do
  let (hour, rest) ← fixedDigits? 2 text
  let (minute, rest) ← fixedDigits? 2 (← expect? ':' rest)
  if hour ≤ 23 ∧ minute ≤ 59 then splitSeconds? rest else none

/-- Splits off an offset from universal time, if one is there. -/
def splitOffset? : List Char → Option (List Char)
  | 'Z' :: rest | 'z' :: rest => some rest
  | '+' :: rest | '-' :: rest => do
    let (hour, rest) ← fixedDigits? 2 rest
    let (minute, rest) ← fixedDigits? 2 (← expect? ':' rest)
    if hour ≤ 23 ∧ minute ≤ 59 then some rest else none
  | rest => some rest

/-- Splits off the time that may follow a date. -/
def splitTimeOfDate? : List Char → Option (List Char)
  | 'T' :: rest | 't' :: rest | ' ' :: rest => do splitOffset? (← splitTime? rest)
  | rest => some rest

/-- Reads a date, a time or both. -/
def datetime? (text : List Char) : Option Value := do
  let rest ←
    match splitDate? text with
    | some rest => splitTimeOfDate? rest
    | none => splitTime? text
  if rest.isEmpty then some (.datetime (String.ofList text)) else none

/-- Reads an unquoted scalar. -/
def scalar? (text : List Char) : Option Value :=
  if text = "true".toList then some (.boolean true)
  else if text = "false".toList then some (.boolean false)
  else (integer? text).or ((float? text).or (datetime? text))

end MotionControl.Toml
