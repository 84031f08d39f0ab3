import MotionControl.Numeric.Numeral

/-!
# Whole numbers

* `parseWhole?` reads a number without a minus sign, `parseInteger?` one with any sign.
-/

namespace MotionControl

/-- Reads a text of digits, of which there is at least one. -/
def parseDigits? (text : List Char) : Option Nat :=
  if !text.isEmpty && text.all Char.isDigit then some (digitsValue text) else none

/-- Reads a whole number below `bound`, which may have a plus sign. -/
def parseWhole? (bound : Nat) (text : String) : Option Nat :=
  let digits := match text.toList with
    | '+' :: rest => rest
    | rest => rest
  (parseDigits? digits).filter (· < bound)

/-- Reads a whole number below `bound`, which may have a sign; a minus sign goes with zero only. -/
def parseInteger? (bound : Nat) (text : String) : Option Nat :=
  let (isNegative, digits) := Numeral.splitSign text.toList
  (parseDigits? digits).filter fun n => n < bound && (!isNegative || n == 0)

end MotionControl
