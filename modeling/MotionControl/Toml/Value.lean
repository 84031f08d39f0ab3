import MotionControl.Numeric.Numeral

/-!
# TOML values

What a TOML document holds. Numbers with a fraction or an exponent are read in double precision
and kept in single precision.
-/

namespace MotionControl.Toml

/-- A TOML value. Tables keep the order of their keys. -/
inductive Value where
  | string (text : String)
  | integer (n : Int)
  | float (x : Single)
  | boolean (b : Bool)
  /-- A date, a time or both, as it is written. -/
  | datetime (text : String)
  | array (items : List Value)
  | table (entries : List (String × Value))

namespace Value

/-- The text of a string. -/
def string? : Value → Option String
  | string text => some text
  | _ => none

/-- An integer from `low` to `high`. -/
def integerWithin? (low high : Int) : Value → Option Int
  | integer n => if low ≤ n ∧ n ≤ high then some n else none
  | _ => none

/-- A natural number below `bound`. -/
def natBelow? (bound : Nat) (value : Value) : Option Nat :=
  (value.integerWithin? 0 (bound - 1)).map Int.toNat

/-- A number; an integer stands for the number nearest to it. -/
def single? : Value → Option Single
  | integer n => some (.ofInt n)
  | float x => some x
  | _ => none

/-- The items of an array. -/
def array? : Value → Option (List Value)
  | array items => some items
  | _ => none

/-- The value of a key of a table. -/
def get? (key : String) : Value → Option Value
  | table entries => entries.lookup key
  | _ => none

end Value

end MotionControl.Toml
