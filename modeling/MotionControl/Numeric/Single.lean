import MotionControl.Numeric.Grid

/-!
# Single precision numbers

A `Single` is an IEEE 754 single precision number, held as its 32 bits. Every finite one is a whole
number of units of `2 ^ -149`, so the arithmetic is exact arithmetic on integers followed by one
rounding to the nearest number, ties to even.

* `Single.add`, `Single.sub`, `Single.mul`, `Single.div`: the exact result, rounded once.
* `Single.ofInt`: the number nearest to an integer.
* `Single.nearestInt`, `Single.round`: the nearest integer, a half going away from zero.
* `Single.toCounter`: that integer, held to the range of a 32-bit counter.
-/

namespace MotionControl

/-- A single precision number, as its sign bit, eight exponent bits and 23 fraction bits. -/
structure Single where
  bits : UInt32
deriving DecidableEq, Repr, Inhabited

namespace Single

/-- The number of fraction bits. -/
def fractionBits : Nat := 23

/-- One is `2 ^ unitScale` units. -/
def unitScale : Nat := 149

/-- The rank just above the largest finite magnitude. -/
def infinityRank : Nat := 0x7f800000

/-! ## Reading the bits -/

/-- The exponent and fraction fields as one number: the place of the magnitude among all. -/
def rank (x : Single) : Nat := x.bits.toNat % 0x80000000

/-- The sign bit. -/
def isNegative (x : Single) : Bool := 0x80000000 ≤ x.bits.toNat

def isNaN (x : Single) : Bool := infinityRank < x.rank

def isInfinite (x : Single) : Bool := x.rank == infinityRank

def isFinite (x : Single) : Bool := x.rank < infinityRank

/-- The magnitude of a finite number, in units. -/
def magnitude (x : Single) : Nat := Grid.units fractionBits x.rank

/-- The value of a finite number, in units. -/
def units (x : Single) : Int := if x.isNegative then -(x.magnitude : Int) else x.magnitude

/-! ## Building numbers -/

/-- The number with this sign and rank; a rank past the last finite one is an infinity. -/
def ofRank (negative : Bool) (rank : Nat) : Single :=
  ⟨UInt32.ofNat (min rank infinityRank + if negative then 0x80000000 else 0)⟩

/-- The number that stands for an undefined result. -/
def nan : Single := ⟨0x7fc00000⟩

def infinity (negative : Bool) : Single := ofRank negative infinityRank

def zero (negative : Bool) : Single := ofRank negative 0

/-- The number nearest to `num / den` units with the given sign. -/
def nearest (negative : Bool) (num den : Nat) : Single :=
  ofRank negative (Grid.nearestRank fractionBits num den)

/-- The number nearest to an integer. -/
def ofInt (n : Int) : Single := nearest (n < 0) (n.natAbs <<< unitScale) 1

def ofNat (n : Nat) : Single := ofInt n

instance (n : Nat) : OfNat Single n := ⟨ofNat n⟩

/-! ## Order -/

/-- Where a number stands among all numbers; both zeros stand at `0`. -/
def place (x : Single) : Int := if x.isNegative then -(x.rank : Int) else x.rank

/-- Smaller in value; no NaN is. -/
def lt (x y : Single) : Bool := !x.isNaN && !y.isNaN && x.place < y.place

/-- At most as large in value; no NaN is. -/
def le (x y : Single) : Bool := !x.isNaN && !y.isNaN && x.place ≤ y.place

/-- Equal in value: the two zeros are, and no NaN is. -/
def eqValue (x y : Single) : Bool := !x.isNaN && !y.isNaN && x.place == y.place

instance : LT Single := ⟨fun x y => x.lt y = true⟩

instance : LE Single := ⟨fun x y => x.le y = true⟩

instance (x y : Single) : Decidable (x < y) := inferInstanceAs (Decidable (x.lt y = true))

instance (x y : Single) : Decidable (x ≤ y) := inferInstanceAs (Decidable (x.le y = true))

/-- Finite and above zero. -/
def isPositive (x : Single) : Bool := x.isFinite && decide (0 < x)

/-! ## Arithmetic -/

/-- The number with the sign bit turned. -/
def neg (x : Single) : Single := ⟨x.bits ^^^ 0x80000000⟩

/-- The number with the sign bit cleared. -/
def abs (x : Single) : Single := ⟨x.bits &&& 0x7fffffff⟩

/-- The magnitude of `x` with the sign of `y`. -/
def withSignOf (x y : Single) : Single := if y.isNegative then x.abs.neg else x.abs

/-- The sum. Opposite infinities have none; an exact zero is negative only if both terms are. -/
def add (x y : Single) : Single :=
  if x.isNaN || y.isNaN then nan
  else if x.isInfinite then
    if y.isInfinite && x.isNegative != y.isNegative then nan else x
  else if y.isInfinite then y
  else
    let sum := x.units + y.units
    if sum = 0 then zero (x.isNegative && y.isNegative)
    else nearest (sum < 0) sum.natAbs 1

/-- The difference. -/
def sub (x y : Single) : Single := x.add y.neg

/-- The product. Zero times an infinity has none. -/
def mul (x y : Single) : Single :=
  let negative := x.isNegative != y.isNegative
  if x.isNaN || y.isNaN then nan
  else if x.isInfinite || y.isInfinite then
    if x.rank = 0 || y.rank = 0 then nan else infinity negative
  else nearest negative (x.magnitude * y.magnitude) (1 <<< unitScale)

/-- The quotient. Zero by zero and infinity by infinity have none; any other number by zero is
infinite. -/
def div (x y : Single) : Single :=
  let negative := x.isNegative != y.isNegative
  if x.isNaN || y.isNaN then nan
  else if x.isInfinite then
    if y.isInfinite then nan else infinity negative
  else if y.isInfinite then zero negative
  else if y.rank = 0 then
    if x.rank = 0 then nan else infinity negative
  else nearest negative (x.magnitude <<< unitScale) y.magnitude

instance : Neg Single := ⟨neg⟩

instance : Add Single := ⟨add⟩

instance : Sub Single := ⟨sub⟩

instance : Mul Single := ⟨mul⟩

instance : Div Single := ⟨div⟩

/-! ## Nearest integers -/

/-- The integer nearest to a finite number, a half going away from zero. -/
def nearestInt (x : Single) : Int :=
  let n := (x.magnitude + 1 <<< (unitScale - 1)) >>> unitScale
  if x.isNegative then -(n : Int) else n

/-- The nearest integer as a number of the same sign; NaN and the infinities stay. -/
def round (x : Single) : Single :=
  if x.isFinite then nearest x.isNegative (x.nearestInt.natAbs <<< unitScale) 1 else x

end Single

/-- The smallest value of a 32-bit counter. -/
def counterMin : Int := -2147483648

/-- The largest value of a 32-bit counter. -/
def counterMax : Int := 2147483647

/-- The value of a 32-bit counter nearest to `n`. -/
def saturate (n : Int) : Int := max counterMin (min counterMax n)

/-- The value of a 32-bit counter that differs from `n` by whole turns of the counter. -/
def wrap (n : Int) : Int := n.bmod UInt32.size

theorem wrap_of_range {n : Int} (hmin : counterMin ≤ n) (hmax : n ≤ counterMax) : wrap n = n := by
  unfold counterMin at hmin
  unfold counterMax at hmax
  refine Int.bmod_eq_of_le ?_ ?_ <;> unfold UInt32.size <;> omega

namespace Single

/-- The nearest integer, held to the range of a 32-bit counter; NaN counts as zero. -/
def toCounter (x : Single) : Int :=
  if x.isNaN then 0
  else if x.isInfinite then (if x.isNegative then counterMin else counterMax)
  else saturate x.nearestInt

end Single

end MotionControl
