/-!
# The grid of binary floating-point magnitudes

A binary format with `f` fraction bits has one smallest positive magnitude, its *unit*, and every
finite magnitude is a whole number of units. Numbering the magnitudes `0, 1, 2, …` in increasing
order gives each its *rank*, which is also its exponent and fraction fields read as one number.

* `units` is the size of the magnitude of a rank, in units.
* `nearestRank` is the rank nearest to an exact quotient, a tie going to the even rank.
-/

namespace MotionControl.Grid

/-- The number of units in the magnitude of rank `rank`: below `2 ^ f` the ranks step by one unit,
and the step doubles with every further `2 ^ f` ranks. -/
def units (f rank : Nat) : Nat :=
  if rank < 1 <<< f then rank else (1 <<< f + rank % 1 <<< f) <<< (rank / 1 <<< f - 1)

/-- The step between neighbouring magnitudes around `n` units, as a power of two. -/
def stepExponent (f n : Nat) : Nat := n.log2 - f

/-- The rank nearest to `num / den` units. The quotient is cut to whole steps of the binade it
falls in; what is left over decides whether the next rank is nearer. -/
def nearestRank (f num den : Nat) : Nat :=
  let e := stepExponent f (num / den)
  let step := den <<< e
  let whole := num / step
  let rest := num % step
  let up := step < 2 * rest || (step == 2 * rest && whole % 2 == 1)
  e <<< f + (if up then whole + 1 else whole)

end MotionControl.Grid
