import MotionControl.Proofs.Numeric.Value

/-!
# Products in range

A product may be rounded to zero or to an infinity, and its nearest integer may be zero or out of
the range of a counter. The value of the product, not rounded, tells which of these it is.

* `Single.finite_mul_iff`: a product that is not rounded to an infinity.
* `Single.isPositive_mul_iff`: **a positive product of positive numbers**.
* `Single.nearestInt_mul_ne_zero_iff`: **a product that reaches an increment**.
* `Single.value_mul_bounds`: what the counter of a product tells about its value.
-/

namespace MotionControl.Single

variable {x y s : Single}

/-- The quotient is rounded to a finite number. -/
theorem nearestRank_lt_infinityRank_iff (num : Nat) :
    Grid.nearestRank fractionBits num (1 <<< unitScale) < infinityRank ↔
      (num : ℚ) / 2 ^ unitScale / 2 ^ unitScale < 2 ^ 128 - 2 ^ 103 := by
  have hlarge := Grid.nearestRank_le_iff (f := fractionBits) num (infinityRank - 1) (by decide)
    (show 0 < 1 <<< unitScale by decide)
  have hmid : Grid.units fractionBits (infinityRank - 1) +
      Grid.units fractionBits (infinityRank - 1 + 1) = (2 ^ 25 - 1) * 2 ^ 253 := by
    decide
  have hodd : (infinityRank - 1) % 2 = 1 := by decide
  rw [hmid, hodd, Nat.one_shiftLeft] at hlarge
  rw [Nat.one_shiftLeft]
  generalize Grid.nearestRank fractionBits num (2 ^ unitScale) = rank at *
  have hscale : (0 : ℚ) < 2 ^ unitScale := by positivity
  have hquotient : (num : ℚ) / 2 ^ unitScale / 2 ^ unitScale < 2 ^ 128 - 2 ^ 103 ↔
      num < (2 ^ 25 - 1) * 2 ^ 253 * 2 ^ 148 := by
    rw [div_lt_iff₀ hscale, div_lt_iff₀ hscale, ← Nat.cast_lt (α := ℚ)]
    norm_num [unitScale]
  rw [hquotient]
  norm_num [unitScale, infinityRank] at hlarge ⊢
  omega

/-- The quotient is not rounded to zero. -/
theorem nearestRank_ne_zero_iff (num : Nat) :
    Grid.nearestRank fractionBits num (1 <<< unitScale) ≠ 0 ↔
      1 / 2 ^ 150 < (num : ℚ) / 2 ^ unitScale / 2 ^ unitScale := by
  have hsmall := Grid.nearestRank_le_iff (f := fractionBits) num 0 (by decide)
    (show 0 < 1 <<< unitScale by decide)
  have hmid : Grid.units fractionBits 0 + Grid.units fractionBits (0 + 1) = 1 := by decide
  rw [hmid, Nat.one_shiftLeft] at hsmall
  rw [Nat.one_shiftLeft]
  generalize Grid.nearestRank fractionBits num (2 ^ unitScale) = rank at *
  have hscale : (0 : ℚ) < 2 ^ unitScale := by positivity
  have hquotient : 1 / 2 ^ 150 < (num : ℚ) / 2 ^ unitScale / 2 ^ unitScale ↔ 2 ^ 148 < num := by
    rw [lt_div_iff₀ hscale, lt_div_iff₀ hscale, ← Nat.cast_lt (α := ℚ)]
    norm_num [unitScale]
  rw [hquotient]
  norm_num [unitScale] at hsmall ⊢
  omega

/-! ## Finite and positive products -/

/-- **A product is finite exactly if its value is not rounded to an infinity.** -/
theorem finite_mul_iff (hx : x.rank < infinityRank) (hy : y.rank < infinityRank) :
    (x * y).rank < infinityRank ↔ |x.value * y.value| < 2 ^ 128 - 2 ^ 103 := by
  have hnonneg : (0 : ℚ) ≤
      ((x.magnitude * y.magnitude : Nat) : ℚ) / 2 ^ unitScale / 2 ^ unitScale := by positivity
  rw [value_mul_value, abs_mul, abs_unit, one_mul, abs_of_nonneg hnonneg,
    ← nearestRank_lt_infinityRank_iff, mul_eq_nearest hx hy, nearest, rank_ofRank]
  omega

/-- A product of positive numbers, in terms of the grid. -/
theorem mul_of_isPositive (hx : x.isPositive = true) (hy : y.isPositive = true) :
    x * y = nearest false (x.magnitude * y.magnitude) (1 <<< unitScale) ∧
      x.value * y.value =
        ((x.magnitude * y.magnitude : Nat) : ℚ) / 2 ^ unitScale / 2 ^ unitScale := by
  obtain ⟨hxfinite, hxsign, -⟩ := isPositive_iff.1 hx
  obtain ⟨hyfinite, hysign, -⟩ := isPositive_iff.1 hy
  have hmul := mul_eq_nearest hxfinite hyfinite
  have hvalue := value_mul_value x y
  rw [hxsign, hysign] at hmul hvalue
  exact ⟨hmul, hvalue.trans (one_mul _)⟩

/-- A value above zero that is rounded neither to zero nor to an infinity. -/
def KeepsPositive (q : ℚ) : Prop := 1 / 2 ^ 150 < q ∧ q < 2 ^ 128 - 2 ^ 103

/-- **A product of positive numbers is positive exactly if its value is neither rounded to zero nor
to an infinity.** -/
theorem isPositive_mul_iff (hx : x.isPositive = true) (hy : y.isPositive = true) :
    (x * y).isPositive = true ↔ KeepsPositive (x.value * y.value) := by
  unfold KeepsPositive
  obtain ⟨hmul, hvalue⟩ := mul_of_isPositive hx hy
  rw [isPositive_iff, hmul, hvalue, nearest, isNegative_ofRank, rank_ofRank,
    ← nearestRank_ne_zero_iff, ← nearestRank_lt_infinityRank_iff]
  have hpos : 0 < infinityRank := by decide
  simp only [true_and]
  omega

/-! ## The counter of a product -/

/-- A value above zero that is not rounded to less than a half. -/
def ReachesOne (q : ℚ) : Prop := 1 / 2 - 1 / 2 ^ 26 ≤ q

/-- **A product of positive numbers reaches an increment** exactly if it is not rounded to less than
a half. -/
theorem nearestInt_mul_ne_zero_iff (hx : x.isPositive = true) (hy : y.isPositive = true) :
    (x * y).nearestInt ≠ 0 ↔ ReachesOne (x.value * y.value) := by
  unfold ReachesOne
  obtain ⟨hmul, hvalue⟩ := mul_of_isPositive hx hy
  have hsign : (x * y).isNegative = false := by rw [hmul, nearest, isNegative_ofRank]
  have hunits : (x * y).units = (x * y).magnitude := by
    rw [units, hsign]
    rfl
  have hhalf : Grid.units fractionBits 0x3f000000 = 2 ^ 148 := by decide
  have hreach : (x * y).nearestInt ≠ 0 ↔ 0x3f000000 ≤ (x * y).rank := by
    have horder : 2 ^ 148 ≤ (x * y).magnitude ↔ 0x3f000000 ≤ (x * y).rank := by
      rw [← hhalf, magnitude]
      refine ⟨fun hle => ?_, fun hle => Grid.units_mono hle⟩
      by_contra hlt
      exact absurd hle (Nat.not_le.2 (Grid.units_lt (Nat.lt_of_not_le hlt)))
    rw [← horder, nearestInt_eq, hunits]
    norm_num only [unitScale]
    omega
  rw [hreach, hvalue, hmul, nearest, rank_ofRank]
  generalize x.magnitude * y.magnitude = num
  have hbelow := Grid.nearestRank_le_iff (f := fractionBits) num 0x3effffff (by decide)
    (show 0 < 1 <<< unitScale by decide)
  have hmid : Grid.units fractionBits 0x3effffff + Grid.units fractionBits (0x3effffff + 1) =
      (2 ^ 25 - 1) * 2 ^ 124 := by decide
  rw [hmid, Nat.one_shiftLeft] at hbelow
  rw [Nat.one_shiftLeft]
  generalize Grid.nearestRank fractionBits num (2 ^ unitScale) = rank at *
  have hscale : (0 : ℚ) < 2 ^ unitScale := by positivity
  have hquotient : 1 / 2 - 1 / 2 ^ 26 ≤ (num : ℚ) / 2 ^ unitScale / 2 ^ unitScale ↔
      (2 ^ 25 - 1) * 2 ^ 124 * 2 ^ 148 ≤ num := by
    rw [le_div_iff₀ hscale, le_div_iff₀ hscale, ← Nat.cast_le (α := ℚ)]
    norm_num [unitScale]
  rw [hquotient]
  norm_num [unitScale, infinityRank] at hbelow ⊢
  omega

/-- **A displacement in either direction is some increments** exactly if its length reaches one. -/
theorem toCounter_sign_mul_ne_zero_iff (direction : Direction) (hx : x.isPositive = true)
    (hs : s.isPositive = true) :
    (direction.sign * x * s).toCounter ≠ 0 ↔ ReachesOne (x.value * s.value) := by
  obtain ⟨hxfinite, -, -⟩ := isPositive_iff.1 hx
  obtain ⟨hsfinite, -, -⟩ := isPositive_iff.1 hs
  obtain ⟨hrank, hsign⟩ := sign_mul direction hxfinite
  have hfinite : (direction.sign * x).rank < infinityRank := by rwa [hrank]
  have hnearest : (direction.sign * x * s).nearestInt =
      if decide (direction = .negative) then -(x * s).nearestInt else (x * s).nearestInt := by
    rw [mul_eq_nearest hxfinite hsfinite, mul_eq_nearest hfinite hsfinite,
      magnitude_eq_of_rank hrank]
    refine nearestInt_of_rank ?_ ?_
    · rw [nearest, nearest, rank_ofRank, rank_ofRank]
    · rw [nearest, nearest, isNegative_ofRank, isNegative_ofRank, hsign, Bool.bne_assoc]
  rw [toCounter_eq_saturate (isNaN_mul (not_nan_of_rank hfinite).1 hs), hnearest,
    ← nearestInt_mul_ne_zero_iff hx hs]
  unfold saturate counterMin counterMax
  split <;> omega

/-- The counter of an infinite product is the last one on the side of its sign. -/
theorem toCounter_mul_of_infinite (hx : x.rank < infinityRank) (hs : s.isPositive = true)
    (h : ¬ (x * s).rank < infinityRank) :
    (x * s).toCounter = if x.isNegative then counterMin else counterMax := by
  obtain ⟨hfinite, hsign, -⟩ := isPositive_iff.1 hs
  have hmul := mul_eq_nearest hx hfinite
  have hinfinite : (x * s).isInfinite = true := by
    rw [hmul, nearest, rank_ofRank] at h
    rw [isInfinite, hmul, nearest, rank_ofRank, beq_iff_eq]
    omega
  have hnegative : (x * s).isNegative = x.isNegative := by
    rw [hmul, nearest, isNegative_ofRank, hsign, Bool.bne_false]
  rw [toCounter, isNaN_mul (not_nan_of_rank hx).1 hs, hinfinite, hnegative]
  rfl

/-- A product with a positive number has the sign of the other factor. -/
theorem value_mul_eq_unit_mul (x : Single) (hs : s.isPositive = true) :
    x.value * s.value = unit x.isNegative * |x.value * s.value| := by
  have hnonneg : (0 : ℚ) ≤
      ((x.magnitude * s.magnitude : Nat) : ℚ) / 2 ^ unitScale / 2 ^ unitScale := by positivity
  obtain ⟨-, hsign, -⟩ := isPositive_iff.1 hs
  rw [value_mul_value, abs_mul, abs_unit, one_mul, abs_of_nonneg hnonneg, hsign, Bool.bne_false]

/-- **What the counter of a product tells about its value**: a counter below the last one is an
upper bound, and one above the first a lower bound, up to a half and the error of rounding. -/
theorem value_mul_bounds (hx : x.rank < infinityRank) (hs : s.isPositive = true) :
    ((x * s).toCounter < counterMax →
        x.value * s.value ≤
          (x * s).toCounter + 1 / 2 + (1 / 2 ^ 150 + |x.value * s.value| / 2 ^ 24)) ∧
      (counterMin < (x * s).toCounter →
        (x * s).toCounter - 1 / 2 - (1 / 2 ^ 150 + |x.value * s.value| / 2 ^ 24) ≤
          x.value * s.value) := by
  by_cases hrange : (x * s).rank < infinityRank
  · have hcounter := toCounter_eq_saturate (isNaN_mul (not_nan_of_rank hx).1 hs)
    obtain ⟨hlow, hhigh⟩ := abs_le.1 (rounds_mul hrange).error_le
    obtain ⟨hlow', hhigh'⟩ := abs_le.1 (abs_nearestInt_sub_le (x * s))
    constructor
    · intro hlt
      have hle : (x * s).nearestInt ≤ (x * s).toCounter := by
        rw [hcounter] at hlt ⊢
        unfold saturate at hlt ⊢
        omega
      have hcast : ((x * s).nearestInt : ℚ) ≤ (x * s).toCounter := Int.cast_le.2 hle
      linarith
    · intro hlt
      have hle : (x * s).toCounter ≤ (x * s).nearestInt := by
        rw [hcounter] at hlt ⊢
        unfold saturate at hlt ⊢
        omega
      have hcast : ((x * s).toCounter : ℚ) ≤ (x * s).nearestInt := Int.cast_le.2 hle
      linarith
  · -- the value of an infinite product is far beyond the counters, on the side of its sign
    have hlarge := hrange
    rw [finite_mul_iff hx (isPositive_iff.1 hs).1, not_lt] at hlarge
    have hsigned := value_mul_eq_unit_mul x hs
    rw [toCounter_mul_of_infinite hx hs hrange]
    generalize |x.value * s.value| = size at *
    rw [hsigned]
    cases x.isNegative with
    | true =>
      refine ⟨fun _ => ?_, fun hlt => absurd hlt (lt_irrefl _)⟩
      norm_num [unit, counterMin] at hlarge ⊢
      linarith
    | false =>
      refine ⟨fun hlt => absurd hlt (lt_irrefl _), fun _ => ?_⟩
      norm_num [unit, counterMax] at hlarge ⊢
      linarith

end MotionControl.Single
