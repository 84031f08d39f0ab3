import MotionControl.Proofs.Numeric.Value

/-!
# Sums between numbers

Rounding keeps the order of sums and leaves the numbers where they are. A sum that lies between two
numbers is therefore rounded to one that does, and a number that is below a rounded difference is
below the difference itself.

* `Single.roundUnits`: a number of units, rounded; `roundUnits_mono`, `roundUnits_units`.
* `Single.add_between`: **a sum between two numbers stays between them.**
* `Single.finite_add`: a sum that is hardly larger than a finite number.
* `Single.magnitude_lt_of_lt_abs_sub`: **what is below a rounded difference is below the exact
  one.**
* `Single.step_between`: a step towards a number that is not nearer.
* `Single.magnitude_round`: the nearest integer is a number.
-/

namespace MotionControl

/-- A magnitude of the grid is not rounded. -/
theorem Grid.nearestRank_units (f rank : Nat) : nearestRank f (units f rank) 1 = rank := by
  obtain ⟨hdvd, hrank⟩ := exactRank_units f rank
  have hexact := nearestRank_of_dvd Nat.one_pos hdvd
  rwa [Nat.mul_one, hrank] at hexact

namespace Single

variable {x y : Single} {m n : Int}

/-! ## Numbers of units -/

/-- The magnitude next to a number of units, without an end of the range. -/
def roundMagnitude (n : Nat) : Nat :=
  Grid.units fractionBits (Grid.nearestRank fractionBits n 1)

/-- A number of units, rounded. -/
def roundUnits (n : Int) : Int :=
  if n < 0 then -(roundMagnitude n.natAbs : Int) else roundMagnitude n.natAbs

theorem nearestRank_le_of_le {m n : Nat} (h : m ≤ n) :
    Grid.nearestRank fractionBits m 1 ≤ Grid.nearestRank fractionBits n 1 :=
  Grid.nearestRank_mono (by decide) Nat.one_pos Nat.one_pos (by rwa [Nat.mul_one, Nat.mul_one])

theorem roundMagnitude_mono {m n : Nat} (h : m ≤ n) : roundMagnitude m ≤ roundMagnitude n :=
  Grid.units_mono (nearestRank_le_of_le h)

/-- **Rounding keeps the order.** -/
theorem roundUnits_mono (h : m ≤ n) : roundUnits m ≤ roundUnits n := by
  unfold roundUnits
  split <;> split
  · have hmagnitude := roundMagnitude_mono (show n.natAbs ≤ m.natAbs by omega)
    omega
  · omega
  · omega
  · have hmagnitude := roundMagnitude_mono (show m.natAbs ≤ n.natAbs by omega)
    omega

/-- Rounding keeps the order in a direction. -/
theorem roundUnits_towards (direction : Direction) (h : 0 ≤ direction.toInt * (n - m)) :
    0 ≤ direction.toInt * (roundUnits n - roundUnits m) := by
  cases direction with
  | negative =>
    simp only [Direction.toInt] at h ⊢
    have hmono : roundUnits n ≤ roundUnits m := roundUnits_mono (by omega)
    omega
  | positive =>
    simp only [Direction.toInt] at h ⊢
    have hmono : roundUnits m ≤ roundUnits n := roundUnits_mono (by omega)
    omega

theorem natAbs_units (x : Single) : x.units.natAbs = x.magnitude := by
  unfold units
  split <;> omega

theorem nearestRank_magnitude (x : Single) :
    Grid.nearestRank fractionBits x.magnitude 1 = x.rank :=
  Grid.nearestRank_units fractionBits x.rank

/-- **A number stays where it is.** -/
theorem roundUnits_units (x : Single) : roundUnits x.units = x.units := by
  have hmagnitude : roundMagnitude x.magnitude = x.magnitude := by
    rw [roundMagnitude, nearestRank_magnitude, magnitude]
  rw [roundUnits, natAbs_units, hmagnitude, ← natAbs_units]
  split <;> omega

/-! ## Sums -/

/-- The sum of finite numbers, in terms of the grid. -/
theorem rank_add (hx : x.rank < infinityRank) (hy : y.rank < infinityRank) :
    (x + y).rank =
      min (Grid.nearestRank fractionBits (x.units + y.units).natAbs 1) infinityRank := by
  obtain ⟨hxn, hxi⟩ := not_nan_of_rank hx
  obtain ⟨hyn, hyi⟩ := not_nan_of_rank hy
  show (Single.add x y).rank = _
  simp only [add, hxn, hyn, hxi, hyi, Bool.or_self, Bool.false_eq_true, if_false]
  split
  · rename_i hzero
    rw [hzero, zero, rank_ofRank]
    decide
  · rw [nearest, rank_ofRank]

/-- The sum of finite numbers is negative if their exact sum is. -/
theorem isNegative_add (hx : x.rank < infinityRank) (hy : y.rank < infinityRank)
    (hne : x.units + y.units ≠ 0) : (x + y).isNegative = decide (x.units + y.units < 0) := by
  obtain ⟨hxn, hxi⟩ := not_nan_of_rank hx
  obtain ⟨hyn, hyi⟩ := not_nan_of_rank hy
  show (Single.add x y).isNegative = _
  simp only [add, hxn, hyn, hxi, hyi, hne, Bool.or_self, Bool.false_eq_true, if_false, nearest,
    isNegative_ofRank]

/-- **A finite sum is the exact sum, rounded.** -/
theorem units_add (hx : x.rank < infinityRank) (hy : y.rank < infinityRank)
    (hsum : (x + y).rank < infinityRank) : (x + y).units = roundUnits (x.units + y.units) := by
  have hrank := rank_add hx hy
  rw [hrank] at hsum
  have hmagnitude : (x + y).magnitude = roundMagnitude (x.units + y.units).natAbs := by
    rw [magnitude, hrank, roundMagnitude]
    congr 1
    omega
  by_cases hzero : x.units + y.units = 0
  · have hnone : roundMagnitude 0 = 0 := by decide
    rw [hzero, Int.natAbs_zero, hnone] at hmagnitude
    rw [units, hmagnitude, hzero, roundUnits, Int.natAbs_zero, hnone]
    split <;> rfl
  · rw [units, isNegative_add hx hy hzero, hmagnitude, roundUnits]
    simp only [decide_eq_true_eq]

/-- **A sum that lies between two numbers stays between them.** -/
theorem add_between {low high : Single} (hlow : low.rank < infinityRank)
    (hhigh : high.rank < infinityRank) (hx : x.rank < infinityRank) (hy : y.rank < infinityRank)
    (habove : low.units ≤ x.units + y.units) (hbelow : x.units + y.units ≤ high.units) :
    (x + y).rank < infinityRank ∧ low.units ≤ (x + y).units ∧ (x + y).units ≤ high.units := by
  have hsum : (x + y).rank < infinityRank := by
    have hmagnitude : (x.units + y.units).natAbs ≤ low.magnitude ∨
        (x.units + y.units).natAbs ≤ high.magnitude := by
      rw [← natAbs_units, ← natAbs_units]
      omega
    rw [rank_add hx hy]
    rcases hmagnitude with hle | hle
    · have hrank := nearestRank_le_of_le hle
      rw [nearestRank_magnitude] at hrank
      omega
    · have hrank := nearestRank_le_of_le hle
      rw [nearestRank_magnitude] at hrank
      omega
  refine ⟨hsum, ?_, ?_⟩
  · rw [units_add hx hy hsum, ← roundUnits_units low]
    exact roundUnits_mono habove
  · rw [units_add hx hy hsum, ← roundUnits_units high]
    exact roundUnits_mono hbelow

/-- A sum that is not larger than a finite number by more than half of the last step is finite. -/
theorem finite_add {last : Single} (hlast : last.rank < infinityRank) (hx : x.rank < infinityRank)
    (hy : y.rank < infinityRank)
    (h : (x.units + y.units).natAbs < last.magnitude + 2 ^ 252) : (x + y).rank < infinityRank := by
  have hend : Grid.units fractionBits (infinityRank - 1) = (2 ^ 24 - 1) * 2 ^ 253 ∧
      Grid.units fractionBits (infinityRank - 1 + 1) = 2 ^ 24 * 2 ^ 253 := by decide
  have hmagnitude : last.magnitude ≤ (2 ^ 24 - 1) * 2 ^ 253 := by
    rw [← hend.1]
    exact Grid.units_mono (Nat.le_sub_one_of_lt hlast)
  have hrank : Grid.nearestRank fractionBits (x.units + y.units).natAbs 1 ≤ infinityRank - 1 := by
    refine (Grid.nearestRank_le_iff _ _ (by decide) Nat.one_pos).2 (.inl ?_)
    rw [hend.1, hend.2]
    omega
  have hpos : 0 < infinityRank := by decide
  rw [rank_add hx hy]
  omega

/-- A counter is not rounded up beyond the range of counters. -/
theorem magnitude_ofInt_le {n : Int} (hn : n.natAbs ≤ 2 ^ 31) :
    (ofInt n).magnitude ≤ 2 ^ 31 * 2 ^ unitScale := by
  have hmagnitude : (ofInt n).magnitude = roundMagnitude (n.natAbs <<< unitScale) := by
    rw [magnitude, ofInt, rank_nearest (finite_ofInt hn), roundMagnitude]
  have hmono : n.natAbs <<< unitScale ≤ 2 ^ 31 * 2 ^ unitScale := by
    rw [Nat.shiftLeft_eq]
    exact Nat.mul_le_mul_right _ hn
  have hlast : roundMagnitude (2 ^ 31 * 2 ^ unitScale) = 2 ^ 31 * 2 ^ unitScale := by decide
  rw [hmagnitude, ← hlast]
  exact roundMagnitude_mono hmono

/-- A counter that is added to a finite number leaves a finite number. -/
theorem finite_add_ofInt (hx : x.rank < infinityRank) (hn : n.natAbs ≤ 2 ^ 31) :
    (x + ofInt n).rank < infinityRank := by
  have hsmall := magnitude_ofInt_le hn
  rw [← natAbs_units] at hsmall
  refine finite_add hx hx (finite_ofInt hn) ?_
  rw [← natAbs_units]
  norm_num only [unitScale] at hsmall
  omega

/-! ## Differences -/

theorem rank_sub (hx : x.rank < infinityRank) (hy : y.rank < infinityRank) :
    (x - y).rank =
      min (Grid.nearestRank fractionBits (x.units - y.units).natAbs 1) infinityRank := by
  have hadd := rank_add hx (by rwa [rank_neg] : (-y).rank < infinityRank)
  rwa [units_neg, ← Int.sub_eq_add_neg] at hadd

theorem isNegative_sub (hx : x.rank < infinityRank) (hy : y.rank < infinityRank)
    (hne : x.units ≠ y.units) : (x - y).isNegative = decide (x.units < y.units) := by
  have hadd := isNegative_add hx (by rwa [rank_neg] : (-y).rank < infinityRank)
    (by rw [units_neg]; omega)
  rw [units_neg] at hadd
  refine hadd.trans (decide_eq_decide.2 ?_)
  omega

theorem isNaN_sub (hx : x.rank < infinityRank) (hy : y.rank < infinityRank) :
    (x - y).isNaN = false := by
  rw [isNaN, rank_sub hx hy]
  exact decide_eq_false (by omega)

/-- **What is below a rounded difference is below the exact one.** -/
theorem magnitude_lt_of_lt_abs_sub {s : Single} (hx : x.rank < infinityRank)
    (hy : y.rank < infinityRank) (hsign : s.isNegative = false) (h : s < (x - y).abs) :
    s.rank < infinityRank ∧ s.magnitude < (x.units - y.units).natAbs := by
  have hlt : s.lt (x - y).abs = true := h
  simp only [lt, place, isNegative_abs, hsign, rank_abs, rank_sub hx hy, Bool.false_eq_true,
    if_false, Bool.and_eq_true, decide_eq_true_eq] at hlt
  refine ⟨by omega, Nat.lt_of_not_le fun hle => ?_⟩
  have hrank := nearestRank_le_of_le hle
  rw [nearestRank_magnitude] at hrank
  omega

theorem abs_value_sub (x y : Single) :
    |x.value - y.value| = ((x.units - y.units).natAbs : ℚ) / 2 ^ unitScale := by
  have hscale : (0 : ℚ) < 2 ^ unitScale := by positivity
  rw [value, value, ← sub_div, abs_div, abs_of_pos hscale, Nat.cast_natAbs, Int.cast_abs,
    Int.cast_sub]

/-- Whether a distance is below another one, in units. -/
theorem abs_value_sub_lt_iff {b : Single} (hb : b.isNegative = false) :
    |x.value - y.value| < b.value ↔ (x.units - y.units).natAbs < b.magnitude := by
  have hscale : (0 : ℚ) < 2 ^ unitScale := by positivity
  rw [abs_value_sub, value_eq_of_not_negative hb, div_lt_div_iff_of_pos_right hscale, Nat.cast_lt]

/-! ## Order -/

/-- **A smaller number has a smaller value.** -/
theorem units_lt_of_lt (h : x < y) : x.units < y.units := by
  have hlt : x.lt y = true := h
  simp only [lt, Bool.and_eq_true, decide_eq_true_eq] at hlt
  obtain ⟨-, hplace⟩ := hlt
  unfold place at hplace
  have hmono {a b : Nat} (hab : a < b) := Grid.units_lt (f := fractionBits) hab
  -- by the signs: the order of the magnitudes turns on the negative side
  unfold units magnitude
  cases hx : x.isNegative <;> cases hy : y.isNegative <;>
    simp only [hx, hy, Bool.false_eq_true, if_false, if_true] at hplace ⊢
  · have hmagnitude := hmono (Int.ofNat_lt.1 hplace)
    omega
  · omega
  · -- one of them is not zero
    rcases Nat.eq_zero_or_pos x.rank with hzero | hpos
    · have hmagnitude := hmono (show x.rank < y.rank by omega)
      omega
    · have hmagnitude := hmono hpos
      omega
  · have hmagnitude := hmono (show y.rank < x.rank by omega)
    omega

/-- The order of numbers that are none is empty. -/
theorem not_lt_of_isNaN (h : x.isNaN = true ∨ y.isNaN = true) : ¬ x < y := by
  intro hlt
  have hlt : x.lt y = true := hlt
  simp only [lt, Bool.and_eq_true, Bool.not_eq_true'] at hlt
  rcases h with h | h
  · rw [h] at hlt
    exact Bool.noConfusion hlt.1.1
  · rw [h] at hlt
    exact Bool.noConfusion hlt.1.2

theorem lt_of_le_eq_false (hx : x.isNaN = false) (hy : y.isNaN = false) (h : x.le y = false) :
    y < x := by
  simp only [le, hx, hy, Bool.not_false, Bool.true_and, decide_eq_false_iff_not, Int.not_le] at h
  show y.lt x = true
  simp [lt, hx, hy, h]

/-! ## Steps towards a number -/

/-- **A step towards a number that is not nearer** ends between where it begins and that number. -/
theorem step_between {s : Single} (hx : x.rank < infinityRank) (hy : y.rank < infinityRank)
    (hs : s.rank < infinityRank) (hstep : s.magnitude ≤ (y.units - x.units).natAbs) :
    (x + s.withSignOf (y - x)).rank < infinityRank ∧
      min x.units y.units ≤ (x + s.withSignOf (y - x)).units ∧
      (x + s.withSignOf (y - x)).units ≤ max x.units y.units := by
  have hsigned : (s.withSignOf (y - x)).rank < infinityRank := by rwa [rank_withSignOf]
  have hunits := units_withSignOf s (y - x)
  by_cases hsame : y.units = x.units
  · -- there is no way to go, and so no step
    have hnone : s.magnitude = 0 := by omega
    have hzero : (s.withSignOf (y - x)).units = 0 := by
      rw [hunits, hnone]
      split <;> rfl
    have hbetween := add_between hx hx hx hsigned (by omega) (by omega)
    omega
  rw [isNegative_sub hy hx hsame] at hunits
  simp only [decide_eq_true_eq] at hunits
  rcases Int.lt_or_gt_of_ne hsame with hlt | hgt
  · rw [if_pos hlt] at hunits
    have hbetween := add_between hy hx hx hsigned (by omega) (by omega)
    omega
  · rw [if_neg (by omega)] at hunits
    have hbetween := add_between hx hy hx hsigned (by omega) (by omega)
    omega

/-! ## Numbers that are none -/

/-- A quotient by a positive number is a number. -/
theorem isNaN_div (hx : x.isNaN = false) (hy : y.isPositive = true) :
    (x / y).isNaN = false := by
  obtain ⟨hyfinite, -, hyrank⟩ := isPositive_iff.1 hy
  obtain ⟨hyn, hyi⟩ := not_nan_of_rank hyfinite
  show (Single.div x y).isNaN = false
  simp only [div, hx, hyn, hyi, hyrank, Bool.or_self, Bool.false_eq_true, if_false]
  split <;> exact isNaN_ofRank

/-! ## Nearest integers -/

theorem isNegative_round (x : Single) : x.round.isNegative = x.isNegative := by
  unfold Single.round
  split
  · exact isNegative_ofRank
  · rfl

theorem natAbs_nearestInt (x : Single) :
    x.nearestInt.natAbs = (x.magnitude + 2 ^ (unitScale - 1)) / 2 ^ unitScale := by
  unfold nearestInt
  rw [Nat.shiftRight_eq_div_pow, Nat.one_shiftLeft]
  generalize (x.magnitude + 2 ^ (unitScale - 1)) / 2 ^ unitScale = n
  dsimp only
  split <;> omega

/-- From `2 ^ 23` on a number is an integer. -/
theorem dvd_magnitude_of_large (h : 2 ^ (fractionBits + unitScale) ≤ x.magnitude) :
    2 ^ unitScale ∣ x.magnitude := by
  have hne : x.magnitude ≠ 0 := by
    have hpos := Nat.two_pow_pos (fractionBits + unitScale)
    omega
  have hlog : fractionBits + unitScale ≤ x.magnitude.log2 := (Nat.le_log2 hne).2 h
  have hstep : unitScale ≤ Grid.stepExponent fractionBits x.magnitude := by
    unfold Grid.stepExponent
    omega
  exact Nat.dvd_trans (Nat.pow_dvd_pow 2 hstep) (Grid.exactRank_units fractionBits x.rank).1

/-- **The nearest integer is a number**: small integers are, and a large number is an integer
itself. -/
theorem magnitude_round (hx : x.rank < infinityRank) :
    x.round.rank < infinityRank ∧ x.round.magnitude = x.nearestInt.natAbs * 2 ^ unitScale := by
  have hfinite : x.isFinite = true := decide_eq_true hx
  have hround : x.round = nearest x.isNegative (x.nearestInt.natAbs * 2 ^ unitScale) 1 := by
    rw [round, if_pos hfinite, Nat.shiftLeft_eq]
  rcases Nat.lt_or_ge x.magnitude (2 ^ (fractionBits + unitScale)) with hsmall | hlarge
  · have hnearest : x.nearestInt.natAbs ≤ 2 ^ 24 := by
      rw [natAbs_nearestInt]
      norm_num only [fractionBits, unitScale] at hsmall ⊢
      omega
    have hwhole := isWhole_nearest x.isNegative Nat.one_pos hnearest
    rw [Nat.mul_one, ← hround] at hwhole
    exact ⟨hwhole.finite, hwhole.magnitude⟩
  · -- rounding to an integer changes nothing
    obtain ⟨k, hk⟩ := dvd_magnitude_of_large hlarge
    have hsame : x.nearestInt.natAbs * 2 ^ unitScale = x.magnitude := by
      rw [natAbs_nearestInt, hk]
      norm_num only [unitScale]
      omega
    have hrank : x.round.rank = x.rank := by
      rw [hround, hsame, nearest, rank_ofRank, nearestRank_magnitude]
      omega
    exact ⟨by rwa [hrank], by rw [hsame, magnitude_eq_of_rank hrank]⟩

theorem magnitude_round_le (hx : x.rank < infinityRank) :
    x.round.magnitude ≤ x.magnitude + 2 ^ (unitScale - 1) := by
  rw [(magnitude_round hx).2, natAbs_nearestInt]
  exact Nat.div_mul_le_self ..

end Single

end MotionControl
