import MotionControl.Settings.Basic
import Mathlib.Tactic.Ring
import Mathlib.Tactic.Linarith

/-!
# Whole numbers in single precision

A whole number of at most 24 bits is a single precision number, and so is its product with one or
minus one: nothing is lost on the way from a counter through the arithmetic and back.

* `Grid.units_nearestRank`: a magnitude on the grid is not rounded.
* `Single.toCounter_ofInt_mul_sign`, `Single.toCounter_sign_mul_ofInt`: **a counter of at most
  `2 ^ 24` comes back from a multiplication with a sign as it was**, up to that sign.
* `Single.toCounter_mul_nonneg`: a product of positive numbers has no negative counter.
-/

namespace MotionControl

/-- The factor that turns a distance into a displacement, as an integer. -/
def Direction.toInt : Direction → Int
  | negative => -1
  | positive => 1

theorem Direction.toInt_mul_toInt_mul (direction : Direction) (n : Int) :
    direction.toInt * (direction.toInt * n) = n := by
  cases direction <;> simp [toInt]

namespace Grid

variable {f n den : Nat}

theorem units_eq (f rank : Nat) :
    units f rank =
      if rank < 2 ^ f then rank else (2 ^ f + rank % 2 ^ f) <<< (rank / 2 ^ f - 1) := by
  rw [units, Nat.one_shiftLeft]

/-- The rank of a magnitude that is a whole number of steps. -/
def exactRank (f n : Nat) : Nat := stepExponent f n <<< f + n / 2 ^ stepExponent f n

/-- A quotient on the grid leaves no rest to round. -/
theorem nearestRank_of_dvd (hden : 0 < den) (h : 2 ^ stepExponent f n ∣ n) :
    nearestRank f (n * den) den = exactRank f n := by
  obtain ⟨whole, hwhole⟩ := h
  have hpow : 0 < 2 ^ stepExponent f n := Nat.two_pow_pos _
  have hstep : 0 < den * 2 ^ stepExponent f n := Nat.mul_pos hden hpow
  have hprod : n * den = den * 2 ^ stepExponent f n * whole := by
    conv_lhs => rw [hwhole]
    ring
  have hdiv : n * den / (den * 2 ^ stepExponent f n) = n / 2 ^ stepExponent f n := by
    rw [hprod, Nat.mul_div_cancel_left whole hstep, Nat.div_eq_of_eq_mul_right hpow hwhole]
  have hmod : n * den % (den * 2 ^ stepExponent f n) = 0 := by
    rw [hprod, Nat.mul_mod_right]
  simp only [nearestRank, Nat.mul_div_cancel n hden, Nat.shiftLeft_eq den, hdiv, hmod, exactRank]
  simp [Nat.ne_of_gt hstep]

/-- The whole steps of a magnitude fit into one binade above the first. -/
theorem div_step_lt (f n : Nat) : n / 2 ^ stepExponent f n < 2 ^ (f + 1) := by
  rw [Nat.div_lt_iff_lt_mul (Nat.two_pow_pos _), ← Nat.pow_add]
  refine Nat.lt_of_lt_of_le Nat.lt_log2_self (Nat.pow_le_pow_right (by decide) ?_)
  unfold stepExponent
  omega

/-- Beyond the first binade they fill the lower half of it. -/
theorem le_div_step (h : stepExponent f n ≠ 0) : 2 ^ f ≤ n / 2 ^ stepExponent f n := by
  have hn : n ≠ 0 := by
    rintro rfl
    simp [stepExponent] at h
  rw [Nat.le_div_iff_mul_le (Nat.two_pow_pos _), ← Nat.pow_add]
  refine Nat.le_trans (Nat.pow_le_pow_right (by decide) ?_) (Nat.log2_self_le hn)
  unfold stepExponent at h ⊢
  omega

/-- The magnitude of that rank. -/
theorem units_exactRank (h : 2 ^ stepExponent f n ∣ n) : units f (exactRank f n) = n := by
  have hlt := div_step_lt f n
  have hmul : n / 2 ^ stepExponent f n * 2 ^ stepExponent f n = n := Nat.div_mul_cancel h
  have hpow : 2 ^ (f + 1) = 2 * 2 ^ f := by ring
  have hpos : 0 < 2 ^ f := Nat.two_pow_pos f
  rw [exactRank, Nat.shiftLeft_eq, units_eq]
  split
  · rename_i hsmall
    have hzero : stepExponent f n = 0 := by
      by_contra hne
      have hstep : 1 * 2 ^ f ≤ stepExponent f n * 2 ^ f :=
        Nat.mul_le_mul_right _ (Nat.one_le_iff_ne_zero.2 hne)
      have hrank := Nat.le_add_right (stepExponent f n * 2 ^ f) (n / 2 ^ stepExponent f n)
      omega
    rw [hzero]
    simp
  · rename_i hlarge
    have hfull : 2 ^ f ≤ n / 2 ^ stepExponent f n := by
      by_cases hzero : stepExponent f n = 0
      · rw [hzero] at hlarge ⊢
        omega
      · exact le_div_step hzero
    -- the whole steps start the binade after the one that the exponent names
    obtain ⟨rest, hrest⟩ := Nat.exists_eq_add_of_le hfull
    have hrank : stepExponent f n * 2 ^ f + n / 2 ^ stepExponent f n =
        rest + (stepExponent f n + 1) * 2 ^ f := by
      rw [hrest]
      ring
    have hsmall : rest < 2 ^ f := by omega
    rw [hrank, Nat.add_mul_mod_self_right, Nat.mod_eq_of_lt hsmall,
      Nat.add_mul_div_right _ _ hpos, Nat.div_eq_of_lt hsmall, Nat.zero_add, Nat.add_sub_cancel,
      ← hrest, Nat.shiftLeft_eq, hmul]

end Grid

namespace Single

/-! ## Bits -/

section Bits

variable {negative : Bool} {rank : Nat}

theorem min_infinityRank_lt (rank : Nat) : min rank infinityRank < 2 ^ 31 :=
  Nat.lt_of_le_of_lt (Nat.min_le_right ..) (by decide)

theorem toNat_ofRank :
    (ofRank negative rank).bits.toNat =
      min rank infinityRank + if negative then 2 ^ 31 else 0 := by
  have hlt := min_infinityRank_lt rank
  refine (UInt32.toNat_ofNat' ..).trans (Nat.mod_eq_of_lt ?_)
  split <;> omega

theorem rank_ofRank : (ofRank negative rank).rank = min rank infinityRank := by
  have hlt := min_infinityRank_lt rank
  rw [Single.rank, toNat_ofRank]
  split <;> omega

theorem isNegative_ofRank : (ofRank negative rank).isNegative = negative := by
  have hlt := min_infinityRank_lt rank
  rw [Single.isNegative, toNat_ofRank]
  cases negative with
  | false =>
    rw [if_neg Bool.false_ne_true]
    exact decide_eq_false (by omega)
  | true =>
    rw [if_pos rfl]
    exact decide_eq_true (by omega)

theorem isNaN_ofRank : (ofRank negative rank).isNaN = false := by
  rw [isNaN, rank_ofRank]
  exact decide_eq_false (Nat.not_lt.2 (Nat.min_le_right ..))

end Bits

/-! ## Whole numbers -/

/-- A number is whole, with this sign and magnitude. -/
structure IsWhole (negative : Bool) (m : Nat) (x : Single) : Prop where
  finite : x.rank < infinityRank
  sign : x.isNegative = negative
  magnitude : x.magnitude = m * 2 ^ unitScale

/-- A whole number of at most 24 bits is on the grid. -/
theorem dvd_of_le {m : Nat} (hm : m ≤ 2 ^ 24) :
    Grid.stepExponent fractionBits (m * 2 ^ unitScale) ≤ 150 ∧
      2 ^ Grid.stepExponent fractionBits (m * 2 ^ unitScale) ∣ m * 2 ^ unitScale := by
  rcases Nat.eq_or_lt_of_le hm with rfl | hlt
  · rw [← Nat.pow_add, Grid.stepExponent, Nat.log2_two_pow]
    exact ⟨by decide, Nat.pow_dvd_pow 2 (by decide)⟩
  · have hlog : (m * 2 ^ unitScale).log2 < 173 := by
      by_cases hzero : m * 2 ^ unitScale = 0
      · rw [hzero]
        decide
      · rw [Nat.log2_lt hzero, show (173 : Nat) = 24 + unitScale from rfl, Nat.pow_add]
        exact Nat.mul_lt_mul_of_pos_right hlt (Nat.two_pow_pos _)
    have hstep : Grid.stepExponent fractionBits (m * 2 ^ unitScale) ≤ unitScale := by
      unfold Grid.stepExponent fractionBits unitScale at *
      omega
    exact ⟨Nat.le_trans hstep (by decide),
      Nat.dvd_mul_left_of_dvd (Nat.pow_dvd_pow 2 hstep) m⟩

/-- A quotient that is a whole number of at most 24 bits is not rounded. -/
theorem isWhole_nearest {m den : Nat} (negative : Bool) (hden : 0 < den) (hm : m ≤ 2 ^ 24) :
    (nearest negative (m * 2 ^ unitScale * den) den).IsWhole negative m := by
  obtain ⟨hstep, hdvd⟩ := dvd_of_le hm
  have hrank : Grid.exactRank fractionBits (m * 2 ^ unitScale) < infinityRank := by
    have hlt := Grid.div_step_lt fractionBits (m * 2 ^ unitScale)
    have hmul := Nat.mul_le_mul_right (2 ^ fractionBits) hstep
    rw [Grid.exactRank, Nat.shiftLeft_eq]
    refine Nat.lt_of_lt_of_le (Nat.add_lt_add_of_le_of_lt hmul hlt) (by decide)
  have hmin : min (Grid.exactRank fractionBits (m * 2 ^ unitScale)) infinityRank =
      Grid.exactRank fractionBits (m * 2 ^ unitScale) :=
    Nat.min_eq_left (Nat.le_of_lt hrank)
  rw [nearest, Grid.nearestRank_of_dvd hden hdvd]
  refine ⟨?_, isNegative_ofRank, ?_⟩
  · rw [rank_ofRank, hmin]
    exact hrank
  · rw [magnitude, rank_ofRank, hmin, Grid.units_exactRank hdvd]

theorem isWhole_ofInt {n : Int} (hn : n.natAbs ≤ 2 ^ 24) :
    (ofInt n).IsWhole (n < 0) n.natAbs := by
  have h := isWhole_nearest (n < 0) Nat.one_pos hn
  rw [Nat.mul_one] at h
  rw [ofInt, Nat.shiftLeft_eq]
  exact h

theorem not_nan_of_rank {x : Single} (h : x.rank < infinityRank) :
    x.isNaN = false ∧ x.isInfinite = false :=
  ⟨decide_eq_false (by omega), beq_eq_false_iff_ne.2 (by omega)⟩

theorem IsWhole.not_nan {negative : Bool} {m : Nat} {x : Single} (h : x.IsWhole negative m) :
    x.isNaN = false ∧ x.isInfinite = false :=
  not_nan_of_rank h.finite

/-- A whole number times a sign. -/
theorem IsWhole.mul {negative sign : Bool} {m : Nat} {x y : Single} (hx : x.IsWhole negative m)
    (hy : y.IsWhole sign 1) (hm : m ≤ 2 ^ 24) :
    (x * y).IsWhole (negative != sign) m ∧ (y * x).IsWhole (sign != negative) m := by
  have hone : 1 <<< unitScale = 2 ^ unitScale := Nat.shiftLeft_eq ..
  have key (b : Bool) := isWhole_nearest b (Nat.two_pow_pos unitScale) hm
  obtain ⟨hxn, hxi⟩ := hx.not_nan
  obtain ⟨hyn, hyi⟩ := hy.not_nan
  constructor
  · show (Single.mul x y).IsWhole _ _
    simp only [Single.mul, hxn, hxi, hyn, hyi, hx.sign, hy.sign, hx.magnitude, hy.magnitude, hone,
      Nat.one_mul, Bool.or_self, Bool.false_eq_true, if_false]
    exact key _
  · show (Single.mul y x).IsWhole _ _
    simp only [Single.mul, hxn, hxi, hyn, hyi, hx.sign, hy.sign, hx.magnitude, hy.magnitude, hone,
      Nat.one_mul, Bool.or_self, Bool.false_eq_true, if_false]
    rw [Nat.mul_comm (2 ^ unitScale)]
    exact key _

/-- The counter of a whole number. -/
theorem IsWhole.toCounter {negative : Bool} {m : Nat} {x : Single} (h : x.IsWhole negative m)
    (hm : m ≤ 2 ^ 24) : x.toCounter = if negative then -(m : Int) else m := by
  obtain ⟨hnan, hinf⟩ := h.not_nan
  have hround : (m * 2 ^ unitScale + 1 <<< (unitScale - 1)) >>> unitScale = m := by
    rw [Nat.shiftRight_eq_div_pow, Nat.shiftLeft_eq, Nat.mul_comm m,
      Nat.mul_add_div (Nat.two_pow_pos _), Nat.div_eq_of_lt (by decide), Nat.add_zero]
  rw [Single.toCounter, hnan, hinf, nearestInt, h.magnitude, hround, h.sign]
  cases negative <;> simp [saturate, counterMin, counterMax] <;> omega

/-! ## Signs -/

theorem isWhole_sign (direction : Direction) :
    direction.sign.IsWhole (direction = .negative) 1 := by
  cases direction
  · exact ⟨by decide, by decide, by decide⟩
  · exact ⟨by decide, by decide, by decide⟩

theorem natAbs_eq_ite (n : Int) : (n.natAbs : Int) = if n < 0 then -n else n := by
  split <;> omega

/-- **A counter times a sign comes back as it was, up to the sign.** -/
theorem toCounter_ofInt_mul_sign (direction : Direction) {n : Int} (hn : n.natAbs ≤ 2 ^ 24) :
    (ofInt n * direction.sign).toCounter = direction.toInt * n := by
  rw [((isWhole_ofInt hn).mul (isWhole_sign direction) hn).1.toCounter hn, natAbs_eq_ite]
  by_cases hneg : n < 0 <;> cases direction <;> simp [hneg, Direction.toInt]

/-- **A sign times a counter comes back as the counter, up to the sign.** -/
theorem toCounter_sign_mul_ofInt (direction : Direction) {n : Int} (hn : n.natAbs ≤ 2 ^ 24) :
    (direction.sign * ofInt n).toCounter = direction.toInt * n := by
  rw [((isWhole_ofInt hn).mul (isWhole_sign direction) hn).2.toCounter hn, natAbs_eq_ite]
  by_cases hneg : n < 0 <;> cases direction <;> simp [hneg, Direction.toInt]

/-! ## Products of positive numbers -/

theorem isPositive_spec {x : Single} (h : x.isPositive = true) :
    x.isNegative = false ∧ x.isNaN = false ∧ x.isInfinite = false := by
  simp only [isPositive, Bool.and_eq_true, decide_eq_true_eq, isFinite] at h
  obtain ⟨hfinite, hlt⟩ := h
  refine ⟨?_, not_nan_of_rank hfinite⟩
  have hlt : Single.lt 0 x = true := hlt
  simp only [Single.lt, Bool.and_eq_true, decide_eq_true_eq] at hlt
  obtain ⟨-, hplace⟩ := hlt
  rw [show (0 : Single).place = 0 by decide, place] at hplace
  cases hneg : x.isNegative with
  | false => rfl
  | true =>
    rw [hneg, if_pos rfl] at hplace
    omega

/-- **A product of positive numbers has no negative counter.** -/
theorem toCounter_mul_nonneg {x y : Single} (hx : x.isPositive = true) (hy : y.isPositive = true) :
    0 ≤ (x * y).toCounter := by
  obtain ⟨hxs, hxn, hxi⟩ := isPositive_spec hx
  obtain ⟨hys, hyn, hyi⟩ := isPositive_spec hy
  have hsign : (x * y).isNegative = false := by
    show (Single.mul x y).isNegative = false
    simp only [Single.mul, hxs, hxn, hxi, hys, hyn, hyi, Bool.or_self, Bool.false_eq_true, if_false]
    exact isNegative_ofRank
  rw [toCounter, nearestInt, hsign]
  simp only [Bool.false_eq_true, if_false]
  split
  · exact Int.le_refl 0
  split
  · decide
  · generalize ((x * y).magnitude + 1 <<< (unitScale - 1)) >>> unitScale = n
    unfold saturate counterMin counterMax
    omega

end Single

end MotionControl
