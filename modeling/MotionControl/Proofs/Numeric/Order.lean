import MotionControl.Proofs.Numeric.Between

/-!
# The order of numbers

The order of numbers is that of their values, also with an infinity. A value belongs to one number
only, apart from zero, and the operations on a motor never come to the second zero.

* `Single.le_iff_units`: **the order in units.**
* `Single.ofInt_le_ofInt`, `Single.toCounter_mono`: integers and counters keep the order.
* `Single.IsPlain`: a number that is not the negative zero; `IsPlain.eq_of_units`: **it is told by
  its value.**
-/

namespace MotionControl.Single

variable {x y : Single} {m n : Int}

/-! ## The order in units -/

/-- **Of two numbers one is not larger if its value is not.** -/
theorem le_iff_units (hx : x.isNaN = false) (hy : y.isNaN = false) :
    x ≤ y ↔ x.units ≤ y.units := by
  constructor
  · intro hle
    exact units_le_of_place_le (place_le_of_le hle).2.2
  · intro hunits
    by_contra hnot
    have hle : x.le y = false := Bool.eq_false_iff.2 hnot
    have hlt := units_lt_of_lt (lt_of_le_eq_false hx hy hle)
    omega

/-- The counter of a number keeps the order. -/
theorem toCounter_mono (h : x ≤ y) : x.toCounter ≤ y.toCounter := by
  obtain ⟨hx, hy, hplace⟩ := place_le_of_le h
  rw [toCounter_eq_saturate hx, toCounter_eq_saturate hy]
  exact saturate_mono (nearestInt_le_of_place_le hplace)

/-! ## Integers -/

/-- **A larger integer is no smaller number**, even if it is an infinity. -/
theorem ofInt_le_ofInt (h : m ≤ n) : ofInt m ≤ ofInt n := by
  have hmono {a b : Nat} (hab : a ≤ b) : Grid.nearestRank fractionBits (a <<< unitScale) 1 ≤
      Grid.nearestRank fractionBits (b <<< unitScale) 1 := by
    rw [Nat.shiftLeft_eq, Nat.shiftLeft_eq]
    exact nearestRank_le_of_le (Nat.mul_le_mul_right _ hab)
  have hplace : (ofInt m).place ≤ (ofInt n).place := by
    rw [ofInt, place_nearest, ofInt, place_nearest]
    -- by the signs: the magnitudes turn the order around below zero
    by_cases hm : m < 0 <;> by_cases hn : n < 0 <;>
      simp only [hm, hn, decide_true, decide_false, Bool.false_eq_true, if_true, if_false]
    · have hrank := hmono (show n.natAbs ≤ m.natAbs by omega)
      omega
    · omega
    · omega
    · have hrank := hmono (show m.natAbs ≤ n.natAbs by omega)
      omega
  show (ofInt m).le (ofInt n) = true
  simp [le, isNaN_ofInt, hplace]

/-- An integer of at most 24 bits is its own counter. -/
theorem toCounter_ofInt (hn : n.natAbs ≤ 2 ^ 24) : (ofInt n).toCounter = n := by
  rw [toCounter_eq_saturate (isNaN_ofInt n), (hasValue_ofInt hn).nearestInt]
  exact saturate_of_range (by unfold counterMin; omega) (by unfold counterMax; omega)

/-- A time of 32 bits is finite. -/
theorem finite_ofNat {time : Nat} (h : time < UInt32.size) :
    (ofNat time).rank < infinityRank := by
  have hlow : ofInt 0 ≤ ofInt time := ofInt_le_ofInt (Int.natCast_nonneg time)
  have hhigh : ofInt time ≤ ofInt (2 ^ 32) := by
    refine ofInt_le_ofInt ?_
    unfold UInt32.size at h
    omega
  exact finite_of_between (by decide) (by decide) hlow hhigh

/-! ## Numbers near zero -/

/-- A number of at most `2 ^ 56`, which is far from the end of the range. A counter that is added
often enough does not bring one beyond: its steps are smaller than what is rounded there. -/
def IsNear (x : Single) : Prop := x.units.natAbs ≤ 2 ^ (56 + unitScale)

theorem IsNear.finite (h : x.IsNear) : x.rank < infinityRank := by
  by_contra hnot
  have hlarge : Grid.units fractionBits infinityRank ≤ x.magnitude :=
    Grid.units_mono (Nat.not_lt.1 hnot)
  have hend : 2 ^ (56 + unitScale) < Grid.units fractionBits infinityRank := by decide
  rw [IsNear, natAbs_units] at h
  omega

theorem isNear_ofInt (hn : n.natAbs ≤ 2 ^ 31) : (ofInt n).IsNear := by
  rw [IsNear, natAbs_units]
  exact (magnitude_ofInt_le hn).trans (by decide)

/-- A number between two near ones. -/
theorem isNear_of_between {s : Single} (hx : x.IsNear) (hy : y.IsNear)
    (hlow : min x.units y.units ≤ s.units) (hhigh : s.units ≤ max x.units y.units) :
    s.IsNear := by
  unfold IsNear at hx hy ⊢
  omega

/-- **A sum that is hardly more than near is near**: the excess is rounded off. -/
theorem isNear_add (hx : x.rank < infinityRank) (hy : y.rank < infinityRank)
    (h : (x.units + y.units).natAbs ≤ 2 ^ (56 + unitScale) + 2 ^ (31 + unitScale)) :
    (x + y).IsNear := by
  -- the numbers there are four times the excess apart
  have hround : Grid.units fractionBits (Grid.nearestRank fractionBits
      (2 ^ (56 + unitScale) + 2 ^ (31 + unitScale)) 1) = 2 ^ (56 + unitScale) := by decide
  rw [IsNear, natAbs_units, magnitude, rank_add hx hy, ← hround]
  exact Grid.units_mono ((Nat.min_le_left ..).trans (nearestRank_le_of_le h))

theorem IsNear.add_ofInt (hx : x.IsNear) (hn : n.natAbs ≤ 2 ^ 31) : (x + ofInt n).IsNear := by
  have hcounter := magnitude_ofInt_le hn
  refine isNear_add hx.finite (finite_ofInt hn) ?_
  unfold IsNear at hx
  rw [← natAbs_units] at hcounter
  norm_num only [unitScale] at hx hcounter ⊢
  omega

/-- A step towards a near number, of a whole number of increments that is hardly farther. -/
theorem isNear_step {s : Single} (hx : x.IsNear) (hy : y.IsNear) (hsign : s.isNegative = false)
    (h : s < (y - x).abs) : (x + s.round.withSignOf (y - x)).IsNear := by
  obtain ⟨hfinite, hless⟩ := magnitude_lt_of_lt_abs_sub hy.finite hx.finite hsign h
  have hround := magnitude_round_le hfinite
  have hunits := units_withSignOf s.round (y - x)
  rw [isNegative_sub hy.finite hx.finite (by omega)] at hunits
  refine isNear_add hx.finite ?_ ?_
  · rw [rank_withSignOf]
    exact (magnitude_round hfinite).1
  · unfold IsNear at hx hy
    rw [hunits]
    norm_num only [unitScale] at hx hy hround ⊢
    simp only [decide_eq_true_eq]
    split <;> omega

/-- The difference of near numbers is finite, and it is the exact one, rounded. -/
theorem sub_of_near (hx : x.IsNear) (hy : y.IsNear) :
    (x - y).rank < infinityRank ∧ (x - y).units = roundUnits (x.units - y.units) := by
  have hneg : (-y).rank < infinityRank := by
    rw [rank_neg]
    exact hy.finite
  have hfinite : (x + -y).rank < infinityRank := by
    refine finite_add hx.finite hx.finite hneg ?_
    unfold IsNear at hy
    rw [units_neg, ← natAbs_units]
    norm_num only [unitScale] at hy
    omega
  have hunits := units_add hx.finite hneg hfinite
  rw [units_neg] at hunits
  exact ⟨hfinite, hunits⟩

theorem natAbs_sub_of_near (hx : x.IsNear) (hy : y.IsNear) :
    (x - y).units.natAbs ≤ 2 ^ (57 + unitScale) := by
  have hround : roundUnits (2 ^ (57 + unitScale)) = 2 ^ (57 + unitScale) ∧
      roundUnits (-2 ^ (57 + unitScale)) = -2 ^ (57 + unitScale) := by decide
  rw [(sub_of_near hx hy).2]
  unfold IsNear at hx hy
  have hlow : -2 ^ (57 + unitScale) ≤ x.units - y.units := by
    norm_num only [unitScale] at hx hy ⊢
    omega
  have hhigh : x.units - y.units ≤ 2 ^ (57 + unitScale) := by
    norm_num only [unitScale] at hx hy ⊢
    omega
  have hlow := roundUnits_mono hlow
  have hhigh := roundUnits_mono hhigh
  rw [hround.1] at hhigh
  rw [hround.2] at hlow
  norm_num only [unitScale] at hlow hhigh ⊢
  omega

/-! ## One zero -/

/-- The number is not the negative zero. -/
def IsPlain (x : Single) : Prop := x.rank = 0 → x.isNegative = false

instance (x : Single) : Decidable x.IsPlain :=
  inferInstanceAs (Decidable (x.rank = 0 → x.isNegative = false))

/-- A number is told by its rank and its sign. -/
theorem eq_of_rank (hrank : x.rank = y.rank) (hsign : x.isNegative = y.isNegative) : x = y := by
  have hsplit (z : Single) : z.bits.toNat = z.rank + if z.isNegative then 2 ^ 31 else 0 := by
    have hlt : z.bits.toNat < 2 ^ 32 := z.bits.toNat_lt
    unfold rank isNegative
    by_cases hneg : 0x80000000 ≤ z.bits.toNat
    · simp only [hneg, decide_true, if_true]
      omega
    · simp only [hneg, decide_false, Bool.false_eq_true, if_false]
      omega
  have hbits : x.bits.toNat = y.bits.toNat := by rw [hsplit x, hsplit y, hrank, hsign]
  cases x
  cases y
  exact congrArg Single.mk (UInt32.toNat_inj.1 hbits)

theorem rank_eq_of_magnitude (h : x.magnitude = y.magnitude) : x.rank = y.rank := by
  rw [← nearestRank_magnitude x, ← nearestRank_magnitude y, h]

/-- **Apart from the negative zero, a number is told by its value.** -/
theorem IsPlain.eq_of_units (hx : x.IsPlain) (hy : y.IsPlain) (h : x.units = y.units) : x = y := by
  have hmagnitude : x.magnitude = y.magnitude := by
    rw [← natAbs_units, ← natAbs_units, h]
  have hrank := rank_eq_of_magnitude hmagnitude
  refine eq_of_rank hrank ?_
  by_cases hzero : x.rank = 0
  · rw [hx hzero, hy (hrank ▸ hzero)]
  · have hpos := magnitude_pos_of_rank hzero
    unfold units at h
    cases hxneg : x.isNegative <;> cases hyneg : y.isNegative <;>
      simp only [hxneg, hyneg, Bool.false_eq_true, if_false, if_true] at h ⊢ <;> omega

theorem isPlain_nearest {negative : Bool} {num : Nat} (h : num ≠ 0) :
    (nearest negative num 1).IsPlain := by
  intro hzero
  have hone : Grid.nearestRank fractionBits 1 1 = 1 := by decide
  have hrank : Grid.nearestRank fractionBits 1 1 ≤ Grid.nearestRank fractionBits num 1 :=
    nearestRank_le_of_le (by omega)
  have hinfinity : 0 < infinityRank := by decide
  rw [nearest, rank_ofRank] at hzero
  omega

theorem isPlain_ofInt (n : Int) : (ofInt n).IsPlain := by
  by_cases hn : n = 0
  · rw [hn]
    decide
  · refine isPlain_nearest ?_
    rw [Nat.shiftLeft_eq]
    exact Nat.mul_ne_zero (by omega) (Nat.two_pow_pos _).ne'

/-- **A sum is no negative zero** if its first term is none. -/
theorem IsPlain.add (hx : x.IsPlain) (y : Single) : (x + y).IsPlain := by
  show (Single.add x y).IsPlain
  unfold Single.add
  split
  · decide
  split
  · split
    · decide
    · exact hx
  split
  · rename_i hinf
    intro hzero
    rw [isInfinite, beq_iff_eq, hzero] at hinf
    cases hinf
  dsimp only
  split
  · rename_i hsum
    intro hzero
    rw [zero, isNegative_ofRank, Bool.and_eq_false_iff]
    by_contra hboth
    simp only [not_or, Bool.not_eq_false] at hboth
    -- neither term is above zero, so that both are zeros, and the first one has a sign
    have hrank : x.rank ≠ 0 := by
      intro hnone
      have hplain := hx hnone
      rw [hboth.1] at hplain
      cases hplain
    have hpos := magnitude_pos_of_rank hrank
    unfold units at hsum
    rw [hboth.1, hboth.2, if_pos rfl, if_pos rfl] at hsum
    omega
  · rename_i hsum
    exact isPlain_nearest (by omega)

end MotionControl.Single
