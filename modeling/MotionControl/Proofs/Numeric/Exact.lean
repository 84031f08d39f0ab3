import MotionControl.Proofs.Numeric.Sum

/-!
# Operations that lose nothing

What is known of single precision numbers when no operation on them is rounded or cut off.

* `Grid.units_mono`, `Single.units_le_of_not_lt`: the order of the numbers is that of their values.
* `Single.AddsExactly`: a sum that is not rounded.
* `Single.ReadsExactly`: a number whose nearest integer is in the range of a counter.
* `Single.units_withSignOf_between`: a step towards a goal that is farther away stays before it.
* `Single.nearestInt_away_mul`: **a displacement away from a direction** is that many increments,
  with the sign turned.
-/

namespace MotionControl

namespace Direction

def opposite : Direction → Direction
  | negative => positive
  | positive => negative

theorem neg_sign (direction : Direction) : -direction.sign = direction.opposite.sign := by
  cases direction <;> decide

end Direction

/-! ## The grid of magnitudes -/

namespace Grid

variable {f rank rank' : Nat}

/-- A rank below the first `2 ^ f` is its own magnitude; above, it tells a binade and a place. -/
theorem units_cases (f rank : Nat) :
    (rank < 2 ^ f ∧ units f rank = rank) ∨
      ∃ binade place, place < 2 ^ f ∧ rank = (binade + 1) * 2 ^ f + place ∧
        units f rank = (2 ^ f + place) * 2 ^ binade := by
  rw [units_eq]
  by_cases h : rank < 2 ^ f
  · exact .inl ⟨h, if_pos h⟩
  · have hpos : 0 < 2 ^ f := Nat.two_pow_pos f
    have hbinade : 1 ≤ rank / 2 ^ f := (Nat.one_le_div_iff hpos).2 (Nat.le_of_not_lt h)
    refine .inr ⟨rank / 2 ^ f - 1, rank % 2 ^ f, Nat.mod_lt _ hpos, ?_, ?_⟩
    · rw [Nat.sub_add_cancel hbinade, Nat.div_add_mod']
    · rw [if_neg h, Nat.shiftLeft_eq]

/-- **The magnitudes grow with the rank.** -/
theorem units_mono (h : rank ≤ rank') : units f rank ≤ units f rank' := by
  rcases units_cases f rank with ⟨hsmall, hunits⟩ | ⟨b, p, hp, hrank, hunits⟩ <;>
    rcases units_cases f rank' with ⟨hsmall', hunits'⟩ | ⟨b', p', hp', hrank', hunits'⟩ <;>
    rw [hunits, hunits']
  · exact h
  · have hone : 1 ≤ 2 ^ b' := Nat.one_le_two_pow
    calc rank ≤ 2 ^ f + p' := by omega
      _ ≤ (2 ^ f + p') * 2 ^ b' := Nat.le_mul_of_pos_right _ hone
  · have hmul : 1 * 2 ^ f ≤ (b + 1) * 2 ^ f := Nat.mul_le_mul_right _ (by omega)
    omega
  · rcases Nat.lt_trichotomy b b' with hlt | rfl | hgt
    · -- a full binade is the start of the next one
      calc (2 ^ f + p) * 2 ^ b ≤ 2 ^ (f + 1) * 2 ^ b :=
            Nat.mul_le_mul_right _ (by rw [Nat.pow_succ]; omega)
        _ = 2 ^ f * 2 ^ (b + 1) := by ring
        _ ≤ 2 ^ f * 2 ^ b' := Nat.mul_le_mul_left _ (Nat.pow_le_pow_right (by decide) hlt)
        _ ≤ (2 ^ f + p') * 2 ^ b' := Nat.mul_le_mul_right _ (Nat.le_add_right ..)
    · exact Nat.mul_le_mul_right _ (by omega)
    · have hmul : (b' + 1 + 1) * 2 ^ f ≤ (b + 1) * 2 ^ f := Nat.mul_le_mul_right _ (by omega)
      rw [Nat.add_mul, Nat.one_mul] at hmul
      omega

/-- A magnitude of the grid is a whole number of steps, and its rank is the one it has. -/
theorem exactRank_units (f rank : Nat) :
    2 ^ stepExponent f (units f rank) ∣ units f rank ∧ exactRank f (units f rank) = rank := by
  rcases units_cases f rank with ⟨hsmall, hunits⟩ | ⟨b, p, hp, hrank, hunits⟩
  · have hstep : stepExponent f rank = 0 := by
      by_cases hzero : rank = 0
      · simp [hzero, stepExponent]
      · have hlog := (Nat.log2_lt hzero).2 hsmall
        unfold stepExponent
        omega
    rw [hunits, exactRank, hstep]
    simp
  · have hstep : stepExponent f ((2 ^ f + p) * 2 ^ b) = b := by
      have hlog : ((2 ^ f + p) * 2 ^ b).log2 = f + b := by
        have hpos : 0 < 2 ^ f := Nat.two_pow_pos f
        rw [Nat.log2_eq_iff (Nat.mul_ne_zero (by omega) (Nat.two_pow_pos b).ne')]
        constructor
        · rw [Nat.pow_add]
          exact Nat.mul_le_mul_right _ (Nat.le_add_right ..)
        · rw [show f + b + 1 = (f + 1) + b by omega, Nat.pow_add 2 (f + 1)]
          refine Nat.mul_lt_mul_of_pos_right ?_ (Nat.two_pow_pos b)
          rw [Nat.pow_succ]
          omega
      rw [stepExponent, hlog]
      omega
    rw [hunits, exactRank, hstep]
    refine ⟨Nat.dvd_mul_left .., ?_⟩
    rw [Nat.mul_div_cancel _ (Nat.two_pow_pos b), Nat.shiftLeft_eq, hrank]
    ring

end Grid

namespace Single

variable {x y : Single}

/-! ## Signs -/

theorem testBit_sign (x : Single) : x.bits.toNat.testBit 31 = x.isNegative := by
  have hlt : x.bits.toNat < 2 ^ 32 := x.bits.toNat_lt
  rw [Nat.testBit_eq_decide_div_mod_eq, isNegative, decide_eq_decide]
  omega

@[simp]
theorem rank_neg (x : Single) : (-x).rank = x.rank := by
  show (x.bits ^^^ 0x80000000).toNat % 2 ^ 31 = x.bits.toNat % 2 ^ 31
  rw [UInt32.toNat_xor]
  refine Nat.eq_of_testBit_eq fun i => ?_
  rw [Nat.testBit_mod_two_pow, Nat.testBit_mod_two_pow, Nat.testBit_xor,
    show (0x80000000 : UInt32).toNat = 2 ^ 31 from rfl, Nat.testBit_two_pow]
  by_cases hi : i < 31
  · have hne : 31 ≠ i := by omega
    simp [hne]
  · simp [hi]

@[simp]
theorem isNegative_neg (x : Single) : (-x).isNegative = !x.isNegative := by
  rw [← testBit_sign, ← testBit_sign]
  show (x.bits ^^^ 0x80000000).toNat.testBit 31 = _
  rw [UInt32.toNat_xor, Nat.testBit_xor, show (0x80000000 : UInt32).toNat = 2 ^ 31 from rfl,
    Nat.testBit_two_pow]
  simp

theorem toNat_abs (x : Single) : x.abs.bits.toNat = x.bits.toNat % 2 ^ 31 := by
  show (x.bits &&& 0x7fffffff).toNat = _
  rw [UInt32.toNat_and, show (0x7fffffff : UInt32).toNat = 2 ^ 31 - 1 from rfl,
    Nat.and_two_pow_sub_one_eq_mod]

@[simp]
theorem rank_abs (x : Single) : x.abs.rank = x.rank := by
  show x.abs.bits.toNat % 2 ^ 31 = x.bits.toNat % 2 ^ 31
  rw [toNat_abs, Nat.mod_mod]

@[simp]
theorem isNegative_abs (x : Single) : x.abs.isNegative = false := by
  have hlt : x.bits.toNat % 2 ^ 31 < 2 ^ 31 := Nat.mod_lt _ (by decide)
  rw [isNegative, toNat_abs]
  exact decide_eq_false (by omega)

theorem magnitude_eq_of_rank (h : x.rank = y.rank) : x.magnitude = y.magnitude := by
  rw [magnitude, magnitude, h]

@[simp]
theorem units_neg (x : Single) : (-x).units = -x.units := by
  rw [units, units, isNegative_neg, magnitude_eq_of_rank (rank_neg x)]
  cases x.isNegative <;> simp

/-- A product and a quotient of numbers without a sign have none. -/
theorem isNegative_mul (hx : x.isNegative = false) (hy : y.isNegative = false) :
    (x * y).isNegative = false := by
  show (Single.mul x y).isNegative = false
  unfold mul
  rw [hx, hy]
  dsimp only
  repeat' split
  all_goals first | exact isNegative_ofRank | decide

theorem isNegative_div (hx : x.isNegative = false) (hy : y.isNegative = false) :
    (x / y).isNegative = false := by
  show (Single.div x y).isNegative = false
  unfold div
  rw [hx, hy]
  dsimp only
  repeat' split
  all_goals first | exact isNegative_ofRank | decide

theorem isNaN_ofInt (n : Int) : (ofInt n).isNaN = false := isNaN_ofRank

theorem rank_withSignOf (x y : Single) : (x.withSignOf y).rank = x.rank := by
  unfold withSignOf
  split
  · exact (rank_neg x.abs).trans (rank_abs x)
  · exact rank_abs x

/-- A distance with the sign of another number. -/
theorem units_withSignOf (x y : Single) :
    (x.withSignOf y).units = if y.isNegative then -(x.magnitude : Int) else x.magnitude := by
  have habs : x.abs.units = x.magnitude := by
    rw [units, isNegative_abs, magnitude_eq_of_rank (rank_abs x)]
    rfl
  have hturned : x.abs.neg.units = -x.abs.units := units_neg x.abs
  unfold withSignOf
  split
  · rw [hturned, habs]
  · exact habs

theorem isNegative_ofNat (n : Nat) : (ofNat n).isNegative = false := by
  refine isNegative_ofRank.trans (decide_eq_false ?_)
  omega

/-! ## Order -/

theorem units_le_of_place_le (h : x.place ≤ y.place) : x.units ≤ y.units := by
  unfold place at h
  unfold units
  cases hx : x.isNegative <;> cases hy : y.isNegative <;>
    simp only [hx, hy, Bool.false_eq_true, if_false, if_true] at h ⊢
  · exact Int.ofNat_le.2 (Grid.units_mono (Int.ofNat_le.1 h))
  · -- both are zeros
    have hrank : x.rank = 0 ∧ y.rank = 0 := by omega
    rw [magnitude, magnitude, hrank.1, hrank.2]
    decide
  · omega
  · have hmagnitude := Grid.units_mono (f := fractionBits) (show y.rank ≤ x.rank by omega)
    unfold magnitude
    omega

/-- **A number that is not smaller has no smaller value.** -/
theorem units_le_of_not_lt (hx : x.isNaN = false) (hy : y.isNaN = false) (h : ¬ x < y) :
    y.units ≤ x.units := by
  refine units_le_of_place_le (Int.not_lt.1 fun hlt => h ?_)
  show x.lt y = true
  simp [lt, hx, hy, hlt]

theorem not_lt_of_le (h : x ≤ y) : ¬ y < x := by
  intro hlt
  have hle : x.le y = true := h
  have hlt : y.lt x = true := hlt
  simp only [le, lt, Bool.and_eq_true, decide_eq_true_eq] at hle hlt
  exact absurd hlt.2 (Int.not_lt.2 hle.2)

theorem units_le_of_lt (h : x < y) : x.units ≤ y.units := by
  have hlt : x.lt y = true := h
  simp only [lt, Bool.and_eq_true, decide_eq_true_eq] at hlt
  exact units_le_of_place_le hlt.2.le

/-- A number lies between zero and another one. -/
def Between (value goal : Int) : Prop := 0 ≤ value ∧ value ≤ goal ∨ goal ≤ value ∧ value ≤ 0

/-- **A step towards a goal that is farther away stays before it.** -/
theorem units_withSignOf_between (hx : x.rank < infinityRank) (hy : y.rank < infinityRank)
    (hsign : x.isNegative = false) (hfar : y.abs.le x = false) :
    Between (x.withSignOf y).units y.units := by
  have hplace : x.rank < y.rank := by
    have hnan : y.abs.isNaN = false := by
      rw [isNaN, rank_abs]
      exact (not_nan_of_rank hy).1
    simp only [le, hnan, (not_nan_of_rank hx).1, Bool.not_false, Bool.true_and,
      decide_eq_false_iff_not, place, isNegative_abs, hsign, rank_abs, Bool.false_eq_true,
      if_false] at hfar
    omega
  have hmagnitude : x.magnitude ≤ y.magnitude := Grid.units_mono hplace.le
  rw [units_withSignOf, units]
  unfold Between
  split <;> omega

/-! ## Exact sums and readings -/

/-- A sum that is not rounded. -/
structure AddsExactly (x y : Single) : Prop where
  left : x.rank < infinityRank
  right : y.rank < infinityRank
  finite : (x + y).rank < infinityRank
  units : (x + y).units = x.units + y.units

instance (x y : Single) : Decidable (x.AddsExactly y) :=
  decidable_of_iff
    (x.rank < infinityRank ∧ y.rank < infinityRank ∧ (x + y).rank < infinityRank ∧
      (x + y).units = x.units + y.units)
    ⟨fun ⟨hx, hy, hsum, hunits⟩ => ⟨hx, hy, hsum, hunits⟩,
      fun h => ⟨h.left, h.right, h.finite, h.units⟩⟩

/-- The nearest integer is in the range of a counter. -/
structure ReadsExactly (x : Single) : Prop where
  finite : x.rank < infinityRank
  min : counterMin ≤ x.nearestInt
  max : x.nearestInt ≤ counterMax

instance (x : Single) : Decidable x.ReadsExactly :=
  decidable_of_iff
    (x.rank < infinityRank ∧ counterMin ≤ x.nearestInt ∧ x.nearestInt ≤ counterMax)
    ⟨fun ⟨hfinite, hmin, hmax⟩ => ⟨hfinite, hmin, hmax⟩, fun h => ⟨h.finite, h.min, h.max⟩⟩

theorem ReadsExactly.toCounter (h : x.ReadsExactly) : x.toCounter = x.nearestInt := by
  obtain ⟨hnan, hinf⟩ := not_nan_of_rank h.finite
  have hmin := h.min
  have hmax := h.max
  simp only [Single.toCounter, hnan, hinf, Bool.false_eq_true, if_false, saturate]
  omega

instance (x : Single) (n : Int) : Decidable (x.HasValue n) :=
  decidable_of_iff (x.rank < infinityRank ∧ x.units = n * 2 ^ unitScale)
    ⟨fun ⟨hfinite, hunits⟩ => ⟨hfinite, hunits⟩, fun h => ⟨h.finite, h.units⟩⟩

theorem HasValue.nearestInt {n : Int} (h : x.HasValue n) : x.nearestInt = n := by
  rw [nearestInt_eq, h.units]
  norm_num only [unitScale]
  omega

/-! ## Products with a sign -/

/-- A product is finite only if both factors are. -/
theorem finite_of_mul (h : (x * y).rank < infinityRank) :
    x.rank < infinityRank ∧ y.rank < infinityRank := by
  have hmul : (Single.mul x y).rank < infinityRank := h
  have hnan : ¬ nan.rank < infinityRank := by decide
  have hinfinity (negative : Bool) : ¬ (infinity negative).rank < infinityRank := by
    cases negative <;> decide
  unfold mul at hmul
  dsimp only at hmul
  split at hmul
  · exact absurd hmul hnan
  split at hmul
  · split at hmul
    · exact absurd hmul hnan
    · exact absurd hmul (hinfinity _)
  · rename_i hnumbers hbounded
    simp only [isNaN, isInfinite, Bool.or_eq_true, decide_eq_true_eq, beq_iff_eq]
      at hnumbers hbounded
    omega

/-- A sign times a number is that number, up to the sign. -/
theorem sign_mul (direction : Direction) (hx : x.rank < infinityRank) :
    (direction.sign * x).rank = x.rank ∧
      (direction.sign * x).isNegative = (decide (direction = .negative) != x.isNegative) := by
  have hsign := isWhole_sign direction
  obtain ⟨hnan, hinf⟩ := not_nan_of_rank hx
  obtain ⟨hnan', hinf'⟩ := hsign.not_nan
  have hone : 1 <<< unitScale = 2 ^ unitScale := Nat.shiftLeft_eq ..
  have hgrid : 2 ^ Grid.stepExponent fractionBits x.magnitude ∣ x.magnitude ∧
      Grid.exactRank fractionBits x.magnitude = x.rank := Grid.exactRank_units fractionBits x.rank
  have hmul : direction.sign * x =
      ofRank (decide (direction = .negative) != x.isNegative) x.rank := by
    show Single.mul direction.sign x = _
    simp only [mul, hnan, hinf, hnan', hinf', hsign.sign, hsign.magnitude, Bool.or_self,
      Bool.false_eq_true, if_false, Nat.one_mul, hone, nearest]
    rw [Nat.mul_comm, Grid.nearestRank_of_dvd (Nat.two_pow_pos _) hgrid.1, hgrid.2]
  rw [hmul, rank_ofRank, isNegative_ofRank]
  exact ⟨Nat.min_eq_left hx.le, rfl⟩

/-- **A displacement away from a direction**, in increments. -/
theorem nearestInt_away_mul (direction : Direction)
    (h : (-direction.sign * x * y).rank < infinityRank) :
    (-direction.sign * x * y).nearestInt = -direction.toInt * (x * y).nearestInt := by
  rw [direction.neg_sign] at h ⊢
  obtain ⟨hturned, hy⟩ := finite_of_mul h
  obtain ⟨-, hx⟩ := finite_of_mul hturned
  obtain ⟨hrank, hnegative⟩ := sign_mul direction.opposite hx
  obtain ⟨hxn, hxi⟩ := not_nan_of_rank hx
  obtain ⟨hyn, hyi⟩ := not_nan_of_rank hy
  obtain ⟨htn, hti⟩ := not_nan_of_rank hturned
  generalize direction.opposite.sign * x = turned at *
  show (Single.mul turned y).nearestInt = -direction.toInt * (Single.mul x y).nearestInt
  simp only [mul, hxn, hxi, hyn, hyi, htn, hti, Bool.or_self, Bool.false_eq_true, if_false,
    hrank, hnegative, nearestInt, nearest, magnitude, rank_ofRank, isNegative_ofRank]
  cases direction <;> cases x.isNegative <;> cases y.isNegative <;>
    simp [Direction.opposite, Direction.toInt]

end Single

end MotionControl
