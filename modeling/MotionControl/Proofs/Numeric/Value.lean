import MotionControl.Proofs.Numeric.Rounding
import Mathlib.Algebra.Order.Field.Rat
import Mathlib.Tactic.FieldSimp
import Mathlib.Tactic.Positivity

/-!
# The values of single precision numbers

A finite number has a rational value. An operation with a finite result rounds the value that it
would have without rounding, once.

* `Single.value`: the value; `value_le_of_le`: its order is that of the numbers.
* `Single.Rounds`: a number within the error of one rounding; `rounds_add`, `rounds_mul`,
  `rounds_div`, `rounds_ofInt`: **the operations round once**.
* `Single.abs_nearestInt_sub_le`: the nearest integer is within a half.
* `Single.toCounter_ofInt_error`: **what single precision makes of an integer**.
* `Single.toCounter_mul_mono`: **the counter of a product keeps the order** of the other factor.
-/

namespace MotionControl

namespace Grid

variable {f num den : Nat}

/-- The error of rounding a quotient, in units. -/
theorem abs_units_nearestRank_sub_le (num : Nat) (hf : f ≠ 0) (hden : 0 < den) :
    |(units f (nearestRank f num den) : ℚ) - num / den| ≤
      max (1 / 2 : ℚ) ((num : ℚ) / den / 2 ^ (f + 1)) := by
  have hpos : (0 : ℚ) < den := Nat.cast_pos.2 hden
  have hscale : (0 : ℚ) < 2 ^ (f + 1) * den := by positivity
  have hupper : (2 ^ (f + 1) * (units f (nearestRank f num den) * den) : ℚ) ≤
      2 ^ (f + 1) * num + max (2 ^ f * den : ℚ) num := by
    exact_mod_cast units_nearestRank_le num hf hden
  have hlower : (2 ^ (f + 1) * num : ℚ) ≤
      2 ^ (f + 1) * (units f (nearestRank f num den) * den) + max (2 ^ f * den : ℚ) num := by
    exact_mod_cast le_units_nearestRank num hf hden
  have hmax : max (1 / 2 : ℚ) ((num : ℚ) / den / 2 ^ (f + 1)) * (2 ^ (f + 1) * den) =
      max (2 ^ f * den : ℚ) num := by
    rw [max_mul_of_nonneg _ _ hscale.le]
    congr 1
    · rw [pow_succ]
      ring
    · field_simp
  have hdiff : ((units f (nearestRank f num den) : ℚ) - num / den) * (2 ^ (f + 1) * den) =
      2 ^ (f + 1) * (units f (nearestRank f num den) * den) - 2 ^ (f + 1) * num := by
    field_simp
  rw [← mul_le_mul_iff_left₀ hscale, hmax]
  calc |(units f (nearestRank f num den) : ℚ) - num / den| * (2 ^ (f + 1) * den) =
        |((units f (nearestRank f num den) : ℚ) - num / den) * (2 ^ (f + 1) * den)| := by
          rw [abs_mul, abs_of_pos hscale]
    _ ≤ max (2 ^ f * den : ℚ) num := by
        rw [hdiff, abs_le]
        constructor <;> linarith

end Grid

namespace Single

variable {x y s : Single}

/-! ## Values -/

/-- One with a sign. -/
def unit (negative : Bool) : ℚ := if negative then -1 else 1

theorem unit_bne (a b : Bool) : unit (a != b) = unit a * unit b := by
  cases a <;> cases b <;> simp [unit]

@[simp]
theorem abs_unit (negative : Bool) : |unit negative| = 1 := by
  cases negative <;> simp [unit]

/-- The value of a finite number. -/
def value (x : Single) : ℚ := x.units / 2 ^ unitScale

theorem value_eq (x : Single) : x.value = unit x.isNegative * (x.magnitude / 2 ^ unitScale) := by
  rw [value, units]
  cases x.isNegative <;> simp [unit, neg_div]

theorem value_le_of_place_le (h : x.place ≤ y.place) : x.value ≤ y.value := by
  have hunits : (x.units : ℚ) ≤ y.units := Int.cast_le.2 (units_le_of_place_le h)
  exact div_le_div_of_nonneg_right hunits (by positivity)

theorem place_le_of_le (h : x ≤ y) : x.isNaN = false ∧ y.isNaN = false ∧ x.place ≤ y.place := by
  have hle : x.le y = true := h
  simp only [le, Bool.and_eq_true, decide_eq_true_eq, Bool.not_eq_true'] at hle
  exact ⟨hle.1.1, hle.1.2, hle.2⟩

/-- **The order of the numbers is that of their values.** -/
theorem value_le_of_le (h : x ≤ y) : x.value ≤ y.value :=
  value_le_of_place_le (place_le_of_le h).2.2

/-- A number between finite ones is finite. -/
theorem finite_of_between (hlow : x.rank < infinityRank) (hhigh : y.rank < infinityRank)
    (hx : x ≤ s) (hy : s ≤ y) : s.rank < infinityRank := by
  obtain ⟨-, -, hbelow⟩ := place_le_of_le hx
  obtain ⟨-, -, habove⟩ := place_le_of_le hy
  unfold place at hbelow habove
  cases hsign : s.isNegative with
  | false =>
    simp only [hsign, Bool.false_eq_true, if_false] at habove
    split at habove <;> omega
  | true =>
    simp only [hsign, if_true] at hbelow
    split at hbelow <;> omega

theorem HasValue.value {n : Int} (h : x.HasValue n) : x.value = n := by
  rw [Single.value, h.units, Int.cast_mul, Int.cast_pow, Int.cast_ofNat]
  exact mul_div_cancel_right₀ _ (by positivity)

theorem isPositive_iff :
    x.isPositive = true ↔ x.rank < infinityRank ∧ x.isNegative = false ∧ x.rank ≠ 0 := by
  have hzero : (0 : Single).place = 0 ∧ (0 : Single).isNaN = false := by decide
  have hlt : (0 < x) ↔ x.isNaN = false ∧ 0 < x.place := by
    show Single.lt 0 x = true ↔ _
    simp [lt, hzero]
  rw [isPositive, Bool.and_eq_true, decide_eq_true_eq, hlt, isFinite, decide_eq_true_eq, isNaN,
    decide_eq_false_iff_not, place]
  cases x.isNegative with
  | false =>
    simp
    omega
  | true => simp

theorem magnitude_pos_of_rank (h : x.rank ≠ 0) : 0 < x.magnitude := by
  have hlt := Grid.units_lt (f := fractionBits) (Nat.pos_of_ne_zero h)
  unfold magnitude
  omega

/-- The value of a number without a sign. -/
theorem value_eq_of_not_negative (h : x.isNegative = false) :
    x.value = x.magnitude / 2 ^ unitScale := by
  rw [value_eq, h]
  simp [unit]

theorem value_pos (h : x.isPositive = true) : 0 < x.value := by
  obtain ⟨-, hsign, hrank⟩ := isPositive_iff.1 h
  have hcast : (0 : ℚ) < x.magnitude := Nat.cast_pos.2 (magnitude_pos_of_rank hrank)
  rw [value_eq_of_not_negative hsign]
  positivity

/-- The largest value of a finite number. -/
theorem abs_value_le (h : x.rank < infinityRank) : |x.value| ≤ 2 ^ 128 - 2 ^ 104 := by
  have hmono : x.magnitude ≤ Grid.units fractionBits (infinityRank - 1) :=
    Grid.units_mono (Nat.le_sub_one_of_lt h)
  have hlast : Grid.units fractionBits (infinityRank - 1) = (2 ^ 24 - 1) * 2 ^ 253 := by
    decide
  have hcast : (x.magnitude : ℚ) ≤ ((2 ^ 24 - 1) * 2 ^ 253 : Nat) := by
    rw [hlast] at hmono
    exact Nat.cast_le.2 hmono
  have hscale : (0 : ℚ) < 2 ^ unitScale := pow_pos (by norm_num) _
  have hnonneg : (0 : ℚ) ≤ x.magnitude / 2 ^ unitScale := div_nonneg (Nat.cast_nonneg _) hscale.le
  rw [value_eq, abs_mul, abs_unit, one_mul, abs_of_nonneg hnonneg, div_le_iff₀ hscale]
  refine hcast.trans (le_of_eq ?_)
  norm_num [unitScale]

/-! ## Rounding -/

/-- A number is another value rounded once: the error is half of a unit at most, or the `2 ^ 24`-th
part of the value. -/
def Rounds (x : Single) (q : ℚ) : Prop := |x.value - q| ≤ max (1 / 2 ^ 150) (|q| / 2 ^ 24)

/-- The error of one rounding, as a sum. -/
theorem Rounds.error_le {q : ℚ} (h : x.Rounds q) :
    |x.value - q| ≤ 1 / 2 ^ 150 + |q| / 2 ^ 24 := by
  have hpart : (0 : ℚ) ≤ |q| / 2 ^ 24 := by positivity
  exact h.trans (max_le_add_of_nonneg (by norm_num) hpart)

/-- The error after a multiplication that is not rounded. -/
theorem Rounds.mul_right {q : ℚ} (h : x.Rounds q) (hs : 0 ≤ s.value)
    (hfinite : s.rank < infinityRank) :
    |x.value * s.value - q * s.value| ≤ |q * s.value| / 2 ^ 24 + (1 / 2 ^ 22 - 1 / 2 ^ 46) := by
  have hbound : s.value ≤ 2 ^ 128 - 2 ^ 104 := (le_abs_self _).trans (abs_value_le hfinite)
  have hscaled : |x.value - q| * s.value ≤ (1 / 2 ^ 150 + |q| / 2 ^ 24) * s.value :=
    mul_le_mul_of_nonneg_right h.error_le hs
  rw [← sub_mul, abs_mul, abs_mul, abs_of_nonneg hs]
  norm_num at hbound hscaled ⊢
  linarith

/-- A nearest number that is finite has the nearest rank. -/
theorem rank_nearest {negative : Bool} {num den : Nat}
    (h : (nearest negative num den).rank < infinityRank) :
    (nearest negative num den).rank = Grid.nearestRank fractionBits num den := by
  rw [nearest, rank_ofRank] at h ⊢
  omega

/-- **The nearest number rounds once.** -/
theorem rounds_nearest {negative : Bool} {num den : Nat} (hden : 0 < den)
    (h : (nearest negative num den).rank < infinityRank) :
    (nearest negative num den).Rounds (unit negative * (num / den / 2 ^ unitScale)) := by
  have herror := Grid.abs_units_nearestRank_sub_le (f := fractionBits) num (by decide) hden
  have hvalue : (nearest negative num den).value = unit negative *
      (Grid.units fractionBits (Grid.nearestRank fractionBits num den) / 2 ^ unitScale) := by
    rw [value_eq, magnitude, rank_nearest h, nearest, isNegative_ofRank]
  have hscale : (0 : ℚ) < 2 ^ unitScale := by positivity
  have hquotient : (0 : ℚ) ≤ num / den := by positivity
  unfold Rounds
  rw [hvalue, ← mul_sub, abs_mul, abs_mul, abs_unit, one_mul, one_mul, ← sub_div, abs_div,
    abs_div, abs_of_pos hscale, abs_of_nonneg hquotient, div_le_iff₀ hscale,
    max_mul_of_nonneg _ _ hscale.le]
  refine herror.trans (le_of_eq ?_)
  congr 1
  · norm_num [unitScale]
  · have hbits : fractionBits + 1 = 24 := rfl
    rw [hbits]
    field_simp

/-- A product of finite numbers is the nearest number to a quotient. -/
theorem mul_eq_nearest (hx : x.rank < infinityRank) (hy : y.rank < infinityRank) :
    x * y =
      nearest (x.isNegative != y.isNegative) (x.magnitude * y.magnitude) (1 <<< unitScale) := by
  obtain ⟨hxn, hxi⟩ := not_nan_of_rank hx
  obtain ⟨hyn, hyi⟩ := not_nan_of_rank hy
  show Single.mul x y = _
  simp [mul, hxn, hxi, hyn, hyi]

/-- The value of a product that is not rounded. -/
theorem value_mul_value (x y : Single) :
    x.value * y.value = unit (x.isNegative != y.isNegative) *
      (((x.magnitude * y.magnitude : Nat) : ℚ) / 2 ^ unitScale / 2 ^ unitScale) := by
  rw [value_eq, value_eq, unit_bne, Nat.cast_mul]
  ring

/-- **A product rounds once.** -/
theorem rounds_mul (h : (x * y).rank < infinityRank) : (x * y).Rounds (x.value * y.value) := by
  obtain ⟨hx, hy⟩ := finite_of_mul h
  rw [mul_eq_nearest hx hy] at h ⊢
  have hrounds := rounds_nearest (by decide) h
  have hscale : ((1 <<< unitScale : Nat) : ℚ) = 2 ^ unitScale := by
    rw [Nat.one_shiftLeft, Nat.cast_pow, Nat.cast_ofNat]
  rwa [hscale, ← value_mul_value] at hrounds

/-- A sum is finite only if both terms are. -/
theorem finite_of_add (h : (x + y).rank < infinityRank) :
    x.rank < infinityRank ∧ y.rank < infinityRank := by
  have hadd : (Single.add x y).rank < infinityRank := h
  have hnan : ¬ nan.rank < infinityRank := by decide
  unfold add at hadd
  split at hadd
  · exact absurd hadd hnan
  rename_i hnumbers
  simp only [isNaN, Bool.or_eq_true, decide_eq_true_eq] at hnumbers
  split at hadd
  · rename_i hinf
    simp only [isInfinite, beq_iff_eq] at hinf
    split at hadd
    · exact absurd hadd hnan
    · omega
  split at hadd
  · rename_i hinf
    simp only [isInfinite, beq_iff_eq] at hinf
    omega
  · rename_i hinf hinf'
    simp only [isInfinite, beq_iff_eq] at hinf hinf'
    omega

/-- An integer number of units with its sign. -/
theorem unit_mul_natAbs (n : Int) : unit (n < 0) * (n.natAbs : ℚ) = n := by
  have hsign : (if n < 0 then -(n.natAbs : Int) else n.natAbs) = n := ite_natAbs n
  have hcast : (((if n < 0 then -(n.natAbs : Int) else n.natAbs) : Int) : ℚ) = n := by rw [hsign]
  rw [← hcast]
  by_cases hneg : n < 0 <;> simp [unit, hneg]

/-- **A sum rounds once.** -/
theorem rounds_add (h : (x + y).rank < infinityRank) : (x + y).Rounds (x.value + y.value) := by
  obtain ⟨hx, hy⟩ := finite_of_add h
  obtain ⟨hxn, hxi⟩ := not_nan_of_rank hx
  obtain ⟨hyn, hyi⟩ := not_nan_of_rank hy
  have hvalue : x.value + y.value = ((x.units + y.units : Int) : ℚ) / 2 ^ unitScale := by
    rw [value, value, Int.cast_add, add_div]
  -- a sum of no units is an exact zero, whose sign does not come from the units
  by_cases hzero : x.units + y.units = 0
  · have hadd : x + y = zero (x.isNegative && y.isNegative) := by
      show Single.add x y = _
      simp [add, hxn, hxi, hyn, hyi, hzero]
    have hsum : (x + y).value = 0 := by
      rw [hadd, (hasValue_zero _).value, Int.cast_zero]
    unfold Rounds
    rw [hsum, hvalue, hzero]
    norm_num
  · have hadd : x + y = nearest (x.units + y.units < 0) (x.units + y.units).natAbs 1 := by
      show Single.add x y = _
      simp [add, hxn, hxi, hyn, hyi, hzero]
    rw [hadd] at h ⊢
    have hrounds := rounds_nearest Nat.one_pos h
    rwa [Nat.cast_one, div_one, ← mul_div_assoc, unit_mul_natAbs, ← hvalue] at hrounds

/-- **A quotient by a positive number rounds once.** -/
theorem rounds_div (hs : s.isPositive = true) (h : (x / s).rank < infinityRank) :
    (x / s).Rounds (x.value / s.value) := by
  obtain ⟨hsign, hsn, hsi⟩ := isPositive_spec hs
  obtain ⟨-, -, hsrank⟩ := isPositive_iff.1 hs
  -- an infinite dividend leaves an infinite quotient
  have hfinite : x.isNaN = false ∧ x.isInfinite = false := by
    have hdiv : (Single.div x s).rank < infinityRank := h
    have hnan : ¬ nan.rank < infinityRank := by decide
    have hinfinity (negative : Bool) : ¬ (infinity negative).rank < infinityRank := by
      cases negative <;> decide
    cases hxn : x.isNaN with
    | true =>
      simp only [div, hxn, Bool.true_or, if_true] at hdiv
      exact absurd hdiv hnan
    | false =>
      cases hxi : x.isInfinite with
      | true =>
        simp only [div, hxn, hsn, hxi, hsi, Bool.or_self, Bool.false_eq_true, if_false, if_true]
          at hdiv
        exact absurd hdiv (hinfinity _)
      | false => exact ⟨rfl, rfl⟩
  have hdiv : x / s = nearest (x.isNegative != s.isNegative) (x.magnitude <<< unitScale)
      s.magnitude := by
    show Single.div x s = _
    simp [div, hfinite, hsn, hsi, hsrank]
  rw [hdiv] at h ⊢
  have hrounds := rounds_nearest (magnitude_pos_of_rank hsrank) h
  have hvalue : x.value / s.value = unit (x.isNegative != s.isNegative) *
      (((x.magnitude <<< unitScale : Nat) : ℚ) / s.magnitude / 2 ^ unitScale) := by
    have hmagnitude : (s.magnitude : ℚ) ≠ 0 :=
      Nat.cast_ne_zero.2 (magnitude_pos_of_rank hsrank).ne'
    rw [value_eq, value_eq, unit_bne, hsign, Nat.shiftLeft_eq, Nat.cast_mul, Nat.cast_pow,
      Nat.cast_ofNat]
    simp only [unit, Bool.false_eq_true, if_false]
    field_simp
  rwa [hvalue]

/-- A counter is finite in single precision. -/
theorem finite_ofInt {n : Int} (hn : n.natAbs ≤ 2 ^ 31) : (ofInt n).rank < infinityRank := by
  have hmono : Grid.nearestRank fractionBits (n.natAbs <<< unitScale) 1 ≤
      Grid.nearestRank fractionBits (2 ^ 31 <<< unitScale) 1 := by
    refine Grid.nearestRank_mono (by decide) Nat.one_pos Nat.one_pos ?_
    rw [Nat.mul_one, Nat.mul_one, Nat.shiftLeft_eq, Nat.shiftLeft_eq]
    exact Nat.mul_le_mul_right _ hn
  have hlast : Grid.nearestRank fractionBits (2 ^ 31 <<< unitScale) 1 < infinityRank := by
    decide
  rw [ofInt, nearest, rank_ofRank]
  omega

/-- **A counter rounds once.** -/
theorem rounds_ofInt {n : Int} (hn : n.natAbs ≤ 2 ^ 31) : (ofInt n).Rounds n := by
  have hfinite := finite_ofInt hn
  have hvalue : unit (n < 0) * (((n.natAbs <<< unitScale : Nat) : ℚ) / (1 : Nat) / 2 ^ unitScale) =
      n := by
    have hscale : (2 ^ unitScale : ℚ) ≠ 0 := by positivity
    rw [Nat.shiftLeft_eq, Nat.cast_mul, Nat.cast_pow, Nat.cast_ofNat, Nat.cast_one, div_one,
      mul_div_cancel_right₀ _ hscale, unit_mul_natAbs]
  have hrounds := rounds_nearest Nat.one_pos hfinite
  rwa [hvalue] at hrounds

/-! ## Nearest integers -/

/-- **The nearest integer is within a half.** -/
theorem abs_nearestInt_sub_le (x : Single) : |(x.nearestInt : ℚ) - x.value| ≤ 1 / 2 := by
  have hint : 2 * (x.nearestInt * 2 ^ unitScale - x.units) ≤ 2 ^ unitScale ∧
      -(2 ^ unitScale) ≤ 2 * (x.nearestInt * 2 ^ unitScale - x.units) := by
    rw [nearestInt_eq]
    norm_num only [unitScale]
    omega
  have hupper : 2 * ((x.nearestInt : ℚ) * 2 ^ unitScale - x.units) ≤ 2 ^ unitScale := by
    exact_mod_cast hint.1
  have hlower : -(2 ^ unitScale : ℚ) ≤ 2 * (x.nearestInt * 2 ^ unitScale - x.units) := by
    exact_mod_cast hint.2
  have hscale : (0 : ℚ) < 2 ^ unitScale := by positivity
  have hdiff : (x.nearestInt : ℚ) - x.value =
      (x.nearestInt * 2 ^ unitScale - x.units) / 2 ^ unitScale := by
    rw [value, sub_div, mul_div_cancel_right₀ _ hscale.ne']
  rw [hdiff, abs_le, le_div_iff₀ hscale, div_le_iff₀ hscale]
  constructor <;> linarith

/-- The counter is the nearest integer, held to the range, also of an infinity. -/
theorem toCounter_eq_saturate (h : x.isNaN = false) : x.toCounter = saturate x.nearestInt := by
  unfold toCounter
  rw [h]
  cases hinf : x.isInfinite with
  | false => rfl
  | true =>
    have hmagnitude : x.magnitude = Grid.units fractionBits infinityRank := by
      rw [magnitude, beq_iff_eq.1 hinf]
    -- an infinity has the magnitude of the number in its place, which is beyond all counters
    have hlarge : (Grid.units fractionBits infinityRank + 1 <<< (unitScale - 1)) >>> unitScale =
        2 ^ 128 := by decide
    simp only [Bool.false_eq_true, if_false, if_true, nearestInt, hmagnitude, hlarge]
    cases x.isNegative <;> decide

/-- A counter is in its range. -/
theorem toCounter_range (x : Single) : counterMin ≤ x.toCounter ∧ x.toCounter ≤ counterMax := by
  unfold toCounter
  split
  · decide
  split
  · split <;> decide
  · unfold saturate counterMin counterMax
    omega

theorem saturate_mono {m n : Int} (h : m ≤ n) : saturate m ≤ saturate n := by
  unfold saturate
  omega

/-- The nearest integer keeps the order. -/
theorem nearestInt_le_of_place_le (h : x.place ≤ y.place) : x.nearestInt ≤ y.nearestInt := by
  have hunits := units_le_of_place_le h
  rw [nearestInt_eq, nearestInt_eq]
  norm_num only [unitScale]
  omega

theorem place_nearest (negative : Bool) (num den : Nat) :
    (nearest negative num den).place =
      if negative then -(min (Grid.nearestRank fractionBits num den) infinityRank : Int)
      else (min (Grid.nearestRank fractionBits num den) infinityRank : Int) := by
  rw [place, nearest, isNegative_ofRank, rank_ofRank, Nat.cast_min]

/-- A product with a positive number keeps the order of the other factor. -/
theorem place_mul_le (hx : x.rank < infinityRank) (hy : y.rank < infinityRank)
    (hs : s.isPositive = true) (h : x.place ≤ y.place) : (x * s).place ≤ (y * s).place := by
  obtain ⟨hfinite, hsign, -⟩ := isPositive_iff.1 hs
  have hmul {z : Single} (hz : z.rank < infinityRank) :
      z * s = nearest z.isNegative (z.magnitude * s.magnitude) (1 <<< unitScale) := by
    rw [mul_eq_nearest hz hfinite, hsign, Bool.bne_false]
  have hmono {a b : Nat} (hab : a ≤ b) :
      Grid.nearestRank fractionBits (Grid.units fractionBits a * s.magnitude) (1 <<< unitScale) ≤
        Grid.nearestRank fractionBits (Grid.units fractionBits b * s.magnitude)
          (1 <<< unitScale) :=
    Grid.nearestRank_mono (by decide) (by decide) (by decide)
      (Nat.mul_le_mul_right _ (Nat.mul_le_mul_right _ (Grid.units_mono hab)))
  rw [hmul hx, hmul hy, place_nearest, place_nearest]
  unfold place at h
  unfold magnitude at *
  cases hxneg : x.isNegative <;> cases hyneg : y.isNegative <;>
    simp only [hxneg, hyneg, Bool.false_eq_true, if_false, if_true] at h ⊢
  · have hrank := hmono (Int.ofNat_le.1 h)
    omega
  · -- both are zeros
    have hzero : x.rank = 0 ∧ y.rank = 0 := by omega
    have hnone : Grid.nearestRank fractionBits (Grid.units fractionBits 0 * s.magnitude)
        (1 <<< unitScale) = 0 := by
      have hunits : Grid.units fractionBits 0 = 0 := by decide
      rw [hunits, Nat.zero_mul]
      decide
    unfold magnitude at hnone
    rw [hzero.1, hzero.2, hnone]
    decide
  · omega
  · have hrank := hmono (show y.rank ≤ x.rank by omega)
    omega

/-- A product with a positive number is a number, also that of an infinity. -/
theorem isNaN_mul (hx : x.isNaN = false) (hs : s.isPositive = true) : (x * s).isNaN = false := by
  obtain ⟨hsfinite, -, hsrank⟩ := isPositive_iff.1 hs
  obtain ⟨hsn, hsi⟩ := not_nan_of_rank hsfinite
  show (Single.mul x s).isNaN = false
  simp only [mul, hx, hsn, hsi, hsrank, Bool.or_self, Bool.or_false, Bool.false_eq_true, if_false,
    decide_false, decide_eq_true_eq]
  split
  · rename_i hinf
    have hne : x.rank ≠ 0 := by
      rw [beq_iff_eq.1 hinf]
      decide
    rw [if_neg hne]
    exact isNaN_ofRank
  · exact isNaN_ofRank

/-- **The counter of a product with a positive number keeps the order** of the other factor. -/
theorem toCounter_mul_mono (hx : x.rank < infinityRank) (hy : y.rank < infinityRank)
    (hs : s.isPositive = true) (h : x ≤ y) : (x * s).toCounter ≤ (y * s).toCounter := by
  have hplace := place_mul_le hx hy hs (place_le_of_le h).2.2
  rw [toCounter_eq_saturate (isNaN_mul (not_nan_of_rank hx).1 hs),
    toCounter_eq_saturate (isNaN_mul (not_nan_of_rank hy).1 hs)]
  exact saturate_mono (nearestInt_le_of_place_le hplace)

/-! ## Signs -/

theorem mul_comm' (x y : Single) : x * y = y * x := by
  have hsign : (x.isNegative != y.isNegative) = (y.isNegative != x.isNegative) := by
    cases x.isNegative <;> cases y.isNegative <;> rfl
  show Single.mul x y = Single.mul y x
  unfold mul
  rw [hsign, Bool.or_comm x.isNaN, Bool.or_comm x.isInfinite, Nat.mul_comm x.magnitude]
  simp only [Bool.or_comm (decide (x.rank = 0))]

/-- The nearest integer of a number with the same rank. -/
theorem nearestInt_of_rank {flipped : Bool} (hrank : x.rank = y.rank)
    (hsign : x.isNegative = (flipped != y.isNegative)) :
    x.nearestInt = if flipped then -y.nearestInt else y.nearestInt := by
  rw [nearestInt, nearestInt, magnitude_eq_of_rank hrank, hsign]
  cases flipped <;> cases y.isNegative <;> simp

/-- A number times a sign has its nearest integer, up to the sign. -/
theorem nearestInt_mul_sign (direction : Direction) (hx : x.rank < infinityRank) :
    (x * direction.sign).nearestInt = direction.toInt * x.nearestInt := by
  obtain ⟨hrank, hsign⟩ := sign_mul direction hx
  rw [mul_comm', nearestInt_of_rank hrank hsign]
  cases direction <;> simp [Direction.toInt]

/-- The nearest integer of an integer goes with its sign. -/
theorem nearestInt_ofInt_mul (direction : Direction) (n : Int) :
    (ofInt (direction.toInt * n)).nearestInt = direction.toInt * (ofInt n).nearestInt := by
  cases direction with
  | positive => simp [Direction.toInt]
  | negative =>
    by_cases hzero : n = 0
    · rw [hzero]
      decide
    · have hflip : decide (-n < 0) = (true != decide (n < 0)) := by
        rw [Bool.true_bne, ← decide_not, decide_eq_decide]
        omega
      have hrank : (ofInt (-n)).rank = (ofInt n).rank := by
        rw [ofInt, ofInt, nearest, nearest, rank_ofRank, rank_ofRank, Int.natAbs_neg]
      have hsign : (ofInt (-n)).isNegative = (true != (ofInt n).isNegative) := by
        rw [ofInt, ofInt, nearest, nearest, isNegative_ofRank, isNegative_ofRank, hflip]
      have hnearest := nearestInt_of_rank hrank hsign
      simpa [Direction.toInt] using hnearest

/-! ## Counters -/

theorem saturate_of_range {n : Int} (hmin : counterMin ≤ n) (hmax : n ≤ counterMax) :
    saturate n = n := by
  unfold saturate
  omega

/-- The range brings an integer closer to a counter. -/
theorem abs_saturate_sub_le {m n : Int} (hmin : counterMin ≤ n) (hmax : n ≤ counterMax) :
    |saturate m - n| ≤ |m - n| := by
  have hupper := le_abs_self (m - n)
  have hlower := neg_abs_le (m - n)
  rw [abs_le]
  unfold saturate
  omega

/-- A counter in single precision is a whole number. -/
theorem exists_hasValue_ofInt {n : Int} (hn : n.natAbs ≤ 2 ^ 31) :
    ∃ m, (ofInt n).HasValue m := by
  by_cases hsmall : n.natAbs ≤ 2 ^ 24
  · exact ⟨n, hasValue_ofInt hsmall⟩
  have hfinite := finite_ofInt hn
  have hrank : (ofInt n).rank = Grid.nearestRank fractionBits (n.natAbs <<< unitScale) 1 :=
    rank_nearest hfinite
  -- beyond `2 ^ 24` a step of the grid is a whole number
  have hstep : unitScale ≤ Grid.stepExponent fractionBits (n.natAbs <<< unitScale / 1) := by
    have hlog : fractionBits + unitScale ≤ (n.natAbs <<< unitScale).log2 := by
      have hne : n.natAbs <<< unitScale ≠ 0 := by
        rw [Nat.shiftLeft_eq]
        exact Nat.mul_ne_zero (by omega) (Nat.two_pow_pos _).ne'
      rw [Nat.le_log2 hne, Nat.shiftLeft_eq, Nat.pow_add]
      exact Nat.mul_le_mul_right _ (Nat.le_trans (by decide) (Nat.le_of_not_le hsmall))
    rw [Nat.div_one, Grid.stepExponent]
    omega
  obtain ⟨whole, hwhole⟩ := Nat.dvd_trans (Nat.pow_dvd_pow 2 hstep)
    (Grid.step_dvd_units_nearestRank fractionBits (n.natAbs <<< unitScale) 1)
  have hmagnitude : (ofInt n).magnitude = whole * 2 ^ unitScale := by
    rw [magnitude, hrank, hwhole, Nat.mul_comm]
  exact ⟨_, (IsWhole.mk hfinite rfl hmagnitude).hasValue⟩

/-- **The error of an integer in single precision** is at most one increment in `2 ^ 24`. -/
theorem toCounter_ofInt_error {n : Int} (hn : n.natAbs ≤ 2 ^ 31) :
    2 ^ 24 * |(ofInt n).toCounter - n| ≤ |n| := by
  obtain ⟨m, hvalue⟩ := exists_hasValue_ofInt hn
  have hcounter : (ofInt n).toCounter = saturate m := by
    rw [toCounter_eq_saturate (isNaN_ofInt n), hvalue.nearestInt]
  have hrounds : |((m - n : Int) : ℚ)| ≤ max (1 / 2 ^ 150) (|(n : ℚ)| / 2 ^ 24) := by
    have h := rounds_ofInt hn
    rw [Rounds, hvalue.value] at h
    rwa [Int.cast_sub]
  have herror : 2 ^ 24 * |m - n| ≤ |n| := by
    by_cases hsame : m = n
    · simp [hsame]
    · -- a difference of whole numbers is larger than half of a unit
      have hone : (1 : ℚ) ≤ |((m - n : Int) : ℚ)| := by
        rw [← Int.cast_abs]
        exact_mod_cast Int.one_le_abs (sub_ne_zero.2 hsame)
      have hpart : |((m - n : Int) : ℚ)| ≤ |(n : ℚ)| / 2 ^ 24 := by
        rcases le_max_iff.1 hrounds with hunit | hpart
        · norm_num at hunit hone
          linarith
        · exact hpart
      rw [le_div_iff₀ (by norm_num), mul_comm, ← Int.cast_abs, ← Int.cast_abs] at hpart
      exact_mod_cast hpart
  by_cases hlast : n = 2 ^ 31
  · -- the first integer beyond the range is cut off by one
    rw [hlast]
    decide
  · have hclose : |saturate m - n| ≤ |m - n| :=
      abs_saturate_sub_le (by unfold counterMin; omega) (by unfold counterMax; omega)
    rw [hcounter]
    exact le_trans (mul_le_mul_of_nonneg_left hclose (by norm_num)) herror

end Single

end MotionControl
