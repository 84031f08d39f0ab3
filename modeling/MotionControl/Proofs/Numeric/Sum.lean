import MotionControl.Proofs.Numeric.Whole

/-!
# Sums with whole numbers

A step counter to which a displacement is added may be rounded. Where it is not, the counter and
its nearest integer go up by the displacement.

* `Single.HasValue`: a number with an integer value; `HasValue.add`: the sum of two of them.
* `Single.MovesExactly`: a displacement of a counter that loses nothing.
* `Single.toCounter_add`: **a displacement that loses nothing goes over to the counter's integer.**
-/

namespace MotionControl

namespace Single

/-! ## Integer values -/

/-- A finite number with the value of an integer. -/
structure HasValue (x : Single) (n : Int) : Prop where
  finite : x.rank < infinityRank
  units : x.units = n * 2 ^ unitScale

theorem IsWhole.hasValue {negative : Bool} {m : Nat} {x : Single} (h : x.IsWhole negative m) :
    x.HasValue (if negative then -(m : Int) else m) := by
  refine ⟨h.finite, ?_⟩
  rw [Single.units, h.sign, h.magnitude]
  cases negative <;> simp

theorem ite_natAbs (n : Int) : (if n < 0 then -(n.natAbs : Int) else n.natAbs) = n := by
  split <;> omega

/-- A number that is not rounded has its value. -/
theorem hasValue_nearest {n : Int} (hn : n.natAbs ≤ 2 ^ 24) :
    (nearest (n < 0) (n.natAbs * 2 ^ unitScale) 1).HasValue n := by
  have hwhole := isWhole_nearest (n < 0) Nat.one_pos hn
  rw [Nat.mul_one] at hwhole
  have hvalue := hwhole.hasValue
  simp only [decide_eq_true_eq, ite_natAbs] at hvalue
  exact hvalue

theorem hasValue_ofInt {n : Int} (hn : n.natAbs ≤ 2 ^ 24) : (ofInt n).HasValue n := by
  rw [ofInt, Nat.shiftLeft_eq]
  exact hasValue_nearest hn

theorem hasValue_zero (negative : Bool) : (zero negative).HasValue 0 := by
  cases negative
  · exact ⟨by decide, by decide⟩
  · exact ⟨by decide, by decide⟩

/-- A sum of at most 24 bits is not rounded. -/
theorem HasValue.add {x y : Single} {k n : Int} (hx : x.HasValue k) (hy : y.HasValue n)
    (hsum : (k + n).natAbs ≤ 2 ^ 24) : (x + y).HasValue (k + n) := by
  obtain ⟨hxn, hxi⟩ := not_nan_of_rank hx.finite
  obtain ⟨hyn, hyi⟩ := not_nan_of_rank hy.finite
  have hunits : x.units + y.units = (k + n) * 2 ^ unitScale := by
    rw [hx.units, hy.units, add_mul]
  have hneg : (k + n) * 2 ^ unitScale < 0 ↔ k + n < 0 := by
    norm_num only [unitScale]
    omega
  have habs : ((k + n) * 2 ^ unitScale).natAbs = (k + n).natAbs * 2 ^ unitScale := by
    rw [Int.natAbs_mul, Int.natAbs_pow]
    rfl
  show (Single.add x y).HasValue (k + n)
  simp only [Single.add, hxn, hxi, hyn, hyi, hunits, Bool.or_self, Bool.false_eq_true, if_false,
    hneg, habs]
  split
  · rename_i hzero
    have hsame : k + n = 0 := by
      norm_num only [unitScale] at hzero
      omega
    rw [hsame]
    exact hasValue_zero _
  · exact hasValue_nearest hsum

/-! ## Nearest integers -/

/-- The nearest integer in terms of units, a half going away from zero. -/
theorem nearestInt_eq (x : Single) :
    x.nearestInt =
      if x.units < 0 then -((-x.units + 2 ^ (unitScale - 1)) / 2 ^ unitScale)
      else (x.units + 2 ^ (unitScale - 1)) / 2 ^ unitScale := by
  have hcast : (((x.magnitude + 1 <<< (unitScale - 1)) >>> unitScale : Nat) : Int) =
      (x.magnitude + 2 ^ (unitScale - 1)) / 2 ^ unitScale := by
    rw [Nat.shiftRight_eq_div_pow, Nat.shiftLeft_eq, Nat.one_mul]
    push_cast
    rfl
  simp only [nearestInt, hcast, Single.units]
  norm_num only [unitScale]
  cases x.isNegative with
  | false =>
    simp only [Bool.false_eq_true, if_false]
    omega
  | true =>
    simp only [if_true]
    omega

/-- A displacement of a step counter that loses nothing: the sum is not rounded, the nearest
integers keep in the range of a counter, and the displacement does not take a counter that is half
way between two integers to the other side of zero. -/
structure MovesExactly (x : Single) (n : Int) : Prop where
  finite : x.rank < infinityRank ∧ (x + ofInt n).rank < infinityRank
  units : (x + ofInt n).units = x.units + n * 2 ^ unitScale
  range : counterMin ≤ x.nearestInt ∧ x.nearestInt ≤ counterMax ∧
    counterMin ≤ x.nearestInt + n ∧ x.nearestInt + n ≤ counterMax
  side : x.units % 2 ^ unitScale = 2 ^ (unitScale - 1) →
    0 ≤ x.units ∧ 0 ≤ (x + ofInt n).units ∨ x.units ≤ 0 ∧ (x + ofInt n).units ≤ 0

theorem MovesExactly.nearestInt_add {x : Single} {n : Int} (h : x.MovesExactly n) :
    (x + ofInt n).nearestInt = x.nearestInt + n := by
  have hside := h.side
  rw [nearestInt_eq, nearestInt_eq]
  rw [h.units] at hside ⊢
  generalize x.units = u at hside ⊢
  by_cases hhalf : u % 2 ^ unitScale = 2 ^ (unitScale - 1)
  · -- half way: both counters are rounded away from zero on the same side
    have hsame := hside hhalf
    norm_num only [unitScale] at hhalf hsame ⊢
    omega
  · norm_num only [unitScale] at hhalf ⊢
    omega

theorem MovesExactly.toCounter_add {x : Single} {n : Int} (h : x.MovesExactly n) :
    (x + ofInt n).toCounter = x.toCounter + n := by
  obtain ⟨hxn, hxi⟩ := not_nan_of_rank h.finite.1
  obtain ⟨hsn, hsi⟩ := not_nan_of_rank h.finite.2
  obtain ⟨hmin, hmax, hmin', hmax'⟩ := h.range
  simp only [toCounter, hxn, hxi, hsn, hsi, Bool.false_eq_true, if_false, h.nearestInt_add,
    saturate]
  omega

/-- A whole counter is displaced without loss if the displacement and the sum have at most 24
bits. -/
theorem movesExactly_of_hasValue {x : Single} {k n : Int} (hx : x.HasValue k)
    (hn : n.natAbs ≤ 2 ^ 24) (hsum : (k + n).natAbs ≤ 2 ^ 24) : x.MovesExactly n := by
  have hadded := hx.add (hasValue_ofInt hn) hsum
  have hnearest : x.nearestInt = k := by
    rw [nearestInt_eq, hx.units]
    norm_num only [unitScale]
    omega
  refine ⟨⟨hx.finite, hadded.finite⟩, ?_, ?_, ?_⟩
  · rw [hadded.units, hx.units, add_mul]
  · rw [hnearest]
    unfold counterMin counterMax
    omega
  · intro hhalf
    rw [hx.units, Int.mul_emod_left] at hhalf
    cases hhalf

end Single

end MotionControl
