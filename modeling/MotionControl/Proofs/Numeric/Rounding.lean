import MotionControl.Proofs.Numeric.Exact

/-!
# Rounding to the grid

Which rank is nearest to a quotient is decided at the midpoints between neighbouring magnitudes.
The order of the quotients and the error of rounding follow from that alone.

* `Grid.units_lt`, `Grid.units_succ_le`: the magnitudes grow strictly, and by how much at most.
* `Grid.nearestRank_le_iff`: **the nearest rank is at most `rank` exactly below the midpoint above
  it**, a tie going to the even one.
* `Grid.nearestRank_mono`: rounding keeps the order of the quotients.
* `Grid.units_nearestRank_le`, `Grid.le_units_nearestRank`: **the error of rounding** is half of a
  step at most.
-/

namespace MotionControl.Grid

variable {f num den num' den' rank rank' : Nat}

/-! ## Steps -/

/-- The magnitude of a rank that is told by a binade and a number of its steps. -/
theorem units_of_steps {e whole : Nat} (hwhole : whole ≤ 2 ^ (f + 1))
    (hfull : e = 0 ∨ 2 ^ f ≤ whole) : units f (e * 2 ^ f + whole) = whole * 2 ^ e := by
  have hpos : 0 < 2 ^ f := Nat.two_pow_pos f
  have hdouble : 2 ^ (f + 1) = 2 * 2 ^ f := by rw [Nat.pow_succ, Nat.mul_comm]
  rw [units_eq]
  by_cases hsmall : whole < 2 ^ f
  · have hzero : e = 0 := by omega
    rw [hzero, Nat.zero_mul, Nat.zero_add, if_pos hsmall, Nat.pow_zero, Nat.mul_one]
  have hlarge : ¬ e * 2 ^ f + whole < 2 ^ f := by omega
  rw [if_neg hlarge]
  rcases Nat.eq_or_lt_of_le hwhole with hlast | hlt
  · -- the binade is full, so that the rank starts the one after the next
    have hrank : e * 2 ^ f + whole = (e + 2) * 2 ^ f := by
      rw [hlast, hdouble]
      ring
    rw [hrank, Nat.mul_mod_left, Nat.mul_div_cancel _ hpos, Nat.shiftLeft_eq, hlast]
    have hbinade : e + 2 - 1 = e + 1 := rfl
    rw [hbinade]
    ring
  · obtain ⟨place, hplace⟩ := Nat.exists_eq_add_of_le (Nat.le_of_not_lt hsmall)
    have hrank : e * 2 ^ f + whole = place + (e + 1) * 2 ^ f := by
      rw [hplace]
      ring
    have hin : place < 2 ^ f := by omega
    rw [hrank, Nat.add_mul_mod_self_right, Nat.mod_eq_of_lt hin, Nat.add_mul_div_right _ _ hpos,
      Nat.div_eq_of_lt hin, Nat.zero_add, Nat.add_sub_cancel, Nat.shiftLeft_eq, hplace]

/-- **The magnitudes grow strictly with the rank.** -/
theorem units_lt (h : rank < rank') : units f rank < units f rank' := by
  refine Nat.lt_of_le_of_ne (units_mono h.le) fun hsame => ?_
  have hrank := (exactRank_units f rank).2
  rw [hsame, (exactRank_units f rank').2] at hrank
  omega

/-- The step to the next magnitude is one unit, or at most the `2 ^ f`-th part of the magnitude. -/
theorem units_succ_le (f rank : Nat) :
    2 ^ f * units f (rank + 1) ≤ 2 ^ f * units f rank + max (2 ^ f) (units f rank) := by
  have hdouble : 2 ^ (f + 1) = 2 * 2 ^ f := by rw [Nat.pow_succ, Nat.mul_comm]
  rcases units_cases f rank with ⟨hsmall, hunits⟩ | ⟨b, p, hp, hrank, hunits⟩
  · have hnext : units f (rank + 1) = rank + 1 := by
      have hsteps : units f (0 * 2 ^ f + (rank + 1)) = (rank + 1) * 2 ^ 0 :=
        units_of_steps (by omega) (.inl rfl)
      simpa using hsteps
    rw [hnext, hunits, Nat.mul_add, Nat.mul_one]
    exact Nat.add_le_add_left (Nat.le_max_left ..) _
  · have hnext : units f (rank + 1) = (2 ^ f + p + 1) * 2 ^ b := by
      have hsteps : units f (b * 2 ^ f + (2 ^ f + p + 1)) = (2 ^ f + p + 1) * 2 ^ b :=
        units_of_steps (by omega) (.inr (by omega))
      rwa [← Nat.add_assoc, show b * 2 ^ f + (2 ^ f + p) = rank by rw [hrank]; ring] at hsteps
    have hstep : 2 ^ f * 2 ^ b ≤ (2 ^ f + p) * 2 ^ b :=
      Nat.mul_le_mul_right _ (Nat.le_add_right ..)
    calc 2 ^ f * units f (rank + 1) = 2 ^ f * units f rank + 2 ^ f * 2 ^ b := by
          rw [hnext, hunits]
          ring
      _ ≤ 2 ^ f * units f rank + units f rank := by
          rw [← hunits] at hstep
          exact Nat.add_le_add_left hstep _
      _ ≤ 2 ^ f * units f rank + max (2 ^ f) (units f rank) :=
          Nat.add_le_add_left (Nat.le_max_right ..) _

/-! ## The nearest rank -/

/-- The whole steps in a quotient fit into one binade, and fill the lower half of one that is not
the first. -/
theorem wholeSteps_spec (f num den : Nat) :
    num / (den * 2 ^ stepExponent f (num / den)) < 2 ^ (f + 1) ∧
      (stepExponent f (num / den) = 0 ∨
        2 ^ f ≤ num / (den * 2 ^ stepExponent f (num / den))) := by
  rw [← Nat.div_div_eq_div_mul]
  refine ⟨div_step_lt f _, ?_⟩
  by_cases hzero : stepExponent f (num / den) = 0
  · exact .inl hzero
  · exact .inr (le_div_step hzero)

/-- The nearest magnitude is a whole number of steps. -/
theorem step_dvd_units_nearestRank (f num den : Nat) :
    2 ^ stepExponent f (num / den) ∣ units f (nearestRank f num den) := by
  obtain ⟨hlt, hfull⟩ := wholeSteps_spec f num den
  unfold nearestRank
  simp only [Nat.shiftLeft_eq]
  split
  · rw [units_of_steps hlt (hfull.imp_right Nat.le_succ_of_le)]
    exact Nat.dvd_mul_left ..
  · rw [units_of_steps hlt.le hfull]
    exact Nat.dvd_mul_left ..

/-- The nearest rank is one of the two around the quotient, on the side of the midpoint on which
the quotient lies. -/
theorem nearestRank_cases (num : Nat) (hf : f ≠ 0) (hden : 0 < den) :
    ∃ low, units f low * den ≤ num ∧ num < units f (low + 1) * den ∧
      nearestRank f num den =
        if (units f low + units f (low + 1)) * den < 2 * num ∨
            (units f low + units f (low + 1)) * den = 2 * num ∧ low % 2 = 1 then low + 1
        else low := by
  obtain ⟨hlt, hfull⟩ := wholeSteps_spec f num den
  have hstep : 0 < den * 2 ^ stepExponent f (num / den) :=
    Nat.mul_pos hden (Nat.two_pow_pos _)
  have hsplit := Nat.div_add_mod num (den * 2 ^ stepExponent f (num / den))
  have hrest := Nat.mod_lt num hstep
  have hlow := units_of_steps hlt.le hfull
  have hhigh := units_of_steps hlt (hfull.imp_right Nat.le_succ_of_le)
  refine ⟨stepExponent f (num / den) * 2 ^ f + num / (den * 2 ^ stepExponent f (num / den)), ?_⟩
  unfold nearestRank
  simp only [Nat.shiftLeft_eq, Nat.add_assoc]
  rw [hlow, hhigh]
  generalize stepExponent f (num / den) = e at *
  generalize num / (den * 2 ^ e) = whole at *
  generalize num % (den * 2 ^ e) = rest at *
  have hlowden : whole * 2 ^ e * den = den * 2 ^ e * whole := by ring
  have hhighden : (whole + 1) * 2 ^ e * den = den * 2 ^ e * whole + den * 2 ^ e := by ring
  rw [Nat.add_mul, hlowden, hhighden]
  generalize den * 2 ^ e = step at *
  generalize step * whole = base at *
  have hparity : (e * 2 ^ f + whole) % 2 = whole % 2 := by
    obtain ⟨k, rfl⟩ := Nat.exists_eq_add_one_of_ne_zero hf
    have heven : e * 2 ^ (k + 1) = 2 * (e * 2 ^ k) := by ring
    omega
  rw [hparity]
  refine ⟨by omega, by omega, ?_⟩
  by_cases hup : step < 2 * rest ∨ step = 2 * rest ∧ whole % 2 = 1
  · have hmid : base + (base + step) < 2 * num ∨
        base + (base + step) = 2 * num ∧ whole % 2 = 1 := by omega
    have hbool : (decide (step < 2 * rest) || (step == 2 * rest && whole % 2 == 1)) = true := by
      simpa using hup
    rw [hbool, if_pos rfl, if_pos hmid]
  · have hmid : ¬ (base + (base + step) < 2 * num ∨
        base + (base + step) = 2 * num ∧ whole % 2 = 1) := by omega
    have hbool : ¬ (decide (step < 2 * rest) || (step == 2 * rest && whole % 2 == 1)) = true := by
      simpa using hup
    rw [if_neg hbool, if_neg hmid]

/-- **The nearest rank is at most `rank` exactly below the midpoint above it**, or at the midpoint
if `rank` is even. -/
theorem nearestRank_le_iff (num rank : Nat) (hf : f ≠ 0) (hden : 0 < den) :
    nearestRank f num den ≤ rank ↔
      2 * num < (units f rank + units f (rank + 1)) * den ∨
        2 * num = (units f rank + units f (rank + 1)) * den ∧ rank % 2 = 0 := by
  obtain ⟨low, hlow, hhigh, hrank⟩ := nearestRank_cases num hf hden
  have hstep : units f rank < units f (rank + 1) := units_lt (Nat.lt_succ_self _)
  rcases Nat.lt_trichotomy rank low with hlt | rfl | hgt
  · -- the midpoint lies below the quotient
    have hmono : units f (rank + 1) ≤ units f low := units_mono hlt
    have hmid : (units f rank + units f (rank + 1)) * den < 2 * num :=
      calc (units f rank + units f (rank + 1)) * den < (2 * units f low) * den :=
            Nat.mul_lt_mul_of_pos_right (by omega) hden
        _ = 2 * (units f low * den) := by ring
        _ ≤ 2 * num := Nat.mul_le_mul_left 2 hlow
    have hbig : low ≤ nearestRank f num den := by
      rw [hrank]
      split <;> omega
    omega
  · rw [hrank]
    generalize (units f rank + units f (rank + 1)) * den = mid
    split <;> omega
  · -- the midpoint lies above the quotient
    have hmono : units f (low + 1) ≤ units f rank := units_mono hgt
    have hmid : 2 * num < (units f rank + units f (rank + 1)) * den :=
      calc 2 * num < 2 * (units f (low + 1) * den) := by omega
        _ = (2 * units f (low + 1)) * den := by ring
        _ ≤ (units f rank + units f (rank + 1)) * den := Nat.mul_le_mul_right _ (by omega)
    have hsmall : nearestRank f num den ≤ low + 1 := by
      rw [hrank]
      split <;> omega
    exact iff_of_true (Nat.le_trans hsmall hgt) (.inl hmid)

/-- **Rounding keeps the order of the quotients.** -/
theorem nearestRank_mono (hf : f ≠ 0) (hden : 0 < den) (hden' : 0 < den')
    (h : num * den' ≤ num' * den) : nearestRank f num den ≤ nearestRank f num' den' := by
  have hself := (nearestRank_le_iff num' (nearestRank f num' den') hf hden').1 (Nat.le_refl _)
  refine (nearestRank_le_iff _ _ hf hden).2 ?_
  generalize nearestRank f num' den' = rank at *
  generalize units f rank + units f (rank + 1) = mid at *
  have hscaled : 2 * num * den' ≤ 2 * num' * den := by
    rw [Nat.mul_assoc, Nat.mul_assoc]
    exact Nat.mul_le_mul_left 2 h
  rcases hself with hlt | ⟨heq, heven⟩
  · have hcross : 2 * num * den' < mid * den * den' :=
      calc 2 * num * den' ≤ 2 * num' * den := hscaled
        _ < mid * den' * den := Nat.mul_lt_mul_of_pos_right hlt hden
        _ = mid * den * den' := by ring
    exact .inl (Nat.lt_of_mul_lt_mul_right hcross)
  · have hcross : 2 * num * den' ≤ mid * den * den' :=
      calc 2 * num * den' ≤ 2 * num' * den := hscaled
        _ = mid * den' * den := by rw [heq]
        _ = mid * den * den' := by ring
    rcases Nat.eq_or_lt_of_le (Nat.le_of_mul_le_mul_right hcross hden') with heq | hlt
    · exact .inr ⟨heq, heven⟩
    · exact .inl hlt

/-! ## The error -/

/-- **The nearest magnitude is hardly larger than the quotient**: by half a unit, or by the
`2 ^ (f + 1)`-th part of the quotient. -/
theorem units_nearestRank_le (num : Nat) (hf : f ≠ 0) (hden : 0 < den) :
    2 ^ (f + 1) * (units f (nearestRank f num den) * den) ≤
      2 ^ (f + 1) * num + max (2 ^ f * den) num := by
  have hdouble : 2 ^ (f + 1) = 2 ^ f * 2 := Nat.pow_succ ..
  rcases Nat.eq_zero_or_eq_succ_pred (nearestRank f num den) with hzero | hsucc
  · have hnone : units f 0 = 0 := by simp [units_eq]
    rw [hzero, hnone]
    simp
  · generalize (nearestRank f num den).pred = low at hsucc
    have hstep := units_succ_le f low
    have hlt := units_lt (f := f) (Nat.lt_succ_self low)
    -- the quotient is at least the midpoint below the rank
    have hmid : (units f low + units f (low + 1)) * den ≤ 2 * num := by
      have hnot : ¬ nearestRank f num den ≤ low := by omega
      rw [nearestRank_le_iff _ _ hf hden] at hnot
      omega
    rw [hsucc]
    generalize units f low = a at *
    generalize units f (low + 1) = b at *
    have hbelow : a * den ≤ num := by
      have hsum : a * den + a * den ≤ (a + b) * den := by
        rw [← Nat.add_mul]
        exact Nat.mul_le_mul_right _ (by omega)
      omega
    have hmax : max (2 ^ f) a * den ≤ max (2 ^ f * den) num := by
      rcases Nat.le_total (2 ^ f) a with hle | hle
      · rw [Nat.max_eq_right hle]
        exact Nat.le_trans hbelow (Nat.le_max_right ..)
      · rw [Nat.max_eq_left hle]
        exact Nat.le_max_left ..
    calc 2 ^ (f + 1) * (b * den) = 2 ^ f * b * den + 2 ^ f * b * den := by rw [hdouble]; ring
      _ ≤ (2 ^ f * a + max (2 ^ f) a) * den + 2 ^ f * b * den :=
          Nat.add_le_add_right (Nat.mul_le_mul_right _ hstep) _
      _ = 2 ^ f * ((a + b) * den) + max (2 ^ f) a * den := by ring
      _ ≤ 2 ^ f * (2 * num) + max (2 ^ f * den) num :=
          Nat.add_le_add (Nat.mul_le_mul_left _ hmid) hmax
      _ = 2 ^ (f + 1) * num + max (2 ^ f * den) num := by rw [hdouble]; ring

/-- **The nearest magnitude is hardly smaller than the quotient.** -/
theorem le_units_nearestRank (num : Nat) (hf : f ≠ 0) (hden : 0 < den) :
    2 ^ (f + 1) * num ≤
      2 ^ (f + 1) * (units f (nearestRank f num den) * den) + max (2 ^ f * den) num := by
  have hdouble : 2 ^ (f + 1) = 2 ^ f * 2 := Nat.pow_succ ..
  -- the quotient is at most the midpoint above the rank
  have hmid : 2 * num ≤
      (units f (nearestRank f num den) + units f (nearestRank f num den + 1)) * den := by
    have hself := (nearestRank_le_iff num (nearestRank f num den) hf hden).1 (Nat.le_refl _)
    omega
  have hstep := units_succ_le f (nearestRank f num den)
  generalize units f (nearestRank f num den + 1) = b at *
  generalize units f (nearestRank f num den) = a at *
  rcases Nat.le_total num (a * den) with hle | hle
  · exact Nat.le_add_right_of_le (Nat.mul_le_mul_left _ hle)
  have hmax : max (2 ^ f) a * den ≤ max (2 ^ f * den) num := by
    rcases Nat.le_total (2 ^ f) a with hle' | hle'
    · rw [Nat.max_eq_right hle']
      exact Nat.le_trans hle (Nat.le_max_right ..)
    · rw [Nat.max_eq_left hle']
      exact Nat.le_max_left ..
  calc 2 ^ (f + 1) * num = 2 ^ f * (2 * num) := by rw [hdouble]; ring
    _ ≤ 2 ^ f * ((a + b) * den) := Nat.mul_le_mul_left _ hmid
    _ = 2 ^ f * a * den + 2 ^ f * b * den := by ring
    _ ≤ 2 ^ f * a * den + (2 ^ f * a + max (2 ^ f) a) * den :=
        Nat.add_le_add_left (Nat.mul_le_mul_right _ hstep) _
    _ = 2 ^ (f + 1) * (a * den) + max (2 ^ f) a * den := by rw [hdouble]; ring
    _ ≤ 2 ^ (f + 1) * (a * den) + max (2 ^ f * den) num := Nat.add_le_add_left hmax _

end MotionControl.Grid
