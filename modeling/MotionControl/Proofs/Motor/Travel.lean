import MotionControl.Proofs.Contact
import MotionControl.Proofs.Numeric.Order

/-!
# Motors on the way to their targets

A motor goes the rounded way left, if it can go that far, and what it can go otherwise. What it can
go is then below the way left as that is rounded, and so below the exact way, so that the motor does
not come to the other side of its target.

* `SimulatedChannel.advance_of_stepping`, `advance_of_waiting`: what some time does;
  `travelTime?_of_stepping`, `travelTime?_of_waiting`: for how long the motor travels in it.
* `SimulatedChannel.steps_travel_between`: **a travel ends between where it began and the target.**
* `delta_between`, `delta_towards`: what is added to the position does not go past the way left, and
  has its direction.
-/

namespace MotionControl.SimulatedChannel

open Single

variable {c : SimulatedChannel} {dt : Nat}

/-! ## Some time -/

/-- A motor that emits steps travels. -/
theorem advance_of_stepping (h : c.motion = .stepping) (dt : Nat) :
    c.advance dt = c.travel dt := by
  rw [← travel_with dt c.motion]
  unfold advance
  simp only [h]

/-- A motor that waits goes on waiting, or it travels for the rest of the time. -/
theorem advance_of_waiting {delay : Nat} (h : c.motion = .waiting delay) (dt : Nat) :
    c.advance dt =
      if dt < delay then { c with isBlocked := false, motion := .waiting (delay - dt) }
      else c.travel (dt - delay) := by
  rw [← travel_with (dt - delay) c.motion]
  unfold advance
  simp only [h]

theorem travelTime?_of_stepping (h : c.motion = .stepping) (dt : Nat) :
    c.travelTime? dt = some dt := by
  unfold travelTime?
  rw [h]

/-- A motor that starts travels for what is left of the time. -/
theorem travelTime?_of_waiting {delay : Nat} (h : c.motion = .waiting delay) (hlong : delay ≤ dt) :
    c.travelTime? dt = some (dt - delay) := by
  unfold travelTime?
  rw [h]
  exact if_neg (Nat.not_lt.2 hlong)

/-- A motor travels no longer than the time that passes. -/
theorem travelTime?_le {time : Nat} (h : c.travelTime? dt = some time) : time ≤ dt := by
  unfold travelTime? at h
  split at h
  · cases h
  · split at h
    · cases h
    · cases h
      exact Nat.sub_le ..
  · cases h
    exact Nat.le_refl _

/-! ## How far a motor can go -/

theorem isNegative_distance (h : c.velocity.isNegative = false) (dt : Nat) :
    (c.distance dt).isNegative = false :=
  isNegative_div (isNegative_mul h (isNegative_ofNat dt)) (isNegative_ofNat 1000)

theorem units_distance (h : c.velocity.isNegative = false) (dt : Nat) :
    (c.distance dt).units = (c.distance dt).magnitude := by
  rw [units, isNegative_distance h dt, if_neg Bool.false_ne_true]

/-- What a motor can go is a number, also if it is an infinity. -/
theorem isNaN_distance (hvelocity : c.velocity.rank < infinityRank) (hdt : dt < UInt32.size) :
    (c.distance dt).isNaN = false := by
  refine isNaN_div ?_ (by decide)
  rw [mul_eq_nearest hvelocity (finite_ofNat hdt)]
  exact isNaN_ofRank

/-- **A motor that does not arrive goes less than the exact way left.** -/
theorem magnitude_distance_lt (hforward : c.velocity.isNegative = false)
    (hnumber : (c.distance dt).isNaN = false) (hsteps : c.steps.rank < infinityRank)
    (htarget : c.target.rank < infinityRank) (harrives : c.arrives dt = false) :
    (c.distance dt).rank < infinityRank ∧
      (c.distance dt).magnitude < (c.target.units - c.steps.units).natAbs := by
  have hremaining : c.remaining.abs.isNaN = false := by
    rw [isNaN, rank_abs]
    exact isNaN_sub htarget hsteps
  exact magnitude_lt_of_lt_abs_sub htarget hsteps (isNegative_distance hforward dt)
    (lt_of_le_eq_false hremaining hnumber harrives)

/-- **A travel ends between where it began and the target.** -/
theorem steps_travel_between (hforward : c.velocity.isNegative = false)
    (hnumber : (c.distance dt).isNaN = false) (hsteps : c.steps.rank < infinityRank)
    (htarget : c.target.rank < infinityRank) :
    (c.travel dt).steps.rank < infinityRank ∧
      min c.steps.units c.target.units ≤ (c.travel dt).steps.units ∧
      (c.travel dt).steps.units ≤ max c.steps.units c.target.units := by
  cases harrives : c.arrives dt with
  | true =>
    have hend : (c.travel dt).steps = c.target := by rw [travel_eq, harrives]; rfl
    rw [hend]
    exact ⟨htarget, Int.min_le_right .., Int.le_max_right ..⟩
  | false =>
    have hend : (c.travel dt).steps = c.steps + (c.distance dt).withSignOf c.remaining := by
      rw [travel_eq, delta, harrives]
      rfl
    obtain ⟨hfinite, hless⟩ := magnitude_distance_lt hforward hnumber hsteps htarget harrives
    rw [hend]
    exact step_between hsteps htarget hfinite hless.le

/-! ## What is added to the position -/

/-- A motor does not go farther than it has to. -/
theorem delta_between (hforward : c.velocity.isNegative = false)
    (hdelta : (c.delta dt).rank < infinityRank) (hremaining : c.remaining.rank < infinityRank) :
    Between (c.delta dt).units c.remaining.units := by
  unfold delta at hdelta ⊢
  cases harrives : c.arrives dt with
  | true =>
    simp only [if_true, Between]
    omega
  | false =>
    simp only [harrives, Bool.false_eq_true, if_false, rank_withSignOf] at hdelta ⊢
    exact units_withSignOf_between hdelta hremaining (isNegative_distance hforward dt) harrives

/-- What is added to the position is finite if the way left is. -/
theorem finite_delta (hforward : c.velocity.isNegative = false)
    (hnumber : (c.distance dt).isNaN = false) (hsteps : c.steps.rank < infinityRank)
    (htarget : c.target.rank < infinityRank) (hremaining : c.remaining.rank < infinityRank) :
    (c.delta dt).rank < infinityRank := by
  unfold delta
  cases harrives : c.arrives dt with
  | true => exact hremaining
  | false =>
    rw [if_neg Bool.false_ne_true, rank_withSignOf]
    exact (magnitude_distance_lt hforward hnumber hsteps htarget harrives).1

/-- **The position changes in the direction of the target**, as the counter does. -/
theorem delta_towards (hbetween : Between (c.delta dt).units c.remaining.units)
    (hremaining : c.remaining.units = roundUnits (c.target.units - c.steps.units)) :
    (c.steps.units ≤ c.target.units → 0 ≤ (c.delta dt).units) ∧
      (c.target.units ≤ c.steps.units → (c.delta dt).units ≤ 0) := by
  have hzero : roundUnits 0 = 0 := by decide
  unfold Between at hbetween
  constructor
  · intro hup
    have hround := roundUnits_mono (show 0 ≤ c.target.units - c.steps.units by omega)
    omega
  · intro hdown
    have hround := roundUnits_mono (show c.target.units - c.steps.units ≤ 0 by omega)
    omega

end MotionControl.SimulatedChannel
