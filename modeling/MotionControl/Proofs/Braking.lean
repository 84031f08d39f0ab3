import MotionControl.Proofs.Numeric.Between
import MotionControl.Proofs.Withdrawal

/-!
# Decelerated stops

A decelerated stop compares the exact braking distance with the way left, and then goes the nearest
whole number of increments. If that is more than the way left, the stop moves the target on instead
of nearer.

* `RoundsUp`: such a stop; `not_roundsUp_of_whole`: there is none while the way left is whole.
* `Heads`: a motor on a move in a direction; `Heads.advance`, `Heads.stop`: **it goes on in that
  direction**, whatever time passes and however often it is stopped.
* `IsLost`: a motor without a finite counter has no way left, and no stop changes that.
* `ride_keeps_course`: **a motor never turns back, and a stop that does not round up shortens the
  move.**
* `ride_passes_goal`: a motor that two stops carry past where it was sent.
-/

namespace MotionControl

/-- The direction of a displacement. -/
def Direction.ofSign (n : Int) : Direction := if n < 0 then .negative else .positive

/-- A displacement goes in its direction. -/
theorem Direction.ofSign_mul_nonneg (n : Int) :
    0 ≤ (ofSign n).toInt * (Single.ofInt n).units := by
  rw [Single.units, Single.ofInt, Single.nearest, Single.isNegative_ofRank]
  unfold ofSign
  by_cases hneg : n < 0
  · simp only [hneg, decide_true, if_true, toInt]
    omega
  · simp only [hneg, decide_false, Bool.false_eq_true, if_false, toInt]
    omega

namespace SimulatedChannel

open Single

variable {direction : Direction} {c : SimulatedChannel} {x y : Single}

/-! ## Directions -/

/-- A number is past another one if its value is. -/
theorem isPast_iff (hx : x.isNaN = false) (hy : y.isNaN = false) :
    direction.isPast x y = true ↔ 0 < direction.toInt * (x.units - y.units) := by
  constructor
  · intro h
    cases direction with
    | negative =>
      have hlt := units_lt_of_lt (of_decide_eq_true h)
      simp only [Direction.toInt]
      omega
    | positive =>
      have hlt := units_lt_of_lt (of_decide_eq_true h)
      simp only [Direction.toInt]
      omega
  · intro h
    by_contra hnot
    have hle := units_of_not_isPast hx hy (Bool.eq_false_iff.2 hnot)
    omega

theorem isPast_eq_false (hx : x.rank < infinityRank) (hy : y.rank < infinityRank)
    (h : direction.toInt * (x.units - y.units) ≤ 0) : direction.isPast x y = false := by
  rw [Bool.eq_false_iff, ne_eq, isPast_iff (not_nan_of_rank hx).1 (not_nan_of_rank hy).1]
  omega

theorem isPast_self (direction : Direction) (x : Single) : direction.isPast x x = false := by
  have hirrefl : ¬ x < x := fun h => Int.lt_irrefl _ (units_lt_of_lt h)
  cases direction <;> exact decide_eq_false hirrefl

theorem isPast_of_isNaN (direction : Direction) (h : x.isNaN = true ∨ y.isNaN = true) :
    direction.isPast x y = false := by
  cases direction with
  | negative => exact decide_eq_false (not_lt_of_isNaN h)
  | positive => exact decide_eq_false (not_lt_of_isNaN h.symm)

/-! ## Rides -/

/-- What comes to a motor on its way. -/
inductive RideStep where
  /-- Some milliseconds pass. -/
  | advance (dt : Nat)
  /-- It is stopped with its deceleration. -/
  | brake
deriving DecidableEq, Repr

/-- A motor after a step of its ride. -/
def afterStep (c : SimulatedChannel) : RideStep → SimulatedChannel
  | .advance dt => c.advance dt
  | .brake => c.stopDecelerated

/-- A motor after a ride. -/
def ride (c : SimulatedChannel) (steps : List RideStep) : SimulatedChannel :=
  steps.foldl afterStep c

theorem ride_concat (c : SimulatedChannel) (steps : List RideStep) (step : RideStep) :
    c.ride (steps ++ [step]) = (c.ride steps).afterStep step := by
  rw [ride, List.foldl_append]
  rfl

/-! ## Braking -/

/-- The distance that a motor needs to stop. -/
def braking (c : SimulatedChannel) : Single := brakingDistance c.velocity c.accel

/-- A decelerated stop, as far as the way left and the braking distance go. -/
theorem stopDecelerated_eq (h : c.motion = .stepping) :
    c.stopDecelerated.steps = c.steps ∧ c.stopDecelerated.target =
      if c.braking < c.remaining.abs then c.steps + c.braking.round.withSignOf c.remaining
      else c.target := by
  unfold stopDecelerated
  rw [h]
  exact ⟨rfl, rfl⟩

theorem steps_stopDecelerated (c : SimulatedChannel) : c.stopDecelerated.steps = c.steps := by
  unfold stopDecelerated
  split <;> rfl

theorem velocity_stopDecelerated (c : SimulatedChannel) :
    c.stopDecelerated.velocity = c.velocity ∧ c.stopDecelerated.accel = c.accel := by
  unfold stopDecelerated
  split <;> exact ⟨rfl, rfl⟩

theorem isNegative_braking (hvelocity : c.velocity.isNegative = false)
    (haccel : c.accel.isNegative = false) : c.braking.isNegative = false := by
  unfold braking brakingDistance
  split
  · exact isNegative_div (isNegative_mul hvelocity hvelocity)
      (isNegative_mul (isNegative_ofNat 2) haccel)
  · exact isNegative_ofNat 0

/-- **A stop rounds up** if the way left is longer than the braking distance and shorter than the
nearest whole number of increments. -/
structure RoundsUp (c : SimulatedChannel) : Prop where
  stepping : c.motion = .stepping
  brakes : c.braking < c.remaining.abs
  passes : |c.target.value - c.steps.value| < c.braking.round.value

/-! ## A motor on its way -/

/-- A motor on a move in a direction: its target does not lie behind it. -/
structure Heads (direction : Direction) (c : SimulatedChannel) : Prop where
  velocity : c.velocity.isPositive = true
  accel : c.accel.isNegative = false
  steps : c.steps.rank < infinityRank
  target : c.target.rank < infinityRank
  ahead : 0 ≤ direction.toInt * (c.target.units - c.steps.units)

namespace Heads

theorem congr {c' : SimulatedChannel} (h : c.Heads direction) (hvelocity : c'.velocity = c.velocity)
    (haccel : c'.accel = c.accel) (hsteps : c'.steps = c.steps) (htarget : c'.target = c.target) :
    c'.Heads direction :=
  ⟨hvelocity ▸ h.velocity, haccel ▸ h.accel, hsteps ▸ h.steps, htarget ▸ h.target,
    hsteps ▸ htarget ▸ h.ahead⟩

/-- What is below the way left, as it is rounded, is below the exact way. -/
theorem magnitude_lt (h : c.Heads direction) (hx : x.isNegative = false)
    (hlt : x < c.remaining.abs) :
    x.rank < infinityRank ∧ x.magnitude < (c.target.units - c.steps.units).natAbs :=
  magnitude_lt_of_lt_abs_sub h.target h.steps hx hlt

/-- A distance towards the target goes in the direction of the move. -/
theorem units_withSignOf (h : c.Heads direction) (hway : c.target.units ≠ c.steps.units)
    (x : Single) : (x.withSignOf c.remaining).units = direction.toInt * x.magnitude := by
  have hsign : c.remaining.isNegative = decide (c.target.units < c.steps.units) :=
    isNegative_sub h.target h.steps hway
  have hahead := h.ahead
  rw [Single.units_withSignOf, hsign]
  simp only [decide_eq_true_eq]
  cases direction with
  | negative =>
    simp only [Direction.toInt] at hahead ⊢
    rw [if_pos (by omega)]
    omega
  | positive =>
    simp only [Direction.toInt] at hahead ⊢
    rw [if_neg (by omega)]
    omega

/-- A step of at most the way left goes on in the direction of the move, and not past the target. -/
theorem step (h : c.Heads direction) (hx : x.rank < infinityRank)
    (hstep : x.magnitude ≤ (c.target.units - c.steps.units).natAbs) :
    (c.steps + x.withSignOf c.remaining).rank < infinityRank ∧
      0 ≤ direction.toInt * ((c.steps + x.withSignOf c.remaining).units - c.steps.units) ∧
      0 ≤ direction.toInt * (c.target.units - (c.steps + x.withSignOf c.remaining).units) := by
  obtain ⟨hfinite, hlow, hhigh⟩ := step_between h.steps h.target hx hstep
  have hahead := h.ahead
  refine ⟨hfinite, ?_⟩
  rw [show c.remaining = c.target - c.steps from rfl]
  generalize (c.steps + x.withSignOf (c.target - c.steps)).units = units at *
  cases direction <;> simp only [Direction.toInt] at hahead ⊢ <;> omega

/-! ### Time -/

theorem isNaN_distance (h : c.Heads direction) (dt : Nat) : (c.distance dt).isNaN = false := by
  refine isNaN_div ?_ (by decide)
  rw [mul_comm']
  exact isNaN_mul (isNaN_ofInt dt) h.velocity

/-- A motor that travels goes on, towards its target. -/
theorem travel (h : c.Heads direction) (dt : Nat) :
    (c.travel dt).Heads direction ∧
      0 ≤ direction.toInt * ((c.travel dt).steps.units - c.steps.units) := by
  have hahead := h.ahead
  cases harrives : c.arrives dt with
  | true =>
    have hsteps : (c.travel dt).steps = c.target := by rw [travel_eq, harrives]; rfl
    refine ⟨⟨h.velocity, h.accel, hsteps ▸ h.target, h.target, ?_⟩, ?_⟩
    · rw [hsteps]
      show 0 ≤ direction.toInt * (c.target.units - c.target.units)
      rw [Int.sub_self, Int.mul_zero]
    · rwa [hsteps]
  | false =>
    have hsteps : (c.travel dt).steps = c.steps + (c.distance dt).withSignOf c.remaining := by
      rw [travel_eq, delta, harrives]
      rfl
    -- it goes less than the way left as that is rounded, and so less than the exact way
    obtain ⟨hfinite, hless⟩ := magnitude_distance_lt (isPositive_spec h.velocity).1
      (h.isNaN_distance dt) h.steps h.target harrives
    obtain ⟨hnext, hforward, hbefore⟩ := h.step hfinite hless.le
    rw [← hsteps] at hnext hforward hbefore
    exact ⟨⟨h.velocity, h.accel, hnext, h.target, hbefore⟩, hforward⟩

/-- **A motor goes on in its direction**, whatever time passes. -/
theorem advance (h : c.Heads direction) (dt : Nat) :
    (c.advance dt).Heads direction ∧ (c.advance dt).target = c.target ∧
      0 ≤ direction.toInt * ((c.advance dt).steps.units - c.steps.units) := by
  rcases c.advance_cases dt with ⟨motion, -, hadvance⟩ | ⟨time, -, hadvance⟩ <;> rw [hadvance]
  · refine ⟨h.congr rfl rfl rfl rfl, rfl, ?_⟩
    rw [Int.sub_self, Int.mul_zero]
  · obtain ⟨hheads, hforward⟩ := h.travel time
    exact ⟨hheads, rfl, hforward⟩

/-! ### Stops -/

theorem isNegative_braking (h : c.Heads direction) : c.braking.isNegative = false :=
  SimulatedChannel.isNegative_braking (isPositive_spec h.velocity).1 h.accel

/-- A stop rounds up if the rounded braking distance is longer than the way left. -/
theorem passes_iff (h : c.Heads direction) :
    |c.target.value - c.steps.value| < c.braking.round.value ↔
      (c.target.units - c.steps.units).natAbs < c.braking.round.magnitude :=
  abs_value_sub_lt_iff (by rw [isNegative_round, h.isNegative_braking])

/-- A stop that rounds up sends the motor past its target, by less than half an increment before the
sum is rounded. -/
theorem units_of_roundsUp (h : c.Heads direction) (hup : c.RoundsUp) :
    direction.toInt *
        (c.steps.units + (c.braking.round.withSignOf c.remaining).units - c.target.units) =
      c.braking.round.magnitude - (c.target.units - c.steps.units).natAbs ∧
    c.braking.round.magnitude < (c.target.units - c.steps.units).natAbs + 2 ^ (unitScale - 1) ∧
      (c.target.units - c.steps.units).natAbs < c.braking.round.magnitude := by
  obtain ⟨hfinite, hless⟩ := h.magnitude_lt h.isNegative_braking hup.brakes
  have hround := magnitude_round_le hfinite
  have hpasses := h.passes_iff.1 hup.passes
  have hahead := h.ahead
  rw [h.units_withSignOf (by omega)]
  refine ⟨?_, by omega, hpasses⟩
  cases direction <;> simp only [Direction.toInt] at hahead ⊢ <;> omega

theorem heads_stop (h : c.Heads direction) (htarget : c.stopDecelerated.target.rank < infinityRank)
    (hahead : 0 ≤ direction.toInt * (c.stopDecelerated.target.units - c.steps.units)) :
    c.stopDecelerated.Heads direction := by
  obtain ⟨hvelocity, haccel⟩ := c.velocity_stopDecelerated
  have hsteps := c.steps_stopDecelerated
  exact ⟨hvelocity ▸ h.velocity, haccel ▸ h.accel, hsteps ▸ h.steps, htarget, hsteps ▸ hahead⟩

end Heads

/-- After a stop a motor goes on in its direction, for a shorter way unless the stop rounds up. -/
structure Brakes (direction : Direction) (c : SimulatedChannel) : Prop where
  heads : c.stopDecelerated.Heads direction
  shortens : ¬ c.RoundsUp →
    direction.toInt * (c.stopDecelerated.target.units - c.target.units) ≤ 0
  lengthens : c.RoundsUp →
    0 ≤ direction.toInt * (c.stopDecelerated.target.units - c.target.units)

namespace Heads

/-- The stop leaves the target where it is. -/
theorem brakes_of_eq (h : c.Heads direction) (htarget : c.stopDecelerated.target = c.target) :
    c.Brakes direction := by
  have hsame : direction.toInt * (c.stopDecelerated.target.units - c.target.units) = 0 := by
    rw [htarget, Int.sub_self, Int.mul_zero]
  exact ⟨h.heads_stop (htarget ▸ h.target) (htarget ▸ h.ahead), fun _ => hsame.le,
    fun _ => hsame.ge⟩

/-- The stop sends the motor at most as far as it has to go. -/
theorem brakes_of_between (h : c.Heads direction) (hnot : ¬ c.RoundsUp)
    (htarget : c.stopDecelerated.target.rank < infinityRank)
    (hahead : 0 ≤ direction.toInt * (c.stopDecelerated.target.units - c.steps.units))
    (hbefore : 0 ≤ direction.toInt * (c.target.units - c.stopDecelerated.target.units)) :
    c.Brakes direction := by
  refine ⟨h.heads_stop htarget hahead, fun _ => ?_, fun hup => absurd hup hnot⟩
  cases direction <;> simp only [Direction.toInt] at hbefore ⊢ <;> omega

/-- The stop sends the motor farther: the sum is past the target, and rounding keeps it there. -/
theorem brakes_of_roundsUp (h : c.Heads direction) (hup : c.RoundsUp) : c.Brakes direction := by
  have htarget := (stopDecelerated_eq hup.stepping).2
  rw [if_pos hup.brakes] at htarget
  obtain ⟨hexact, hexcess, hpasses⟩ := h.units_of_roundsUp hup
  have hsigned : (c.braking.round.withSignOf c.remaining).rank < infinityRank := by
    rw [rank_withSignOf]
    exact (magnitude_round (h.magnitude_lt h.isNegative_braking hup.brakes).1).1
  generalize hdistance : c.braking.round.withSignOf c.remaining = distance at *
  have hnext : c.stopDecelerated.target.rank < infinityRank := by
    rw [htarget]
    refine finite_add h.target h.steps hsigned ?_
    rw [← natAbs_units]
    norm_num only [unitScale] at hexcess
    cases direction <;> simp only [Direction.toInt] at hexact <;> omega
  have hpast : 0 ≤ direction.toInt * (c.stopDecelerated.target.units - c.target.units) := by
    have hunits : c.stopDecelerated.target.units =
        roundUnits (c.steps.units + distance.units) := by
      rw [htarget] at hnext ⊢
      exact units_add h.steps hsigned hnext
    rw [hunits, ← roundUnits_units c.target]
    exact roundUnits_towards direction (by omega)
  refine ⟨h.heads_stop hnext ?_, fun hnot => absurd hup hnot, fun _ => hpast⟩
  have hahead := h.ahead
  cases direction <;> simp only [Direction.toInt] at hahead hpast ⊢ <;> omega

/-- **A motor goes on in its direction after a stop**, which shortens the move unless it rounds
up. -/
theorem brakes (h : c.Heads direction) : c.Brakes direction := by
  cases hmotion : c.motion with
  | resting => exact h.brakes_of_eq (by rw [stopDecelerated, hmotion])
  | waiting delay =>
    have htarget : c.stopDecelerated.target = c.steps := by rw [stopDecelerated, hmotion]
    refine h.brakes_of_between (fun hup => ?_) (htarget ▸ h.steps) ?_ (htarget ▸ h.ahead)
    · rw [hup.stepping] at hmotion
      cases hmotion
    · rw [htarget, Int.sub_self, Int.mul_zero]
  | stepping =>
    have htarget := (stopDecelerated_eq hmotion).2
    by_cases hbrakes : c.braking < c.remaining.abs
    · by_cases hup : c.RoundsUp
      · exact h.brakes_of_roundsUp hup
      · rw [if_pos hbrakes] at htarget
        have hwithin : c.braking.round.magnitude ≤ (c.target.units - c.steps.units).natAbs :=
          Nat.le_of_not_lt fun hpasses => hup ⟨hmotion, hbrakes, h.passes_iff.2 hpasses⟩
        have hround := (magnitude_round (h.magnitude_lt h.isNegative_braking hbrakes).1).1
        obtain ⟨hnext, hforward, hbefore⟩ := h.step hround hwithin
        rw [← htarget] at hnext hforward hbefore
        exact h.brakes_of_between hup hnext hforward hbefore
    · rw [if_neg hbrakes] at htarget
      exact h.brakes_of_eq htarget

/-- **A motor goes on in its direction**, whatever comes to it. -/
theorem afterStep (h : c.Heads direction) (step : RideStep) :
    (c.afterStep step).Heads direction ∧
      0 ≤ direction.toInt * ((c.afterStep step).steps.units - c.steps.units) := by
  cases step with
  | advance dt =>
    obtain ⟨hheads, -, hforward⟩ := h.advance dt
    exact ⟨hheads, hforward⟩
  | brake =>
    refine ⟨h.brakes.heads, ?_⟩
    show 0 ≤ direction.toInt * (c.stopDecelerated.steps.units - c.steps.units)
    rw [c.steps_stopDecelerated, Int.sub_self, Int.mul_zero]

theorem ride (h : c.Heads direction) (steps : List RideStep) : (c.ride steps).Heads direction := by
  induction steps using List.reverseRecOn with
  | nil => exact h
  | append_singleton steps step ih =>
    rw [ride_concat]
    exact (ih.afterStep step).1

end Heads

/-! ## Whole ways -/

/-- No stop rounds up while the way left is a whole number of increments. -/
theorem Heads.not_roundsUp_of_whole (h : c.Heads direction) {k : Int}
    (hwhole : c.target.value - c.steps.value = k) : ¬ c.RoundsUp := by
  intro hup
  have hfinite := (h.magnitude_lt h.isNegative_braking hup.brakes).1
  obtain ⟨-, hexcess, hpasses⟩ := h.units_of_roundsUp hup
  have hway : c.target.units - c.steps.units = k * 2 ^ unitScale := by
    have hscale : (2 ^ unitScale : ℚ) ≠ 0 := by positivity
    rw [value, value, ← sub_div, div_eq_iff hscale] at hwhole
    exact_mod_cast hwhole
  -- a whole number of increments is not within half of one past another
  rw [(magnitude_round hfinite).2, hway] at hexcess hpasses
  norm_num only [unitScale] at hexcess hpasses
  omega

/-! ## Counters that are no finite numbers -/

/-- The counter and the target are an infinity or none at all. -/
structure IsLost (x : Single) (c : SimulatedChannel) : Prop where
  place : ¬ x.rank < infinityRank
  steps : c.steps = x ∨ c.steps.isNaN = true
  target : c.target = x ∨ c.target.isNaN = true

theorem isPast_of_lost {a b : Single} (direction : Direction) (ha : a = x ∨ a.isNaN = true)
    (hb : b = x ∨ b.isNaN = true) : direction.isPast a b = false := by
  rcases ha with rfl | ha
  · rcases hb with rfl | hb
    · exact isPast_self direction b
    · exact isPast_of_isNaN direction (.inr hb)
  · exact isPast_of_isNaN direction (.inl ha)

namespace IsLost

/-- There is no way left. -/
theorem isNaN_remaining (h : c.IsLost x) : c.remaining.isNaN = true := by
  have hsub (a b : Single) (ha : a = x ∨ a.isNaN = true) (hb : b = x ∨ b.isNaN = true) :
      (a - b).isNaN = true := by
    have hnan : nan.isNaN = true := by decide
    have hflip : (-b).isNaN = b.isNaN ∧ (-b).isInfinite = b.isInfinite := by
      rw [isNaN, isInfinite, rank_neg]
      exact ⟨rfl, rfl⟩
    show (Single.add a (-b)).isNaN = true
    cases hnone : a.isNaN || b.isNaN with
    | true =>
      simp only [add, hflip, hnone, if_true]
      exact hnan
    | false =>
      rw [Bool.or_eq_false_iff] at hnone
      obtain rfl : a = x := ha.resolve_right (by simp [hnone.1])
      obtain rfl : b = a := hb.resolve_right (by simp [hnone.2])
      have hinf : b.isInfinite = true := by
        have hrank := h.place
        simp only [isNaN, decide_eq_false_iff_not, isInfinite, beq_iff_eq] at hnone ⊢
        omega
      simp [add, hflip, hnone, hinf, hnan]
  exact hsub _ _ h.target h.steps

theorem not_roundsUp (h : c.IsLost x) : ¬ c.RoundsUp := by
  intro hup
  refine not_lt_of_isNaN (.inr ?_) hup.brakes
  have hnan := h.isNaN_remaining
  rwa [isNaN, rank_abs]

/-- An infinity stays where it is, whatever is added to it. -/
theorem add_eq (hx : ¬ x.rank < infinityRank) {a : Single} (ha : a = x ∨ a.isNaN = true)
    (y : Single) : a + y = x ∨ (a + y).isNaN = true := by
  have hnan : nan.isNaN = true := by decide
  show Single.add a y = x ∨ (Single.add a y).isNaN = true
  unfold add
  split
  · exact .inr hnan
  rename_i hnone
  rw [Bool.or_eq_true, not_or] at hnone
  obtain rfl : a = x := ha.resolve_right hnone.1
  have hinf : a.isInfinite = true := by
    simp only [isNaN, decide_eq_true_eq, isInfinite, beq_iff_eq] at hnone ⊢
    omega
  rw [if_pos hinf]
  split
  · exact .inr hnan
  · exact .inl rfl

theorem afterStep (h : c.IsLost x) (step : RideStep) : (c.afterStep step).IsLost x := by
  cases step with
  | advance dt =>
    show (c.advance dt).IsLost x
    rcases c.advance_cases dt with ⟨motion, -, hadvance⟩ | ⟨time, -, hadvance⟩ <;> rw [hadvance]
    · exact ⟨h.place, h.steps, h.target⟩
    · refine ⟨h.place, ?_, h.target⟩
      rw [travel_eq]
      dsimp only
      split
      · exact h.target
      · exact add_eq h.place h.steps _
  | brake =>
    show c.stopDecelerated.IsLost x
    refine ⟨h.place, c.steps_stopDecelerated ▸ h.steps, ?_⟩
    unfold stopDecelerated
    split
    · exact h.target
    · exact h.steps
    · dsimp only
      split
      · exact add_eq h.place h.steps _
      · exact h.target

theorem ride (h : c.IsLost x) (steps : List RideStep) : (c.ride steps).IsLost x := by
  induction steps using List.reverseRecOn with
  | nil => exact h
  | append_singleton steps step ih =>
    rw [ride_concat]
    exact ih.afterStep step

end IsLost

/-! ## Moves -/

/-- A move sends a motor in its direction. -/
theorem heads_moveIncrements {n : Int} {velocity accel : Single} (hmin : counterMin ≤ n)
    (hmax : n ≤ counterMax) (hvelocity : velocity.isPositive = true)
    (hsteps : c.steps.rank < infinityRank) :
    (c.moveIncrements n velocity accel).Heads (.ofSign n) := by
  have hspeed : velocity.abs.isPositive = true := by
    obtain ⟨hfinite, -, hrank⟩ := isPositive_iff.1 hvelocity
    exact isPositive_iff.2 ⟨by rwa [rank_abs], isNegative_abs velocity, by rwa [rank_abs]⟩
  unfold moveIncrements
  dsimp only
  split
  · refine ⟨hspeed, isNegative_abs accel, hsteps, hsteps, ?_⟩
    rw [Int.sub_self, Int.mul_zero]
  have hcount : n.natAbs ≤ 2 ^ 31 := by
    unfold counterMin counterMax at *
    omega
  have htarget := finite_add_ofInt hsteps hcount
  refine ⟨hspeed, isNegative_abs accel, hsteps, htarget, ?_⟩
  show 0 ≤ (Direction.ofSign n).toInt * ((c.steps + ofInt n).units - c.steps.units)
  rw [units_add hsteps (finite_ofInt hcount) htarget, ← roundUnits_units c.steps]
  refine roundUnits_towards _ ?_
  rw [roundUnits_units, add_sub_cancel_left]
  exact Direction.ofSign_mul_nonneg n

/-- A motor without a finite counter has nowhere to go. -/
theorem isLost_moveIncrements {n : Int} {velocity accel : Single}
    (hsteps : ¬ c.steps.rank < infinityRank) :
    (c.moveIncrements n velocity accel).IsLost c.steps := by
  unfold moveIncrements
  dsimp only
  split
  · exact ⟨hsteps, .inl rfl, .inl rfl⟩
  · exact ⟨hsteps, .inl rfl, IsLost.add_eq hsteps (.inl rfl) _⟩

/-! ## The course of a ride -/

/-- No stop of a ride rounds up. -/
def NeverRoundsUp (c : SimulatedChannel) (steps : List RideStep) : Prop :=
  ∀ before, before ++ [.brake] <+: steps → ¬ (c.ride before).RoundsUp

/-- What a decelerated stop does to a motor on a move in a direction. -/
structure StopKeepsCourse (direction : Direction) (c : SimulatedChannel) : Prop where
  steps : c.stopDecelerated.steps = c.steps
  /-- The motor does not turn back. -/
  ahead : direction.isPast c.steps c.stopDecelerated.target = false
  /-- A stop that does not round up does not move the target on. -/
  shortens : ¬ c.RoundsUp → direction.isPast c.stopDecelerated.target c.target = false
  /-- One that rounds up does not shorten the move. -/
  passes : c.RoundsUp → direction.isPast c.target c.stopDecelerated.target = false
  /-- It moves the target on if the sum that gives the new one is not rounded. -/
  lengthens : c.RoundsUp → c.steps.AddsExactly (c.braking.round.withSignOf c.remaining) →
    direction.isPast c.stopDecelerated.target c.target = true
  /-- It does so by less than half an increment before that sum is rounded. -/
  excess : c.RoundsUp → c.braking.round.value < |c.target.value - c.steps.value| + 1 / 2
  /-- No stop rounds up while the way left is whole. -/
  whole : (∃ k : Int, c.target.value - c.steps.value = k) → ¬ c.RoundsUp

/-- How a motor goes on after some steps of a ride. -/
structure KeepsCourse (direction : Direction) (start : SimulatedChannel)
    (steps : List RideStep) : Prop where
  /-- It never turns back. -/
  forward : ∀ step, direction.isPast (start.ride steps).steps
    ((start.ride steps).afterStep step).steps = false
  stop : StopKeepsCourse direction (start.ride steps)
  /-- It is not past where it was sent first, and will not be sent there, if no stop has rounded
  up. -/
  goal : start.NeverRoundsUp steps →
    direction.isPast (start.ride steps).steps start.target = false ∧
      direction.isPast (start.ride steps).target start.target = false

theorem Heads.stopKeepsCourse (h : c.Heads direction) : c.StopKeepsCourse direction := by
  have hbrakes := h.brakes
  have hahead := hbrakes.heads.ahead
  rw [c.steps_stopDecelerated] at hahead
  refine ⟨c.steps_stopDecelerated, ?_, fun hnot => ?_, fun hup => ?_, fun hup hexact => ?_,
    fun hup => ?_, fun ⟨k, hk⟩ => h.not_roundsUp_of_whole hk⟩
  · refine isPast_eq_false h.steps hbrakes.heads.target ?_
    cases direction <;> simp only [Direction.toInt] at hahead ⊢ <;> omega
  · exact isPast_eq_false hbrakes.heads.target h.target (hbrakes.shortens hnot)
  · have hpast := hbrakes.lengthens hup
    refine isPast_eq_false h.target hbrakes.heads.target ?_
    cases direction <;> simp only [Direction.toInt] at hpast ⊢ <;> omega
  · have htarget := (stopDecelerated_eq hup.stepping).2
    rw [if_pos hup.brakes] at htarget
    obtain ⟨hway, -, hpasses⟩ := h.units_of_roundsUp hup
    rw [isPast_iff (not_nan_of_rank hbrakes.heads.target).1 (not_nan_of_rank h.target).1, htarget,
      hexact.units, hway]
    omega
  · obtain ⟨-, hexcess, -⟩ := h.units_of_roundsUp hup
    have hscale : (0 : ℚ) < 2 ^ unitScale := by positivity
    have hhalf : (1 / 2 : ℚ) = 2 ^ (unitScale - 1) / 2 ^ unitScale := by norm_num [unitScale]
    rw [abs_value_sub, value_eq_of_not_negative (by rw [isNegative_round, h.isNegative_braking]),
      hhalf, ← add_div, div_lt_div_iff_of_pos_right hscale]
    exact_mod_cast hexcess

theorem IsLost.stopKeepsCourse (h : c.IsLost x) : c.StopKeepsCourse direction := by
  have hstop : c.stopDecelerated.IsLost x := h.afterStep .brake
  refine ⟨c.steps_stopDecelerated, isPast_of_lost direction h.steps hstop.target,
    fun _ => isPast_of_lost direction hstop.target h.target, fun hup => absurd hup h.not_roundsUp,
    fun hup => absurd hup h.not_roundsUp, fun hup => absurd hup h.not_roundsUp,
    fun _ => h.not_roundsUp⟩

/-- A ride of which no stop rounds up does not move the target on. -/
theorem Heads.target_ride (h : c.Heads direction) {steps : List RideStep}
    (hnever : c.NeverRoundsUp steps) :
    direction.toInt * ((c.ride steps).target.units - c.target.units) ≤ 0 := by
  -- on the ride from its last step back: time leaves the target where it is
  induction steps using List.reverseRecOn with
  | nil =>
    show direction.toInt * (c.target.units - c.target.units) ≤ 0
    rw [Int.sub_self, Int.mul_zero]
  | append_singleton steps step ih =>
    have hbefore := ih fun before hbegins => hnever before (hbegins.trans (List.prefix_append ..))
    have hheads := h.ride steps
    rw [ride_concat]
    cases step with
    | advance dt =>
      have htarget : ((c.ride steps).afterStep (.advance dt)).target = (c.ride steps).target :=
        (hheads.advance dt).2.1
      rwa [htarget]
    | brake =>
      have hshorter := hheads.brakes.shortens (hnever steps List.prefix_rfl)
      show direction.toInt * ((c.ride steps).stopDecelerated.target.units - c.target.units) ≤ 0
      cases direction <;> simp only [Direction.toInt] at hbefore hshorter ⊢ <;> omega

theorem Heads.keepsCourse (h : c.Heads direction) (steps : List RideStep) :
    c.KeepsCourse direction steps := by
  have hride := h.ride steps
  refine ⟨fun step => ?_, hride.stopKeepsCourse, fun hnever => ?_⟩
  · obtain ⟨hnext, hforward⟩ := hride.afterStep step
    refine isPast_eq_false hride.steps hnext.steps ?_
    cases direction <;> simp only [Direction.toInt] at hforward ⊢ <;> omega
  · have hahead := hride.ahead
    have htarget := h.target_ride hnever
    refine ⟨isPast_eq_false hride.steps h.target ?_, isPast_eq_false hride.target h.target htarget⟩
    cases direction <;> simp only [Direction.toInt] at hahead htarget ⊢ <;> omega

theorem IsLost.keepsCourse (h : c.IsLost x) (steps : List RideStep) :
    c.KeepsCourse direction steps := by
  have hride := h.ride steps
  exact ⟨fun step => isPast_of_lost direction hride.steps (hride.afterStep step).steps,
    hride.stopKeepsCourse, fun _ => ⟨isPast_of_lost direction hride.steps h.target,
      isPast_of_lost direction hride.target h.target⟩⟩

/-- **A motor that is sent somewhere never turns back**, whatever time passes and however often it
is stopped on the way. A stop shortens the move unless it rounds up, and as long as none does, the
motor does not get past where it was sent. -/
theorem ride_keeps_course {n : Int} {velocity : Single} (c : SimulatedChannel) (accel : Single)
    (steps : List RideStep) (hmin : counterMin ≤ n) (hmax : n ≤ counterMax)
    (hvelocity : velocity.isPositive = true) :
    (c.moveIncrements n velocity accel).KeepsCourse (.ofSign n) steps := by
  by_cases hsteps : c.steps.rank < infinityRank
  · exact (heads_moveIncrements hmin hmax hvelocity hsteps).keepsCourse steps
  · exact (isLost_moveIncrements hsteps).keepsCourse steps

/-- A motor that is stopped after 100 increments goes on for another 50. -/
theorem ride_keeps_course_brakes :
    ((ofPosition {} 0).moveIncrements 10000 1000 10000).KeepsCourse (.ofSign 10000)
        [.advance 100] ∧
      (((ofPosition {} 0).moveIncrements 10000 1000 10000).ride [.advance 100, .brake]).target =
        150 :=
  ⟨ride_keeps_course (ofPosition {} 0) 10000 [.advance 100] (by decide) (by decide) (by decide),
    by decide +kernel⟩

/-- A motor that is sent one increment ahead at 400 increments a second. It needs half of one to
stop. -/
def sentAhead : SimulatedChannel := (ofPosition {} 0).moveIncrements 1 400 160000

/-- **A motor may be carried past where it was sent**: it goes 0.4 increments in a millisecond, and
each stop then sends it a whole one further. -/
theorem ride_passes_goal :
    Direction.positive.isPast (sentAhead.ride [.advance 1]).stopDecelerated.target
        (sentAhead.ride [.advance 1]).target = true ∧
      Direction.positive.isPast
        (sentAhead.ride [.advance 1, .brake, .advance 1, .brake, .advance 1000]).steps
        sentAhead.target = true ∧
      (sentAhead.ride [.advance 1, .brake, .advance 1, .brake, .advance 1000]).position = 2 := by
  decide +kernel

end SimulatedChannel

end MotionControl
