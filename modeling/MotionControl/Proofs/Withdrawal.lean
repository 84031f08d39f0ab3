import MotionControl.Proofs.Motor.Travel

/-!
# Motors on the way from their stops

A motor that has been at its hard stop moves away from it by as many increments as it is commanded,
if no sum on the way is rounded; a move towards the stop leaves it there.

* `TravelsExactly`, `AdvancesExactly`, `StartsExactly`: the sums of a motor are not rounded.
* `clearance`, `outstanding`: how far a motor is off its stop, and how far it has to go.
* `Withdraws`: a motor on the way; `Withdraws.start`, `Withdraws.advance`: **it gets there and
  stays on it.**
* `IsSquare`: a motor at the end of the way; `IsSquare.mechanicalPosition`: **where that is.**
-/

namespace MotionControl

namespace SimulatedChannel

open Single

variable {direction : Direction} {stop n : Int} {c : SimulatedChannel} {dt : Nat}

/-! ## Exact sums -/

/-- The sums of a travel are not rounded. -/
structure TravelsExactly (dt : Nat) (c : SimulatedChannel) : Prop where
  remaining : c.target.AddsExactly (-c.steps)
  mechanical : c.mechanical.AddsExactly (c.delta dt)
  steps : c.arrives dt = false → c.steps.AddsExactly (c.delta dt)

instance (dt : Nat) (c : SimulatedChannel) : Decidable (c.TravelsExactly dt) :=
  decidable_of_iff
    (c.target.AddsExactly (-c.steps) ∧ c.mechanical.AddsExactly (c.delta dt) ∧
      (c.arrives dt = false → c.steps.AddsExactly (c.delta dt)))
    ⟨fun ⟨hremaining, hmechanical, hsteps⟩ => ⟨hremaining, hmechanical, hsteps⟩,
      fun h => ⟨h.remaining, h.mechanical, h.steps⟩⟩

/-- The sums of a motor in some time are not rounded. -/
def AdvancesExactly (dt : Nat) (c : SimulatedChannel) : Prop :=
  ∀ time ∈ c.travelTime? dt, c.TravelsExactly time

instance (dt : Nat) (c : SimulatedChannel) : Decidable (c.AdvancesExactly dt) :=
  inferInstanceAs (Decidable (∀ time ∈ c.travelTime? dt, c.TravelsExactly time))

/-- The target of a relative move is not rounded. -/
structure StartsExactly (increments : Int) (c : SimulatedChannel) : Prop where
  value : (ofInt increments).units = increments * 2 ^ unitScale
  target : c.steps.AddsExactly (ofInt increments)

instance (increments : Int) (c : SimulatedChannel) : Decidable (c.StartsExactly increments) :=
  decidable_of_iff
    ((ofInt increments).units = increments * 2 ^ unitScale ∧ c.steps.AddsExactly (ofInt increments))
    ⟨fun ⟨hvalue, htarget⟩ => ⟨hvalue, htarget⟩, fun h => ⟨h.value, h.target⟩⟩

/-! ## How far a motor goes -/

/-- How far the mechanics of a motor are off a stop, away from a direction, in units. -/
def clearance (direction : Direction) (stop : Int) (c : SimulatedChannel) : Int :=
  -direction.toInt * (c.mechanical.units - (ofInt stop).units)

/-- How far a motor has to go away from a direction, in units. -/
def outstanding (direction : Direction) (c : SimulatedChannel) : Int :=
  -direction.toInt * (c.target.units - c.steps.units)

theorem TravelsExactly.remaining_units (h : c.TravelsExactly dt) :
    c.remaining.units = c.target.units - c.steps.units := by
  have hunits : c.remaining.units = c.target.units + (-c.steps).units := h.remaining.units
  rw [hunits, units_neg, Int.sub_eq_add_neg]

/-- A motor does not go farther than it has to. -/
theorem TravelsExactly.delta_between (h : c.TravelsExactly dt)
    (hsign : c.velocity.isNegative = false) :
    Between (c.delta dt).units c.remaining.units :=
  SimulatedChannel.delta_between hsign h.mechanical.right h.remaining.finite

/-- A travel takes away from the way what it goes. -/
theorem TravelsExactly.outstanding_eq (h : c.TravelsExactly dt) (direction : Direction) :
    (c.travel dt).outstanding direction =
      c.outstanding direction - -direction.toInt * (c.delta dt).units := by
  have hremaining := h.remaining_units
  rw [travel_eq, outstanding, outstanding, ← Int.mul_sub]
  cases harrives : c.arrives dt with
  | true =>
    have hdelta : c.delta dt = c.remaining := by rw [delta, harrives, if_pos rfl]
    rw [hdelta, hremaining, Int.sub_self]
    simp
  | false =>
    have hsteps := (h.steps harrives).units
    simp only [Bool.false_eq_true, if_false, hsteps]
    rw [Int.sub_sub]

theorem units_of_isPast {x y : Single} (h : direction.isPast x y = true) :
    0 ≤ direction.toInt * (x.units - y.units) := by
  cases direction with
  | negative =>
    have hle := units_le_of_lt (of_decide_eq_true h)
    simp only [Direction.toInt]
    omega
  | positive =>
    have hle := units_le_of_lt (of_decide_eq_true h)
    simp only [Direction.toInt]
    omega

theorem units_of_not_isPast {x y : Single} (hx : x.isNaN = false) (hy : y.isNaN = false)
    (h : direction.isPast x y = false) : direction.toInt * (x.units - y.units) ≤ 0 := by
  cases direction with
  | negative =>
    have hle := units_le_of_not_lt hx hy (of_decide_eq_false h)
    simp only [Direction.toInt]
    omega
  | positive =>
    have hle := units_le_of_not_lt hy hx (of_decide_eq_false h)
    simp only [Direction.toInt]
    omega

/-- **A travel takes a motor as far off its stop as it goes**, but not beyond the stop. -/
theorem TravelsExactly.clearance_eq (h : c.TravelsExactly dt) (hone : c.HasOneStop direction)
    (hstop : c.mechanics.hardStop? direction = some stop) :
    (c.travel dt).clearance direction stop =
      max 0 (c.clearance direction stop + -direction.toInt * (c.delta dt).units) := by
  have hsum := h.mechanical.units
  have hturn : c.clearance direction stop + -direction.toInt * (c.delta dt).units =
      -(direction.toInt * ((c.mechanical + c.delta dt).units - (ofInt stop).units)) := by
    rw [hsum, clearance]
    ring
  rw [hturn, travel_eq, clearance, clampToStops_eq hstop hone.free]
  cases hpast : direction.isPast (c.mechanical + c.delta dt) (ofInt stop) with
  | true =>
    have hbeyond := units_of_isPast hpast
    simp only [if_true, Int.sub_self, Int.mul_zero]
    omega
  | false =>
    have hbefore :=
      units_of_not_isPast (not_nan_of_rank h.mechanical.finite).1 (isNaN_ofInt stop) hpast
    simp only [Bool.false_eq_true, if_false, Int.neg_mul]
    omega

/-! ## A motor on the way -/

/-- A motor that was at its stop is on the way by `n` increments away from a direction. If they are
towards the stop, it stays there. -/
structure Withdraws (direction : Direction) (n : Int) (c : SimulatedChannel) : Prop where
  velocity : c.velocity.isNegative = false
  course : ∀ stop, c.mechanics.hardStop? direction = some stop →
    0 ≤ c.clearance direction stop ∧ 0 ≤ c.outstanding direction ∧
        c.clearance direction stop + c.outstanding direction = n * 2 ^ unitScale ∨
      n ≤ 0 ∧ c.clearance direction stop = 0 ∧ c.outstanding direction ≤ 0
  rests : c.motion = .resting → c.outstanding direction = 0

/-- **A motor that rests at its stop gets on the way.** -/
theorem Withdraws.start {increments : Int} {velocity accel : Single} (h : c.AtStop direction)
    (henabled : c.enabled = true) (hhealthy : c.fault = false)
    (hincrements : increments = -direction.toInt * n) (hexact : c.StartsExactly increments) :
    (c.moveIncrements increments velocity accel).Withdraws direction n := by
  have touches (stop : Int) (hstop : c.mechanics.hardStop? direction = some stop) :
      -direction.toInt * (c.mechanical.units - (ofInt stop).units) = 0 := by
    rw [h.touches stop hstop, Int.sub_self, Int.mul_zero]
  have hway : -direction.toInt * (increments * 2 ^ unitScale) = n * 2 ^ unitScale := by
    rw [hincrements]
    cases direction <;> simp [Direction.toInt]
  unfold moveIncrements
  dsimp only
  split
  · -- a move of no length: the motor is enabled and healthy
    rename_i hnothing
    have hzero : increments = 0 := by simpa [henabled, hhealthy] using hnothing
    have hn : n * 2 ^ unitScale = 0 := by rw [← hway, hzero, Int.zero_mul, Int.mul_zero]
    refine ⟨isNegative_abs velocity, fun stop hstop => .inl ?_, fun _ => ?_⟩
    · simp only [clearance, outstanding, touches stop hstop, Int.sub_self, Int.mul_zero, hn]
      decide
    · simp only [outstanding, Int.sub_self, Int.mul_zero]
  · refine ⟨isNegative_abs velocity, fun stop hstop => ?_, fun hrests => ?_⟩
    · have htarget : (c.steps + ofInt increments).units - c.steps.units =
          increments * 2 ^ unitScale := by
        rw [hexact.target.units, hexact.value, add_sub_cancel_left]
      simp only [clearance, outstanding]
      rw [touches stop hstop, htarget, hway]
      have hunit : (0 : Int) ≤ 2 ^ unitScale := Int.pow_nonneg (by decide)
      rcases Int.le_total 0 n with haway | htowards
      · exact .inl ⟨Int.le_refl 0, Int.mul_nonneg haway hunit, Int.zero_add _⟩
      · exact .inr ⟨htowards, rfl, Int.mul_nonpos_of_nonpos_of_nonneg htowards hunit⟩
    · dsimp only at hrests
      split at hrests <;> cases hrests

theorem Withdraws.travel (h : c.Withdraws direction n) (hone : c.HasOneStop direction)
    (hexact : c.TravelsExactly dt) : (c.travel dt).Withdraws direction n := by
  have hbetween := hexact.delta_between h.velocity
  rw [hexact.remaining_units] at hbetween
  have hway : Between (-direction.toInt * (c.delta dt).units) (c.outstanding direction) := by
    unfold Between outstanding at *
    cases direction <;> simp only [Direction.toInt] <;> omega
  have houtstanding := hexact.outstanding_eq direction
  refine ⟨h.velocity, fun stop hstop => ?_, fun hrests => ?_⟩
  · -- off the stop the motor gains what it has less to go; towards the stop it gains nothing
    have hclearance := hexact.clearance_eq hone hstop
    have hcourse := h.course stop hstop
    rw [hclearance, houtstanding]
    unfold Between at hway
    generalize -direction.toInt * (c.delta dt).units = d at *
    generalize n * 2 ^ unitScale = goal at *
    omega
  · -- it rests as it has arrived
    have harrives : c.arrives dt = true := by
      have hmotion : (if c.arrives dt then Motion.resting else .stepping) = .resting := hrests
      cases harrives : c.arrives dt with
      | true => rfl
      | false =>
        rw [harrives] at hmotion
        cases hmotion
    rw [travel_eq, outstanding, harrives, if_pos rfl, Int.sub_self, Int.mul_zero]

/-- **A motor stays on the way**, whatever time passes. -/
theorem Withdraws.advance (h : c.Withdraws direction n) (hone : c.HasOneStop direction)
    (hexact : c.AdvancesExactly dt) : (c.advance dt).Withdraws direction n := by
  rcases c.advance_cases dt with ⟨motion, hidles, hadvance⟩ | ⟨time, htime, hadvance⟩ <;>
    rw [hadvance]
  · refine ⟨h.velocity, h.course, fun hrests => ?_⟩
    rcases hidles with ⟨hbefore, -⟩ | ⟨delay, -, -, hwaits⟩
    · exact h.rests hbefore
    · have hrests : motion = .resting := hrests
      rw [hwaits] at hrests
      cases hrests
  · exact h.travel hone (hexact time htime)

/-! ## The end of the way -/

/-- A motor that rests `n` increments off its stop, or at its stop if they were towards it. -/
structure IsSquare (direction : Direction) (n : Int) (c : SimulatedChannel) : Prop where
  rests : c.motion = .resting
  clear : ∀ stop, c.mechanics.hardStop? direction = some stop →
    c.clearance direction stop = max 0 n * 2 ^ unitScale

theorem Withdraws.isSquare (h : c.Withdraws direction n) (hrests : c.motion = .resting) :
    c.IsSquare direction n := by
  refine ⟨hrests, fun stop hstop => ?_⟩
  have hdone := h.rests hrests
  have hcourse := h.course stop hstop
  norm_num only [unitScale] at hcourse ⊢
  omega

/-- **Where the way ends.** -/
theorem IsSquare.mechanicalPosition (h : c.IsSquare direction n)
    (hstop : c.mechanics.hardStop? direction = some stop) (hvalue : (ofInt stop).HasValue stop)
    (hreads : c.mechanical.ReadsExactly) :
    c.mechanicalPosition = stop - direction.toInt * max 0 n := by
  have hclear := h.clear stop hstop
  have hunits : c.mechanical.units = (stop - direction.toInt * max 0 n) * 2 ^ unitScale := by
    rw [clearance, hvalue.units] at hclear
    cases direction <;> simp only [Direction.toInt] at hclear ⊢ <;> linarith
  have hvalue : c.mechanical.HasValue (stop - direction.toInt * max 0 n) := ⟨hreads.finite, hunits⟩
  exact hreads.toCounter.trans hvalue.nearestInt

end SimulatedChannel

end MotionControl
