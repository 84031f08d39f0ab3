import MotionControl.Proofs.Motor.Acts

/-!
# Time can be split anywhere

A motor for which some time passes, and then some more, is where it would be if both had passed at
once, as long as nothing on the way is rounded. The two ways may differ in when the start delay is
over, in when the motor arrives, and in when its mechanics come to a stop.

* `SimulatedChannel.TravelsLinearly`: a travel of which nothing is rounded; `delta_units`: how far
  it goes, as a function of the time.
* `SimulatedChannel.IsPlain`: no number of a motor is a negative zero, whatever comes to it.
* `travel_travel`: two travels are one; `time_splits`: **time can be split anywhere.**
-/

namespace MotionControl.SimulatedChannel

open Single

variable {c next : SimulatedChannel} {act : MotorAct} {acts : List MotorAct} {a b time : Nat}

/-! ## Exact travels -/

/-- Nothing is rounded on a travel: not the sums, and not how far the motor can go, which takes the
time as a number, a product and a quotient. -/
structure TravelsLinearly (time : Nat) (c : SimulatedChannel) : Prop where
  sums : c.TravelsExactly time
  finite : (c.distance time).rank < infinityRank
  linear : (c.distance time).units * 1000 = c.velocity.units * time

instance (time : Nat) (c : SimulatedChannel) : Decidable (c.TravelsLinearly time) :=
  decidable_of_iff
    (c.TravelsExactly time ∧ (c.distance time).rank < infinityRank ∧
      (c.distance time).units * 1000 = c.velocity.units * time)
    ⟨fun ⟨hsums, hfinite, hlinear⟩ => ⟨hsums, hfinite, hlinear⟩,
      fun h => ⟨h.sums, h.finite, h.linear⟩⟩

/-- Nothing is rounded for a motor in some time. -/
def PassesExactly (dt : Nat) (c : SimulatedChannel) : Prop :=
  ∀ time ∈ c.travelTime? dt, c.TravelsLinearly time

instance (dt : Nat) (c : SimulatedChannel) : Decidable (c.PassesExactly dt) :=
  inferInstanceAs (Decidable (∀ time ∈ c.travelTime? dt, c.TravelsLinearly time))

namespace TravelsLinearly

/-- A motor arrives if it can go as far as it has to. -/
theorem arrives_iff (h : c.TravelsLinearly time) :
    c.arrives time = true ↔
      (c.target.units - c.steps.units).natAbs ≤ (c.distance time).units := by
  have hremaining := (not_nan_of_rank h.sums.remaining.finite).1
  have habs : c.remaining.abs.isNaN = false := by
    rw [isNaN, rank_abs]
    exact hremaining
  have hmagnitude : c.remaining.abs.units = (c.target.units - c.steps.units).natAbs := by
    rw [units, isNegative_abs, if_neg Bool.false_ne_true, magnitude_eq_of_rank (rank_abs _),
      ← natAbs_units, h.sums.remaining_units]
  rw [← hmagnitude]
  exact le_iff_units habs (not_nan_of_rank h.finite).1

/-- **How far a travel goes**: as far as the motor has to, if it can go that far. -/
theorem delta_units (h : c.TravelsLinearly time) (hforward : c.velocity.isNegative = false) :
    (c.delta time).units =
      max (-(c.distance time).units)
        (min (c.distance time).units (c.target.units - c.steps.units)) := by
  have hdistance := units_distance hforward time
  have hiff := h.arrives_iff
  unfold delta
  cases harrives : c.arrives time with
  | true =>
    have hnear := hiff.1 harrives
    rw [if_pos rfl, h.sums.remaining_units]
    omega
  | false =>
    have hfar : ¬ ((c.target.units - c.steps.units).natAbs : Int) ≤ (c.distance time).units := by
      intro hnear
      rw [hiff.2 hnear] at harrives
      cases harrives
    have hsign : c.remaining.isNegative = decide (c.target.units < c.steps.units) := by
      have hleft := h.sums.remaining.left
      have hright : c.steps.rank < infinityRank := by
        have hneg := h.sums.remaining.right
        rwa [rank_neg] at hneg
      exact isNegative_sub hleft hright (by omega)
    rw [if_neg Bool.false_ne_true, units_withSignOf, hsign]
    simp only [decide_eq_true_eq]
    split <;> omega

/-- A travel takes the counter as far as it goes. -/
theorem steps_units (h : c.TravelsLinearly time) :
    (c.travel time).steps.units = c.steps.units + (c.delta time).units := by
  rw [travel_eq]
  dsimp only
  split
  · rename_i harrives
    rw [delta, if_pos harrives, h.sums.remaining_units]
    omega
  · rename_i hfar
    exact (h.sums.steps (Bool.eq_false_iff.2 hfar)).units

/-- **And the mechanics**, as far as the stops let it. -/
theorem mechanical_units (h : c.TravelsLinearly time) :
    (c.travel time).mechanical.units =
      c.mechanics.hold (c.mechanical.units + (c.delta time).units) := by
  have hsum := (not_nan_of_rank h.sums.mechanical.finite).1
  rw [travel_eq, ← h.sums.mechanical.units]
  exact units_clampToStops c.mechanics hsum

end TravelsLinearly

/-! ## No negative zeros -/

/-- No number of a motor is a negative zero, so that its numbers are told by their values. -/
structure IsPlain (c : SimulatedChannel) : Prop where
  forward : c.velocity.isNegative = false
  steps : c.steps.IsPlain
  target : c.target.IsPlain
  mechanical : c.mechanical.IsPlain

namespace IsPlain

theorem ofPosition (mechanics : Mechanics) (position : Int) :
    (ofPosition mechanics position).IsPlain :=
  ⟨isNegative_ofNat 0, isPlain_ofInt position, isPlain_ofInt position, isPlain_ofInt position⟩

theorem travel (h : c.IsPlain) (time : Nat) : (c.travel time).IsPlain where
  forward := h.forward
  steps := by
    rw [travel_eq]
    dsimp only
    split
    · exact h.target
    · exact h.steps.add _
  target := h.target
  mechanical := by
    rw [travel_eq]
    dsimp only
    rcases clampToStops_cases c.mechanics (c.mechanical + c.delta time) with
      hfree | ⟨direction, stop, -, hheld⟩
    · rw [hfree]
      exact h.mechanical.add _
    · rw [hheld]
      exact isPlain_ofInt stop

theorem step (h : c.IsPlain) (hcase : c.ActCase act next) : next.IsPlain := by
  cases hcase with
  | stay act other target htarget =>
    refine ⟨h.forward, h.steps, ?_, h.mechanical⟩
    rcases htarget with rfl | rfl
    · exact h.target
    · exact h.steps
  | depart increments velocity accel target motion htarget =>
    refine ⟨isNegative_abs velocity, h.steps, ?_, h.mechanical⟩
    rcases htarget with rfl | rfl
    · exact h.steps.add _
    · exact h.steps
  | brake => exact ⟨h.forward, h.steps, h.steps.add _, h.mechanical⟩
  | travel dt time =>
    exact h.travel time

end IsPlain

/-- **No number of a motor comes to be a negative zero**, whatever comes to it. -/
theorem isPlain_after (hc : c.IsPlain) (acts : List MotorAct) : (c.after acts).IsPlain :=
  after_induction hc fun _ hcase h => h.step hcase

/-! ## Two travels -/

/-- A motor, apart from whether it was blocked in the last stretch of time. -/
def unblocked (c : SimulatedChannel) : SimulatedChannel := { c with isBlocked := false }

/-- A motor that arrives in some time has arrived when more has passed. -/
theorem travel_of_arrived (hforward : c.velocity.isNegative = false) (ha : c.TravelsLinearly a)
    (hab : c.TravelsLinearly (a + b)) (harrives : c.arrives a = true) :
    ((c.travel a).advance b).unblocked = (c.travel (a + b)).unblocked := by
  -- a motor does not go backwards, so that it can go as far in more time
  have hvelocity : 0 ≤ c.velocity.units * b := by
    rw [units, hforward, if_neg Bool.false_ne_true]
    exact Int.mul_nonneg (Int.natCast_nonneg _) (Int.natCast_nonneg _)
  have hlinear := ha.linear
  have hlinear' := hab.linear
  rw [Nat.cast_add, Int.mul_add] at hlinear'
  have hlater : c.arrives (a + b) = true := by
    rw [hab.arrives_iff]
    have hnear := ha.arrives_iff.1 harrives
    omega
  have hrests : (c.travel a).motion = .resting := by rw [travel_eq, harrives]; rfl
  rw [advance_of_resting hrests]
  simp only [travel_eq, unblocked, delta, harrives, hlater, if_true]

/-- What a motor can go in two stretches of time is what it can go in both. -/
theorem distance_add (ha : c.TravelsLinearly a) (hb : (c.travel a).TravelsLinearly b)
    (hab : c.TravelsLinearly (a + b)) :
    (c.distance (a + b)).units = (c.distance a).units + ((c.travel a).distance b).units := by
  have hfirst := ha.linear
  have hsecond : ((c.travel a).distance b).units * 1000 = c.velocity.units * b := hb.linear
  have hboth := hab.linear
  rw [Nat.cast_add, Int.mul_add] at hboth
  omega

/-- **A motor that has not arrived goes on**: in both stretches of time it goes in one direction, and
as far as at once. -/
theorem delta_add (hforward : c.velocity.isNegative = false) (ha : c.TravelsLinearly a)
    (hb : (c.travel a).TravelsLinearly b) (hab : c.TravelsLinearly (a + b))
    (harrives : c.arrives a = false) :
    (c.delta (a + b)).units = (c.delta a).units + ((c.travel a).delta b).units ∧
      (0 ≤ (c.delta a).units ∧ 0 ≤ ((c.travel a).delta b).units ∨
        (c.delta a).units ≤ 0 ∧ ((c.travel a).delta b).units ≤ 0) ∧
      (c.travel a).arrives b = c.arrives (a + b) := by
  have hadd := distance_add ha hb hab
  have hfirst := ha.delta_units hforward
  have hsecond := hb.delta_units hforward
  have hboth := hab.delta_units hforward
  have hnonneg := units_distance hforward a
  have hnonneg' : ((c.travel a).distance b).units = ((c.travel a).distance b).magnitude :=
    units_distance hforward b
  have htarget : (c.travel a).target = c.target := rfl
  rw [htarget, ha.steps_units] at hsecond
  have hfar := mt ha.arrives_iff.2 (Bool.eq_false_iff.1 harrives)
  refine ⟨by omega, by omega, ?_⟩
  rw [Bool.eq_iff_iff, hb.arrives_iff, hab.arrives_iff, htarget, ha.steps_units]
  omega

/-- What a travel leaves of a motor. -/
theorem unblocked_travel (dt : Nat) (c : SimulatedChannel) :
    (c.travel dt).unblocked =
      { c with
        steps := (c.travel dt).steps, mechanical := (c.travel dt).mechanical, isBlocked := false
        motion := if c.arrives dt then .resting else .stepping } := rfl

/-- A motor that is on its way after some time goes on with it. -/
theorem travel_of_underway (hplain : c.IsPlain) (hadmits : c.mechanics.Encloses c.mechanical.units)
    (ha : c.TravelsLinearly a) (hb : (c.travel a).TravelsLinearly b)
    (hab : c.TravelsLinearly (a + b)) (harrives : c.arrives a = false) :
    ((c.travel a).travel b).unblocked = (c.travel (a + b)).unblocked := by
  have hfirst := hplain.travel a
  obtain ⟨hadd, hsigns, hsame⟩ := delta_add hplain.forward ha hb hab harrives
  have hsteps : ((c.travel a).travel b).steps = (c.travel (a + b)).steps := by
    refine (hfirst.travel b).steps.eq_of_units (hplain.travel (a + b)).steps ?_
    rw [hb.steps_units, hab.steps_units, ha.steps_units, hadd, Int.add_assoc]
  -- the stops hold two steps in one direction where they hold their sum
  have hmechanical : ((c.travel a).travel b).mechanical = (c.travel (a + b)).mechanical := by
    refine (hfirst.travel b).mechanical.eq_of_units (hplain.travel (a + b)).mechanical ?_
    rw [hb.mechanical_units, hab.mechanical_units, ha.mechanical_units, hadd]
    exact Mechanics.hold_hold hadmits hsigns
  rw [unblocked_travel, unblocked_travel, hsteps, hmechanical, hsame]
  rfl

/-- **Two travels** are one. -/
theorem travel_travel (hplain : c.IsPlain) (hadmits : c.mechanics.Encloses c.mechanical.units)
    (ha : c.TravelsLinearly a) (hb : (c.travel a).PassesExactly b)
    (hab : c.TravelsLinearly (a + b)) :
    ((c.travel a).advance b).unblocked = (c.travel (a + b)).unblocked := by
  cases harrives : c.arrives a with
  | true => exact travel_of_arrived hplain.forward ha hab harrives
  | false =>
    have hmotion : (c.travel a).motion = .stepping := by rw [travel_eq, harrives]; rfl
    have hpasses : (c.travel a).TravelsLinearly b := hb b (travelTime?_of_stepping hmotion b)
    rw [advance_of_stepping hmotion]
    exact travel_of_underway hplain hadmits ha hpasses hab harrives

/-! ## Some time -/

/-- **Time can be split anywhere**, if nothing is rounded: apart from whether it was blocked, the
motor is where it would be at once. -/
theorem advance_advance (hplain : c.IsPlain) (hadmits : c.mechanics.Encloses c.mechanical.units)
    (ha : c.PassesExactly a) (hb : (c.advance a).PassesExactly b)
    (hab : c.PassesExactly (a + b)) :
    ((c.advance a).advance b).unblocked = (c.advance (a + b)).unblocked := by
  cases hmotion : c.motion with
  | resting =>
    have hrests : (c.advance a).motion = .resting := by
      rw [advance_of_resting hmotion]
      exact hmotion
    rw [advance_of_resting hrests, advance_of_resting hmotion, advance_of_resting hmotion]
  | stepping =>
    have hmoves := travelTime?_of_stepping hmotion
    rw [advance_of_stepping hmotion] at hb ⊢
    rw [advance_of_stepping hmotion]
    exact travel_travel hplain hadmits (ha a (hmoves a)) hb (hab (a + b) (hmoves (a + b)))
  | waiting delay =>
    -- by the stretch in which the start delay is over
    rw [advance_of_waiting hmotion (a + b)]
    by_cases hlong : delay ≤ a
    · have htime : a + b - delay = a - delay + b := by omega
      rw [advance_of_waiting hmotion, if_neg (Nat.not_lt.2 hlong)] at hb ⊢
      rw [if_neg (by omega), htime]
      have hfirst := ha _ (travelTime?_of_waiting hmotion hlong)
      have hboth := hab _ (travelTime?_of_waiting hmotion (by omega))
      rw [htime] at hboth
      exact travel_travel hplain hadmits hfirst hb hboth
    · have hwaits : c.advance a =
          { c with isBlocked := false, motion := .waiting (delay - a) } := by
        rw [advance_of_waiting hmotion, if_pos (Nat.not_le.1 hlong)]
      rw [hwaits, advance_of_waiting rfl]
      by_cases hshort : a + b < delay
      · rw [if_pos (by omega), if_pos hshort, Nat.sub_sub]
      · have htime : b - (delay - a) = a + b - delay := by omega
        rw [if_neg (by omega), if_neg hshort, travel_with, htime]

/-- **Time can be split anywhere**, whatever has come to the motor before: if it is within its stops
and nothing is rounded, then apart from whether it counts as blocked it is where it would be if all
the time had passed at once. -/
theorem time_splits {mechanics : Mechanics} {position : Int}
    (hc : c = (ofPosition mechanics position).after acts)
    (hadmits : c.mechanics.Admits c.mechanical) (ha : c.PassesExactly a)
    (hb : (c.advance a).PassesExactly b) (hab : c.PassesExactly (a + b)) :
    ((c.advance a).advance b).unblocked = (c.advance (a + b)).unblocked := by
  have hplain : c.IsPlain := hc ▸ isPlain_after (IsPlain.ofPosition mechanics position) acts
  exact advance_advance hplain hadmits.encloses ha hb hab

/-- The motor that starts late and is sent past its stop. -/
def sentToStop : SimulatedChannel :=
  (ofPosition { hardStopMax := some 50, startDelay := 20 } 0).after
    [.command (.moveIncrements 80 500 100)]

/-- A motor that starts in the first stretch of time and comes to its stop in the second. -/
theorem time_splits_at_stop :
    ((sentToStop.advance 50).advance 170).unblocked = (sentToStop.advance 220).unblocked ∧
      (sentToStop.advance 50).mechanical = 15 ∧ (sentToStop.advance 220).mechanical = 50 :=
  ⟨time_splits rfl (by decide +kernel) (by decide +kernel) (by decide +kernel) (by decide +kernel),
    by decide +kernel⟩

end MotionControl.SimulatedChannel
