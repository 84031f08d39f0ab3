import MotionControl.Proofs.Axis.Recording
import MotionControl.Proofs.Numeric.Range
import MotionControl.Proofs.Settings.Validity

/-!
# Moves that a channel can execute

A channel can execute a move of some length, with a speed and an acceleration above zero. An axis
tests what it is asked for in axis units, and so do its settings. The scaling into increments comes
after that: it can round a length to nothing, and a speed to zero or to an infinity.

* `HomingSession.LegFits`, `Moment.FitsScale`: what an act asks for can be scaled.
* `maxTravel_run`: the reach of a homing run is above zero all along a run.
* `commands_executable_iff`: **the moves of an act can be executed exactly if what it asks for can
  be scaled**; a move given in increments always can.
* `commands_not_executable`: a leg of no length, and a move with an infinite speed.
-/

namespace MotionControl

/-- A leg of a homing run reaches an increment, and its speed and acceleration are scaled to numbers
above zero. -/
structure HomingSession.LegFits (session : HomingSession) (leg : Leg) (scale : ℚ) : Prop where
  distance : Single.ReachesOne ((leg.distance session.settings session.maxTravel).value * scale)
  speed : Single.KeepsPositive ((leg.speed session.settings).value * scale)
  accel : Single.KeepsPositive (session.settings.accel.value * scale)

/-- What an act asks for in axis units can be scaled: the speed and the acceleration of a move to a
position, and the leg that a homing run is about to start. -/
structure Moment.FitsScale {C : Type} (moment : Moment C) : Prop where
  move : ∀ request now, moment.act = .call (.moveTo request now) →
    Single.KeepsPositive (request.velocity.value * moment.axis.settings.stepsPerUnit.value) ∧
      Single.KeepsPositive (request.accel.value * moment.axis.settings.stepsPerUnit.value)
  leg : ∀ now session leg, moment.act = .update now → moment.axis.state = .homing session →
    session.phase = .leg leg .start →
      session.LegFits leg moment.axis.settings.stepsPerUnit.value

variable {C : Type} [MotorChannel C]

namespace Axis

/-! ## The reach of a homing run -/

section

variable {axis next : Axis C} {now : Nat}

theorem HomingCase.maxTravel {session session' : HomingSession} {event : Option AxisEvent}
    (h : axis.HomingCase session now next event) (hstate : next.state = .homing session') :
    session'.maxTravel = session.maxTravel := by
  cases h with
  | fail | zero | settle => cases hstate
  | wait | start | depart | seek | find | retreat | release =>
    cases hstate
    rfl

/-- Every homing run that goes on may search over some distance. -/
def HasReach (axis : Axis C) : Prop :=
  ∀ session, axis.state = .homing session → session.maxTravel.isPositive = true

theorem hasReach_next {act : AxisAct C} (h : axis.HasReach) :
    (Moment.next ⟨axis, act⟩).HasReach := by
  intro session hstate
  cases act with
  | sense feedback => exact h session hstate
  | update now =>
    rcases (axis.update_case now).homing_before hstate with ⟨hsame, -⟩ | ⟨before, hbefore, hcase⟩
    · exact h session hsame
    · rw [hcase.maxTravel hstate]
      exact h before hbefore
  | call call =>
    cases hrun : call.attempt.run axis with
    | error refusal refused =>
      have hsame : refused = axis := call.attempt_atomic _ _ _ hrun
      simp only [Moment.next, hrun, hsame] at hstate
      exact h session hstate
    | ok u accepted =>
      simp only [Moment.next, hrun] at hstate
      rcases (callCase_of_run hrun).homing hstate with
        ⟨-, maxTravel, torque, now, hcall, hsession, -⟩ | ⟨hsame, -⟩
      · -- the run has just begun, with the reach that was asked for
        rw [hcall] at hrun
        obtain ⟨-, harguments, -⟩ := tryHome_ok.1 hrun
        rw [Bool.and_eq_true] at harguments
        rw [hsession]
        exact harguments.1
      · exact h session hsame

end

variable {settings : AxisSettings} {channels : List C} {start : Axis C}

/-- **The reach of a homing run is above zero all along a run** of an axis that has been built. -/
theorem maxTravel_run (hstart : ofChannels settings channels = .ok start)
    (acts : List (AxisAct C)) : (start.run acts).HasReach := by
  have hrest : start.HasReach := by
    intro session hstate
    rw [(atRest_of_ofChannels hstart).1] at hstate
    cases hstate
  exact run_induction (fun _ axis => axis.HasReach) (fun _ _ _ h => hasReach_next h) acts hrest

/-! ## The legs of a homing run -/

/-- The sign of a leg is that of a direction. -/
theorem exists_leg_sign (homing : HomingSettings) (leg : Leg) :
    ∃ direction : Direction, leg.sign homing = direction.sign := by
  unfold Leg.sign
  split
  · exact ⟨_, rfl⟩
  · exact ⟨_, homing.direction.neg_sign⟩

/-- What a homing run is set up with is above zero in axis units. -/
theorem isPositive_leg {homing : HomingSettings} {maxTravel : Single}
    (hspeeds : homing.speedsUsable = true) (hdistances : homing.distancesUsable = true)
    (hreach : maxTravel.isPositive = true) (leg : Leg) :
    (leg.distance homing maxTravel).isPositive = true ∧ (leg.speed homing).isPositive = true ∧
      homing.accel.isPositive = true := by
  simp only [HomingSettings.speedsUsable, Bool.and_eq_true] at hspeeds
  simp only [HomingSettings.distancesUsable, Bool.and_eq_true] at hdistances
  obtain ⟨⟨⟨hrapid, hback⟩, hslow⟩, haccel⟩ := hspeeds
  obtain ⟨⟨⟨hbackoff, hoffset⟩, hsearch⟩, -⟩ := hdistances
  cases leg with
  | rapidSearch => exact ⟨hreach, hrapid, haccel⟩
  | backoff => exact ⟨hbackoff, hback, haccel⟩
  | slowSearch => exact ⟨hsearch, hslow, haccel⟩
  | setOffset => exact ⟨hoffset, hback, haccel⟩

omit [MotorChannel C] in
/-- **The move of a leg can be executed exactly if the leg can be scaled.** -/
theorem leg_executable_iff {axis : Axis C} {session : HomingSession} {leg : Leg}
    (hscale : axis.settings.stepsPerUnit.isPositive = true)
    (hspeeds : session.settings.speedsUsable = true)
    (hdistances : session.settings.distancesUsable = true)
    (hreach : session.maxTravel.isPositive = true) :
    (axis.legIncrements session leg ≠ 0 ∧
        (leg.speed session.settings * axis.settings.stepsPerUnit).isPositive = true ∧
        (session.settings.accel * axis.settings.stepsPerUnit).isPositive = true) ↔
      session.LegFits leg axis.settings.stepsPerUnit.value := by
  obtain ⟨hdistance, hspeed, haccel⟩ := isPositive_leg hspeeds hdistances hreach leg
  obtain ⟨direction, hsign⟩ := exists_leg_sign session.settings leg
  rw [legIncrements, hsign, Single.toCounter_sign_mul_ne_zero_iff direction hdistance hscale,
    Single.isPositive_mul_iff hspeed hscale, Single.isPositive_mul_iff haccel hscale]
  exact ⟨fun ⟨h₁, h₂, h₃⟩ => ⟨h₁, h₂, h₃⟩, fun h => ⟨h.distance, h.speed, h.accel⟩⟩

/-! ## All moves -/

/-- **The moves of an act can be executed exactly if what it asks for can be scaled.** The act comes
to an axis with valid settings after any others, and a move can be executed if it has some length
and its speed and acceleration are finite and above zero. -/
theorem commands_executable_iff (hvalid : settings.fault? = none)
    (hstart : ofChannels settings channels = .ok start) (acts : List (AxisAct C))
    (act : AxisAct C) :
    ∀ commands ∈ Moment.received ⟨start.run acts, act⟩,
      ∀ (increments : Int) (velocity accel : Single),
        .moveIncrements increments velocity accel ∈ commands →
        (increments ≠ 0 ∧ velocity.isPositive = true ∧ accel.isPositive = true ↔
          Moment.FitsScale ⟨start.run acts, act⟩) := by
  intro commands hcommands increments velocity accel hmove
  have hsettings := settings_run hstart acts
  have hreach := maxTravel_run hstart acts
  have hsound := isSound_run hstart acts
  obtain ⟨hscale, -, hspeeds, hdistances⟩ := AxisSettings.usable_of_fault? hvalid
  have hcommanded := Moment.commands_of_received hcommands hmove
  -- from here on any sound axis will do
  generalize start.run acts = axis at *
  rw [← hsettings] at hscale hspeeds hdistances
  cases hcommanded with
  | @moveTo request now hcall hsome =>
    obtain ⟨rfl, next, hrun⟩ := Moment.run_of_accepted hcall
    obtain ⟨-, husable, -⟩ := tryMoveTo_ok.1 hrun
    simp only [MoveRequest.isUsable, Bool.and_eq_true] at husable
    obtain ⟨⟨⟨-, hvelocity⟩, haccel⟩, -⟩ := husable
    rw [Single.isPositive_mul_iff hvelocity hscale, Single.isPositive_mul_iff haccel hscale]
    constructor
    · rintro ⟨-, hheld⟩
      refine ⟨fun request' now' hact => ?_, fun now' session leg hact => by cases hact⟩
      cases hact
      exact hheld
    · intro hfits
      exact ⟨hsome, hfits.move request now rfl⟩
  | @moveIncrements _ _ _ torque now hcall hsome =>
    obtain ⟨rfl, next, hrun⟩ := Moment.run_of_accepted hcall
    obtain ⟨-, harguments, -⟩ := tryMoveIncrements_ok.1 hrun
    simp only [Bool.and_eq_true] at harguments
    -- nothing is scaled on this way
    refine iff_of_true ⟨hsome, harguments.1⟩ ⟨?_, ?_⟩
    · intro request' now' hact
      cases hact
    · intro now' session leg hact
      cases hact
  | @leg session leg now hact hstate hphase =>
    have hstate : axis.state = .homing session := hstate
    have hfits := hsound.session session hstate
    rw [← hfits.settings] at hspeeds hdistances
    rw [leg_executable_iff hscale hspeeds hdistances (hreach session hstate)]
    cases hact
    constructor
    · intro hleg
      constructor
      · intro request' now' hact
        cases hact
      · -- the state tells the leg
        intro now' session' leg' _ hsame hphase'
        cases hstate.symm.trans hsame
        cases hphase.symm.trans hphase'
        exact hleg
    · intro hfits
      exact hfits.leg now session leg rfl hstate hphase

end Axis

/-- An axis with one motor, with this scale and this retreat of a homing run. -/
def geared (stepsPerUnit backoffDistance : Single) : Axis ScriptedChannel :=
  { spindle with settings := { stepsPerUnit, homing := { backoffDistance } } }

theorem geared_isBuilt (stepsPerUnit backoffDistance : Single) :
    Axis.ofChannels (geared stepsPerUnit backoffDistance).settings [{}] =
      .ok (geared stepsPerUnit backoffDistance) := rfl

/-- The retreat of a homing run, and a move after the run. -/
theorem commands_executable_iff_geared :
    Moment.received ⟨(geared 80 5).run (spindleHoming.take 8), .update 5⟩ =
        [[.setTorqueLimit 50, .moveIncrements 400 800 16000]] ∧
      Moment.FitsScale ⟨(geared 80 5).run (spindleHoming.take 8), .update 5⟩ ∧
      Moment.received ⟨(geared 80 5).run spindleHoming, .call (.moveTo ⟨.absolute, 6, 1, 1, 50⟩ 14)⟩ =
        [[.setTorqueLimit 50, .moveIncrements 480 80 80]] ∧
      Moment.FitsScale
        ⟨(geared 80 5).run spindleHoming, .call (.moveTo ⟨.absolute, 6, 1, 1, 50⟩ 14)⟩ := by
  have hvalid : (geared 80 5).settings.fault? = none := by decide +kernel
  have hretreat : Moment.received ⟨(geared 80 5).run (spindleHoming.take 8), .update 5⟩ =
      [[.setTorqueLimit 50, .moveIncrements 400 800 16000]] := by
    decide +kernel
  have hmove : Moment.received
      ⟨(geared 80 5).run spindleHoming, .call (.moveTo ⟨.absolute, 6, 1, 1, 50⟩ 14)⟩ =
        [[.setTorqueLimit 50, .moveIncrements 480 80 80]] := by
    decide +kernel
  refine ⟨hretreat, ?_, hmove, ?_⟩
  · have hiff := Axis.commands_executable_iff hvalid (geared_isBuilt 80 5) (spindleHoming.take 8)
      (.update 5) _ (hretreat ▸ List.mem_singleton_self _) 400 800 16000 (by decide)
    exact hiff.1 ⟨by decide, by decide +kernel, by decide +kernel⟩
  · have hiff := Axis.commands_executable_iff hvalid (geared_isBuilt 80 5) spindleHoming
      (.call (.moveTo ⟨.absolute, 6, 1, 1, 50⟩ 14)) _ (hmove ▸ List.mem_singleton_self _)
      480 80 80 (by decide)
    exact hiff.1 ⟨by decide, by decide +kernel, by decide +kernel⟩

/-- **Moves that cannot be executed**: a retreat of less than half an increment, a speed that leaves
the range of single precision, and a speed that vanishes. -/
theorem commands_not_executable :
    ((geared 1 0.1).settings.fault? = none ∧
        Moment.received ⟨(geared 1 0.1).run (spindleHoming.take 8), .update 5⟩ =
          [[.setTorqueLimit 50, .moveIncrements 0 10 200]]) ∧
      ((geared 10000 5).settings.fault? = none ∧
        Moment.received ⟨(geared 10000 5).run spindleHoming,
            .call (.moveTo ⟨.absolute, 6, 1e38, 1, 50⟩ 14)⟩ =
          [[.setTorqueLimit 50, .moveIncrements 60000 (.infinity false) 10000]]) ∧
      ((geared 0.25 5).settings.fault? = none ∧
        Moment.received ⟨(geared 0.25 5).run spindleHoming,
            .call (.moveTo ⟨.absolute, 100, 1e-45, 1, 50⟩ 14)⟩ =
          [[.setTorqueLimit 50, .moveIncrements 25 0 0.25]]) := by
  decide +kernel

end MotionControl
