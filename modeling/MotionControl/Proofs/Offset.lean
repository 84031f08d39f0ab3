import MotionControl.Proofs.Axis.Channels
import MotionControl.Proofs.Withdrawal

/-!
# The offset leg of motors at their hard stops

After the second search of a homing run by torque every motor rests at its own hard stop. Motors
with one start delay set out from there together, and each goes by the same offset.

* `AllWait`, `AllStarted`: no motor has started, or every motor has.
* `AllWait.advance`: **motors that wait for the same time start together.**
* `OffsetCourse`: where the motors are in a phase, from the end of the second search on.
* `OffsetLeg.depart`, `OffsetCourse.advance`, `OffsetLeg.arrive`: **every motor gets off its stop by
  the offset.**
-/

namespace MotionControl

/-- The increments of the offset leg away from the reference. -/
def AxisSettings.offsetIncrements (settings : AxisSettings) : Int :=
  (settings.homing.offsetDistance * settings.stepsPerUnit).nearestInt

namespace SimulatedChannel

variable {direction : Direction} {n : Int} {c : SimulatedChannel} {dt : Nat}

/-! ## Motors at rest -/

theorem AtStop.advance (h : c.AtStop direction) (dt : Nat) : (c.advance dt).AtStop direction := by
  rw [advance_of_resting h.rests]
  exact ⟨h.rests, h.touches⟩

theorem IsSquare.advance (h : c.IsSquare direction n) (dt : Nat) :
    (c.advance dt).IsSquare direction n ∧ (c.advance dt).position = c.position := by
  rw [advance_of_resting h.rests]
  exact ⟨⟨h.rests, h.clear⟩, rfl⟩

/-- A motor that is zeroed where it rests. -/
theorem IsSquare.setZero (h : c.IsSquare direction n) :
    c.setZero.IsSquare direction n ∧ c.setZero.position = 0 :=
  ⟨⟨h.rests, h.clear⟩, c.position_setZero⟩

/-- What a motor does once it has been commanded a relative move. -/
theorem motion_moveIncrements (increments : Int) (velocity accel : Single)
    (henabled : c.enabled = true) (hhealthy : c.fault = false) :
    (c.moveIncrements increments velocity accel).motion =
      if increments = 0 then .resting
      else if c.mechanics.startDelay = 0 then .stepping
      else .waiting c.mechanics.startDelay.toNat := by
  unfold moveIncrements
  dsimp only
  simp only [henabled, hhealthy, Bool.not_true, Bool.false_eq_true, or_self, or_false]
  by_cases hzero : increments = 0
  · rw [if_pos hzero, if_pos hzero]
  · rw [if_neg hzero, if_neg hzero]

theorem position_moveIncrements (increments : Int) (velocity accel : Single)
    (c : SimulatedChannel) :
    (c.moveIncrements increments velocity accel).position = c.position := by
  unfold moveIncrements
  dsimp only
  split <;> rfl

end SimulatedChannel

/-! ## Waiting motors -/

open SimulatedChannel (AtStop Withdraws IsSquare)

variable {channels : List SimulatedChannel} {origins : List Int} {dt : Nat}

/-- No motor has started yet: all wait for the same time, where the move was commanded. -/
def AllWait (channels : List SimulatedChannel) (origins : List Int) : Prop :=
  origins = channels.map SimulatedChannel.position ∧
    ∃ delay, ∀ c ∈ channels, c.motion = .waiting delay

/-- No motor waits for its start. -/
def AllStarted (channels : List SimulatedChannel) : Prop :=
  ∀ c ∈ channels, ∀ delay, c.motion ≠ .waiting delay

theorem AllStarted.advance (h : AllStarted channels) (dt : Nat) :
    AllStarted (channels.map (SimulatedChannel.advance dt)) := by
  refine List.forall_mem_map.2 fun c hc delay hwaits => ?_
  rcases c.advance_cases dt with ⟨motion, hidles, hadvance⟩ | ⟨time, -, hadvance⟩ <;>
    rw [hadvance] at hwaits
  · have hwaits : motion = .waiting delay := hwaits
    rcases hidles with ⟨-, rfl⟩ | ⟨delay', hbefore, -⟩
    · cases hwaits
    · exact h c hc delay' hbefore
  · exact SimulatedChannel.motion_travel_ne _ _ _ hwaits

/-- **Motors that wait for the same time start together.** -/
theorem AllWait.advance (h : AllWait channels origins) (dt : Nat) :
    AllWait (channels.map (SimulatedChannel.advance dt)) origins ∨
      AllStarted (channels.map (SimulatedChannel.advance dt)) := by
  obtain ⟨horigins, delay, hwait⟩ := h
  -- the time ends within the common delay, or each motor travels for the rest of it
  by_cases hshort : dt < delay
  · have hadvance : ∀ c ∈ channels,
        c.advance dt = { c with isBlocked := false, motion := .waiting (delay - dt) } := by
      intro c hc
      rw [SimulatedChannel.advance_of_waiting (hwait c hc), if_pos hshort]
    refine .inl ⟨?_, delay - dt, ?_⟩
    · rw [horigins, List.map_map]
      refine List.map_congr_left fun c hc => ?_
      rw [Function.comp_apply, hadvance c hc]
      rfl
    · refine List.forall_mem_map.2 fun c hc => ?_
      rw [hadvance c hc]
  · refine .inr (List.forall_mem_map.2 fun c hc delay' hwaits => ?_)
    rw [SimulatedChannel.advance_of_waiting (hwait c hc), if_neg hshort] at hwaits
    exact SimulatedChannel.motion_travel_ne _ _ _ hwaits

/-- Motors that wait do not show any motion. -/
theorem AllWait.not_motionStarted {axis : Axis SimulatedChannel}
    (h : AllWait axis.channels axis.origins) : axis.motionStarted = false := by
  obtain ⟨horigins, delay, hwait⟩ := h
  refine Bool.eq_false_iff.2 fun hmotion => ?_
  obtain ⟨i, c, origin, hc, horigin, hshows⟩ := axis.exists_of_motionStarted hmotion
  rw [horigins, List.getElem?_map, hc] at horigin
  cases horigin
  rcases hshows with hstepping | hmoved
  · have hwaiting := SimulatedChannel.isStepping_of_waiting (hwait c (List.mem_of_getElem? hc))
    rw [hwaiting] at hstepping
    cases hstepping
  · exact hmoved rfl

/-! ## The course of the motors -/

/-- Where the motors are in the offset leg. -/
def OffsetLeg (settings : AxisSettings) (channels : List SimulatedChannel) (origins : List Int) :
    Stage → Prop
  | .start => ∀ c ∈ channels, c.AtStop settings.homing.direction
  | .waitStart =>
    (∀ c ∈ channels, c.Withdraws settings.homing.direction settings.offsetIncrements) ∧
      (AllWait channels origins ∨ AllStarted channels)
  | .moving =>
    (∀ c ∈ channels, c.Withdraws settings.homing.direction settings.offsetIncrements) ∧
      AllStarted channels

/-- Where the motors are in a phase of the homing sequence, from the end of the second search on. -/
def OffsetCourse (settings : AxisSettings) (channels : List SimulatedChannel)
    (origins : List Int) : HomingPhase → Prop
  | .leg .setOffset stage => OffsetLeg settings channels origins stage
  | .leg _ _ => True
  | .setZero => ∀ c ∈ channels, c.IsSquare settings.homing.direction settings.offsetIncrements
  | .destress _ => ∀ c ∈ channels,
      c.IsSquare settings.homing.direction settings.offsetIncrements ∧ c.position = 0

section

variable {settings : AxisSettings} {phase : HomingPhase}

/-- What leaves every motor on its course leaves the axis on it. -/
theorem OffsetCourse.map {f : SimulatedChannel → SimulatedChannel}
    (h : OffsetCourse settings channels origins phase)
    (hstop : ∀ c ∈ channels, c.AtStop settings.homing.direction →
      (f c).AtStop settings.homing.direction)
    (hway : ∀ c ∈ channels,
      c.Withdraws settings.homing.direction settings.offsetIncrements →
        (f c).Withdraws settings.homing.direction settings.offsetIncrements)
    (hsquare : ∀ c ∈ channels, c.IsSquare settings.homing.direction settings.offsetIncrements →
      (f c).IsSquare settings.homing.direction settings.offsetIncrements ∧
        (f c).position = c.position)
    (hwait : AllWait channels origins →
      AllWait (channels.map f) origins ∨ AllStarted (channels.map f))
    (hstarted : AllStarted channels → AllStarted (channels.map f)) :
    OffsetCourse settings (channels.map f) origins phase := by
  cases phase with
  | leg leg stage =>
    cases leg with
    | rapidSearch | backoff | slowSearch => exact trivial
    | setOffset =>
      cases stage with
      | start => exact List.forall_mem_map.2 fun c hc => hstop c hc (h c hc)
      | waitStart =>
        refine ⟨List.forall_mem_map.2 fun c hc => hway c hc (h.1 c hc), ?_⟩
        exact h.2.elim hwait fun hall => .inr (hstarted hall)
      | moving =>
        exact ⟨List.forall_mem_map.2 fun c hc => hway c hc (h.1 c hc), hstarted h.2⟩
  | setZero => exact List.forall_mem_map.2 fun c hc => (hsquare c hc (h c hc)).1
  | destress deadline =>
    refine List.forall_mem_map.2 fun c hc => ?_
    obtain ⟨hbefore, hzero⟩ := h c hc
    obtain ⟨hafter, hsame⟩ := hsquare c hc hbefore
    exact ⟨hafter, hsame.trans hzero⟩

/-- **Time keeps the motors on their course.** -/
theorem OffsetCourse.advance (h : OffsetCourse settings channels origins phase)
    (hstops : ∀ c ∈ channels, c.HasOneStop settings.homing.direction)
    (hexact : ∀ c ∈ channels, c.AdvancesExactly dt) :
    OffsetCourse settings (channels.map (SimulatedChannel.advance dt)) origins phase :=
  h.map (fun _ _ hstop => hstop.advance dt)
    (fun c hc hway => hway.advance (hstops c hc) (hexact c hc))
    (fun _ _ hsquare => hsquare.advance dt) (fun hwait => hwait.advance dt)
    (fun hstarted => hstarted.advance dt)

theorem OffsetCourse.enable (h : OffsetCourse settings channels origins phase) :
    OffsetCourse settings (channels.map (SimulatedChannel.setEnabled true)) origins phase := by
  refine h.map (fun _ _ hstop => ⟨hstop.rests, hstop.touches⟩)
    (fun _ _ hway => ⟨hway.velocity, hway.course, hway.rests⟩)
    (fun _ _ hsquare => ⟨⟨hsquare.rests, hsquare.clear⟩, rfl⟩) ?_ ?_
  · rintro ⟨horigins, delay, hwait⟩
    refine .inl ⟨?_, delay, List.forall_mem_map.2 hwait⟩
    rw [horigins, List.map_map]
    rfl
  · exact fun hstarted => List.forall_mem_map.2 hstarted

/-! ## The offset leg -/

/-- **Motors that rest at their stops set out together.** -/
theorem OffsetLeg.depart {increments : Int} {velocity accel : Single} {delay : UInt32}
    (h : OffsetLeg settings channels origins .start)
    (henabled : ∀ c ∈ channels, c.enabled = true) (hhealthy : ∀ c ∈ channels, c.fault = false)
    (hdelay : ∀ c ∈ channels, c.mechanics.startDelay = delay)
    (hincrements : increments =
      -settings.homing.direction.toInt * settings.offsetIncrements)
    (hexact : ∀ c ∈ channels, c.StartsExactly increments) :
    OffsetLeg settings
      (channels.map (SimulatedChannel.moveIncrements increments velocity accel))
      (channels.map SimulatedChannel.position) .waitStart := by
  have hmotion (c : SimulatedChannel) (hc : c ∈ channels) :=
    c.motion_moveIncrements increments velocity accel (henabled c hc) (hhealthy c hc)
  refine ⟨List.forall_mem_map.2 fun c hc => ?_, ?_⟩
  · exact .start (h c hc) (henabled c hc) (hhealthy c hc) hincrements (hexact c hc)
  -- the delay is the same for all, so either none waits or all do
  by_cases hnow : increments = 0 ∨ delay = 0
  · refine .inr (List.forall_mem_map.2 fun c hc later hwaits => ?_)
    rw [hmotion c hc, hdelay c hc] at hwaits
    rcases hnow with hzero | hzero
    · rw [if_pos hzero] at hwaits
      cases hwaits
    · rw [if_pos hzero] at hwaits
      split at hwaits <;> cases hwaits
  · obtain ⟨hlength, hlate⟩ := not_or.1 hnow
    refine .inl ⟨?_, delay.toNat, List.forall_mem_map.2 fun c hc => ?_⟩
    · rw [List.map_map]
      exact List.map_congr_left fun c _ => (c.position_moveIncrements ..).symm
    · rw [hmotion c hc, hdelay c hc, if_neg hlength, if_neg hlate]

/-- Motors that have started and do not step any more are at the end of their way. -/
theorem OffsetLeg.arrive (h : OffsetLeg settings channels origins .moving)
    (hrest : ∀ c ∈ channels, c.motion ≠ .stepping) :
    ∀ c ∈ channels, c.IsSquare settings.homing.direction settings.offsetIncrements := by
  obtain ⟨hway, hstarted⟩ := h
  intro c hc
  refine (hway c hc).isSquare ?_
  cases hmotion : c.motion with
  | resting => rfl
  | waiting delay => exact absurd hmotion (hstarted c hc delay)
  | stepping => exact absurd hmotion (hrest c hc)

end

end MotionControl
