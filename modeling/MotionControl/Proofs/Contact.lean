import MotionControl.Proofs.Axis.Channels
import MotionControl.Proofs.Axis.Homing
import MotionControl.Proofs.Numeric.Exact

/-!
# Motors at their hard stops

A motor that finds its reference by torque presses against a hard stop. If there is no other stop
and its load is all that it reports as its effort, then each hit of a search is a contact.

* `SimulatedChannel.travel_eq`, `advance_cases`: what a motor does in some time.
* `HasOneStop`: a motor with one hard stop; `Stands`: it stays that motor, whatever comes to it.
* `isBlocked_of_atReference`: a motor that is at its reference presses against its stop.
* `Axis.atStop_of_walk`: **a search leaves every motor that it has hit at rest at its stop.**
-/

namespace MotionControl

/-! ## One hard stop -/

/-- Whether `x` lies farther in a direction than `y`. -/
def Direction.isPast : Direction → Single → Single → Bool
  | negative, x, y => decide (x < y)
  | positive, x, y => decide (y < x)

namespace Mechanics

/-- The hard stop on the side of a direction. -/
def hardStop? (direction : Direction) (mechanics : Mechanics) : Option Int :=
  match direction with
  | .negative => mechanics.hardStopMin
  | .positive => mechanics.hardStopMax

end Mechanics

namespace SimulatedChannel

variable {direction : Direction} {c c' : SimulatedChannel}

/-- A single hard stop holds back what would go past it. -/
theorem clampToStops_eq {mechanics : Mechanics} {stop : Int}
    (hstop : mechanics.hardStop? direction = some stop)
    (hfree : mechanics.hardStop? direction.opposite = none) (position : Single) :
    clampToStops mechanics position =
      if direction.isPast position (.ofInt stop) then (.ofInt stop, true)
      else (position, false) := by
  cases direction <;>
    simp only [Mechanics.hardStop?, Direction.opposite] at hstop hfree <;>
    simp only [clampToStops, raiseToStop, lowerToStop, hstop, hfree, Direction.isPast,
      decide_eq_true_eq] <;>
    split <;> rfl

/-- The motor is at its hard stop on the side of a direction. -/
def TouchesStop (direction : Direction) (c : SimulatedChannel) : Prop :=
  ∀ stop, c.mechanics.hardStop? direction = some stop → c.mechanical = .ofInt stop

/-- The motor rests at its hard stop. -/
structure AtStop (direction : Direction) (c : SimulatedChannel) : Prop where
  rests : c.motion = .resting
  touches : c.TouchesStop direction

theorem AtStop.stopAbrupt (h : c.AtStop direction) : c.stopAbrupt.AtStop direction :=
  ⟨rfl, h.touches⟩

/-- A motor with a hard stop on the side of a direction and none on the other one. It has no fault,
no effort but its load is read from it, and it counts as blocked only at its stop. -/
structure HasOneStop (direction : Direction) (c : SimulatedChannel) : Prop where
  stop : (c.mechanics.hardStop? direction).isSome = true
  free : c.mechanics.hardStop? direction.opposite = none
  healthy : c.fault = false
  genuine : c.effortOverride = none
  pressed : c.isBlocked = true → c.TouchesStop direction

/-! ## What a motor does in some time -/

/-- How far a motor still has to go. -/
def remaining (c : SimulatedChannel) : Single := c.target - c.steps

/-- How far a motor can go in some time. -/
def distance (dt : Nat) (c : SimulatedChannel) : Single := c.velocity * .ofNat dt / 1000

def arrives (dt : Nat) (c : SimulatedChannel) : Bool := c.remaining.abs.le (c.distance dt)

/-- How far a motor goes in some time. -/
def delta (dt : Nat) (c : SimulatedChannel) : Single :=
  if c.arrives dt then c.remaining else (c.distance dt).withSignOf c.remaining

theorem travel_eq (dt : Nat) (c : SimulatedChannel) :
    c.travel dt =
      { c with
        mechanical := (clampToStops c.mechanics (c.mechanical + c.delta dt)).1
        isBlocked := (clampToStops c.mechanics (c.mechanical + c.delta dt)).2
        steps := if c.arrives dt then c.target else c.steps + c.delta dt
        motion := if c.arrives dt then .resting else .stepping } := rfl

/-- A travel neither asks what the motor did before nor whether it was blocked. -/
theorem travel_with (dt : Nat) (motion : Motion) (c : SimulatedChannel) :
    { c with isBlocked := false, motion }.travel dt = c.travel dt := by
  rw [travel_eq, travel_eq]
  rfl

/-- A motor that travels does not wait any more. -/
theorem motion_travel_ne (dt delay : Nat) (c : SimulatedChannel) :
    (c.travel dt).motion ≠ .waiting delay := by
  rw [travel_eq]
  dsimp only
  split <;> exact nofun

/-- How long a motor travels in some time, if it does. -/
def travelTime? (dt : Nat) (c : SimulatedChannel) : Option Nat :=
  match c.motion with
  | .resting => none
  | .waiting delay => if dt < delay then none else some (dt - delay)
  | .stepping => some dt

/-- The motion of a motor after some time in which it does not travel. -/
def Idles (dt : Nat) (c : SimulatedChannel) (motion : Motion) : Prop :=
  c.motion = .resting ∧ motion = .resting ∨
    ∃ delay, c.motion = .waiting delay ∧ dt < delay ∧ motion = .waiting (delay - dt)

/-- **Some time** passes for a motor where it is, or it travels. -/
theorem advance_cases (dt : Nat) (c : SimulatedChannel) :
    (∃ motion, c.Idles dt motion ∧ c.advance dt = { c with isBlocked := false, motion }) ∨
      ∃ time, c.travelTime? dt = some time ∧ c.advance dt = c.travel time := by
  unfold advance travelTime?
  dsimp only
  cases hmotion : c.motion with
  | resting => exact .inl ⟨.resting, .inl ⟨hmotion, rfl⟩, rfl⟩
  | waiting delay =>
    dsimp only
    split
    · rename_i hshort
      exact .inl ⟨_, .inr ⟨delay, hmotion, hshort, rfl⟩, rfl⟩
    · exact .inr ⟨_, rfl, travel_with ..⟩
  | stepping => exact .inr ⟨dt, rfl, travel_with ..⟩

theorem advance_of_resting (h : c.motion = .resting) (dt : Nat) :
    c.advance dt = { c with isBlocked := false } := by
  unfold advance
  simp only [h]

theorem enabled_advance (dt : Nat) (c : SimulatedChannel) :
    (c.advance dt).enabled = c.enabled := by
  rcases c.advance_cases dt with ⟨motion, -, hadvance⟩ | ⟨time, -, hadvance⟩ <;> rw [hadvance]
  rfl

/-! ## It stays that motor -/

theorem HasOneStop.congr (h : c.HasOneStop direction) (hmechanics : c'.mechanics = c.mechanics)
    (hfault : c'.fault = c.fault) (heffort : c'.effortOverride = c.effortOverride)
    (hmechanical : c'.mechanical = c.mechanical)
    (hblocked : c'.isBlocked = true → c.isBlocked = true) : c'.HasOneStop direction := by
  refine ⟨hmechanics ▸ h.stop, hmechanics ▸ h.free, hfault ▸ h.healthy, heffort ▸ h.genuine, ?_⟩
  intro hpressed stop hstop
  rw [hmechanical]
  exact h.pressed (hblocked hpressed) stop (hmechanics ▸ hstop)

theorem HasOneStop.travel (h : c.HasOneStop direction) (dt : Nat) :
    (c.travel dt).HasOneStop direction := by
  refine ⟨h.stop, h.free, h.healthy, h.genuine, ?_⟩
  intro hpressed stop hstop
  have hstop : c.mechanics.hardStop? direction = some stop := hstop
  have hpressed : (clampToStops c.mechanics (c.mechanical + c.delta dt)).2 = true := hpressed
  show (clampToStops c.mechanics (c.mechanical + c.delta dt)).1 = .ofInt stop
  rw [clampToStops_eq hstop h.free] at hpressed ⊢
  split at hpressed
  · rename_i hpast
    rw [if_pos hpast]
  · cases hpressed

theorem HasOneStop.advance (h : c.HasOneStop direction) (dt : Nat) :
    (c.advance dt).HasOneStop direction := by
  rcases c.advance_cases dt with ⟨motion, -, hadvance⟩ | ⟨time, -, hadvance⟩ <;> rw [hadvance]
  · exact h.congr rfl rfl rfl rfl (fun hpressed => by cases hpressed)
  · exact h.travel time

theorem mechanics_advance (dt : Nat) (c : SimulatedChannel) :
    (c.advance dt).mechanics = c.mechanics := by
  rcases c.advance_cases dt with ⟨motion, -, hadvance⟩ | ⟨time, -, hadvance⟩ <;> rw [hadvance]
  rfl

/-- A motor with one hard stop, and what it is later. -/
structure Stands (direction : Direction) (c c' : SimulatedChannel) : Prop where
  mechanics : c'.mechanics = c.mechanics
  oneStop : c'.HasOneStop direction

theorem Stands.advance (h : c.Stands direction c') (dt : Nat) :
    c.Stands direction (c'.advance dt) :=
  ⟨(mechanics_advance dt c').trans h.mechanics, h.oneStop.advance dt⟩

/-- **A motor stays that motor**, whatever is commanded. -/
theorem withstands_stands (direction : Direction) : Withstands (Stands direction) where
  moveIncrements increments velocity accel c c' h := by
    show Stands direction c (c'.moveIncrements increments velocity accel)
    unfold moveIncrements
    dsimp only
    split <;> exact ⟨h.mechanics, h.oneStop.congr rfl rfl rfl rfl id⟩
  stopAbrupt c c' h :=
    ⟨h.mechanics, h.oneStop.congr rfl rfl rfl rfl fun hpressed => by cases hpressed⟩
  stopDecelerated c c' h := by
    show Stands direction c c'.stopDecelerated
    unfold stopDecelerated
    split <;> exact ⟨h.mechanics, h.oneStop.congr rfl rfl rfl rfl id⟩
  setZero c c' h := ⟨h.mechanics, h.oneStop.congr rfl rfl rfl rfl id⟩
  setEnabled enabled c c' h := by
    cases enabled with
    | true => exact ⟨h.mechanics, h.oneStop.congr rfl rfl rfl rfl id⟩
    | false =>
      exact ⟨h.mechanics, h.oneStop.congr rfl rfl rfl rfl fun hpressed => by cases hpressed⟩
  setTorqueLimit percent c c' h := ⟨h.mechanics, h.oneStop.congr rfl rfl rfl rfl id⟩

/-! ## Contact -/

/-- **A motor that is at its reference presses against its stop**: nothing else is beyond the
limit. -/
theorem isBlocked_of_atReference {limit : Single} (h : AtReference .torque limit c)
    (hlimit : isTorqueLimit limit = true) (hgenuine : c.effortOverride = none)
    (hbase : c.mechanics.baseEffort.abs ≤ limit) : c.isBlocked = true := by
  obtain ⟨-, effort, hvalid, hover⟩ := h
  have hload : effort = c.load := by
    have hreading : c.effort? = some effort := (Option.filter_eq_some_iff.1 hvalid).1
    unfold effort? at hreading
    rw [hgenuine] at hreading
    split at hreading
    · cases hreading
    · exact (Option.some.inj hreading).symm
  have hnothing : ¬ limit < (0 : Single).abs := by
    rw [isTorqueLimit, Bool.and_eq_true] at hlimit
    exact Single.not_lt_abs_zero hlimit.1
  rw [hload] at hover
  unfold load at hover
  split at hover
  · exact absurd hover hnothing
  split at hover
  · assumption
  split at hover
  · exact absurd hover (Single.not_lt_of_le hbase)
  · exact absurd hover hnothing

end SimulatedChannel

/-! ## Searches -/

namespace Axis

/-- **A search leaves every motor that it has hit at rest at its stop.** -/
theorem atStop_of_walk {axis : Axis SimulatedChannel} {session : HomingSession}
    {channels : List SimulatedChannel} {hits : List Bool} {failure : Option HomingFailure}
    {direction : Direction} (hfits : session.Fits axis)
    (hmode : axis.settings.homing.mode = .torque)
    (hmotors : ∀ c ∈ axis.channels,
      c.HasOneStop direction ∧ c.mechanics.baseEffort.abs ≤ session.torque)
    (hwalk : searchChannels session.settings.mode axis.sampleEffort.torqueLimit
      axis.sampleEffort.channels axis.sampleEffort.monitor.samples session.hits =
        (channels, hits, failure))
    (hbefore : ∀ (i : Nat) c, axis.channels[i]? = some c → session.hits[i]? = some true →
      c.AtStop direction) :
    ∀ (i : Nat) c', channels[i]? = some c' → hits[i]? = some true → c'.AtStop direction := by
  intro i c' hc' hhit
  obtain ⟨c, hc, hwalked⟩ : ∃ c, axis.channels[i]? = some c ∧ IsWalked c c' := by
    obtain ⟨hi, rfl⟩ := List.getElem?_eq_some_iff.1 hc'
    have hall : List.Forall₂ IsWalked axis.channels channels := walked_of_walk hwalk
    have hbound : i < axis.channels.length := hall.length_eq ▸ hi
    exact ⟨_, List.getElem?_eq_getElem hbound, hall.get hbound hi⟩
  by_cases hold : session.hits[i]? = some true
  · -- a motor that had been hit before
    have hstop := hbefore i c hc hold
    rcases hwalked with rfl | rfl
    · exact hstop
    · exact hstop.stopAbrupt
  · -- a motor that is hit now, and stopped
    have hstopped : c' = c.stopAbrupt := stopped_of_walk hwalk hc hc' hhit hold
    rcases hit_of_walk hfits hwalk hhit with hhit | ⟨c₁, hc₁, hreference⟩
    · exact absurd hhit hold
    · rw [hc, Option.some.injEq] at hc₁
      subst hc₁
      rw [hmode] at hreference
      obtain ⟨hone, hbase⟩ := hmotors c (List.mem_of_getElem? hc)
      have hpressed :=
        SimulatedChannel.isBlocked_of_atReference hreference hfits.torque hone.genuine hbase
      subst hstopped
      exact ⟨rfl, hone.pressed hpressed⟩

end Axis

end MotionControl
