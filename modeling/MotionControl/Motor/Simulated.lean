import MotionControl.Motor.Channel

/-!
# Simulated channels

A simulated channel counts the steps it emits, and a mechanical position follows the counter but
cannot pass a hard stop. Steps emitted against a stop are lost, and the effort then reads the
stall value.

* `SimulatedChannel.advance` lets time pass.
-/

namespace MotionControl

/-- The mechanics of a channel, in increments from where it was switched on. -/
structure Mechanics where
  /-- The lower hard stop. -/
  hardStopMin : Option Int := none
  /-- The upper hard stop. -/
  hardStopMax : Option Int := none
  /-- The endstop is asserted at or below this position. -/
  endstopMin : Option Int := none
  /-- The endstop is asserted at or above this position. -/
  endstopMax : Option Int := none
  /-- The effort while stepping freely. -/
  baseEffort : Single := 10
  /-- The effort while pushing against a hard stop. -/
  stallEffort : Single := 95
  /-- The time between a move command and the first step, in milliseconds. -/
  startDelay : UInt32 := 0
deriving DecidableEq, Repr, Inhabited

/-- What a simulated channel is doing. -/
inductive Motion where
  | resting
  /-- A move starts after this many milliseconds. -/
  | waiting (delay : Nat)
  | stepping
deriving DecidableEq, Repr, Inhabited

/-- A channel with simulated mechanics. -/
structure SimulatedChannel where
  mechanics : Mechanics
  /-- The counter of emitted steps. -/
  steps : Single
  /-- The mechanical position. -/
  mechanical : Single
  /-- The step counter at the logical zero. -/
  zero : Int := 0
  /-- The step counter at which the current move ends. -/
  target : Single
  /-- The speed of the current move. -/
  velocity : Single := 0
  /-- The acceleration of the current move. -/
  accel : Single := 0
  motion : Motion := .resting
  /-- Whether the channel pressed against a hard stop in the last advance. -/
  isBlocked : Bool := false
  enabled : Bool := true
  /-- The fault bit of the driver. -/
  fault : Bool := false
  /-- A reading to report in place of the simulated effort. -/
  effortOverride : Option Single := none
  /-- Whether the driver has no valid effort reading. -/
  effortInvalid : Bool := false
  /-- The torque limit last set. -/
  torqueLimit : Single := 100
deriving DecidableEq, Repr

namespace SimulatedChannel

/-- A channel that rests at a mechanical position. -/
def ofPosition (mechanics : Mechanics) (position : Int) : SimulatedChannel where
  mechanics
  steps := .ofInt position
  mechanical := .ofInt position
  target := .ofInt position

/-- The mechanical position as a whole number of increments. -/
def mechanicalPosition (channel : SimulatedChannel) : Int := channel.mechanical.toCounter

/-- The position from the logical zero, which wraps like a counter. -/
def position (channel : SimulatedChannel) : Int := wrap (channel.steps.toCounter - channel.zero)

/-! ## Motion -/

/-- Holds a position to a lower hard stop, and tells whether the stop was in the way. -/
def raiseToStop (stop : Option Int) (position : Single) : Single × Bool :=
  match stop with
  | none => (position, false)
  | some stop =>
    if position < Single.ofInt stop then (Single.ofInt stop, true) else (position, false)

/-- Holds a position to an upper hard stop, and tells whether the stop was in the way. -/
def lowerToStop (stop : Option Int) (position : Single) : Single × Bool :=
  match stop with
  | none => (position, false)
  | some stop =>
    if Single.ofInt stop < position then (Single.ofInt stop, true) else (position, false)

/-- Holds a position to the lower and then to the upper hard stop, and tells whether one was in
the way. -/
def clampToStops (mechanics : Mechanics) (position : Single) : Single × Bool :=
  let (raised, atMin) := raiseToStop mechanics.hardStopMin position
  let (held, atMax) := lowerToStop mechanics.hardStopMax raised
  (held, atMin || atMax)

/-- Emits the steps of `dt` milliseconds. -/
def travel (dt : Nat) (channel : SimulatedChannel) : SimulatedChannel :=
  let remaining := channel.target - channel.steps
  let distance := channel.velocity * .ofNat dt / 1000
  let arrives := remaining.abs.le distance
  let delta := if arrives then remaining else distance.withSignOf remaining
  let (mechanical, blocked) := clampToStops channel.mechanics (channel.mechanical + delta)
  { channel with
    mechanical
    isBlocked := blocked
    steps := if arrives then channel.target else channel.steps + delta
    motion := if arrives then .resting else .stepping }

/-- Lets `dt` milliseconds pass. -/
def advance (dt : Nat) (channel : SimulatedChannel) : SimulatedChannel :=
  let channel := { channel with isBlocked := false }
  match channel.motion with
  | .resting => channel
  | .waiting delay =>
    if dt < delay then { channel with motion := .waiting (delay - dt) }
    else channel.travel (dt - delay)
  | .stepping => channel.travel dt

/-! ## Commands -/

/-- Starts a move, after the start delay if there is one. A channel that is released or faulty
does not move. -/
def moveIncrements (increments : Int) (velocity accel : Single) (channel : SimulatedChannel) :
    SimulatedChannel :=
  let channel := { channel with velocity := velocity.abs, accel := accel.abs }
  if increments = 0 ∨ !channel.enabled ∨ channel.fault then
    { channel with target := channel.steps, motion := .resting }
  else
    { channel with
      target := channel.steps + .ofInt increments
      motion :=
        if channel.mechanics.startDelay = 0 then .stepping
        else .waiting channel.mechanics.startDelay.toNat }

/-- Stops at once. -/
def stopAbrupt (channel : SimulatedChannel) : SimulatedChannel :=
  { channel with target := channel.steps, motion := .resting, isBlocked := false }

/-- The distance that a constant deceleration needs, `v² / 2a`. -/
def brakingDistance (velocity accel : Single) : Single :=
  if 0 < accel then velocity * velocity / (2 * accel) else 0

/-- Shortens the move to the braking distance, if it is longer. A move that has not started yet is
dropped. -/
def stopDecelerated (channel : SimulatedChannel) : SimulatedChannel :=
  match channel.motion with
  | .resting => channel
  | .waiting _ => { channel with target := channel.steps, motion := .resting }
  | .stepping =>
    let remaining := channel.target - channel.steps
    let braking := brakingDistance channel.velocity channel.accel
    let target :=
      if braking < remaining.abs then channel.steps + braking.round.withSignOf remaining
      else channel.target
    { channel with
      target
      motion := if target.eqValue channel.steps then .resting else .stepping }

/-- Makes the current position the logical zero. -/
def setZero (channel : SimulatedChannel) : SimulatedChannel :=
  { channel with zero := channel.steps.toCounter }

@[simp] theorem position_setZero (channel : SimulatedChannel) : channel.setZero.position = 0 := by
  show wrap (channel.steps.toCounter - channel.steps.toCounter) = 0
  rw [Int.sub_self]
  rfl

/-- Energizes or releases the motor; a released motor stops. -/
def setEnabled (enabled : Bool) (channel : SimulatedChannel) : SimulatedChannel :=
  let channel := { channel with enabled }
  if enabled then channel else channel.stopAbrupt

/-! ## Feedback -/

/-- The simulated effort. -/
def load (channel : SimulatedChannel) : Single :=
  if !channel.enabled then 0
  else if channel.isBlocked then channel.mechanics.stallEffort
  else if channel.motion = .stepping then channel.mechanics.baseEffort
  else 0

/-- The effort reading, if there is a valid one. -/
def effort? (channel : SimulatedChannel) : Option Single :=
  if channel.effortInvalid then none else some (channel.effortOverride.getD channel.load)

/-- Whether an endstop is asserted, if one is wired. -/
def endstop? (channel : SimulatedChannel) : Option Bool :=
  if channel.mechanics.endstopMin.isNone && channel.mechanics.endstopMax.isNone then none
  else
    let position := channel.mechanicalPosition
    some (channel.mechanics.endstopMin.any (position ≤ ·) ||
      channel.mechanics.endstopMax.any (· ≤ position))

instance : MotorChannel SimulatedChannel where
  moveIncrements := moveIncrements
  stopAbrupt := stopAbrupt
  stopDecelerated := stopDecelerated
  setZero := setZero
  position := position
  isStepping channel := channel.motion == .stepping
  hasFault := fault
  effort? := effort?
  endstop? := endstop?
  setEnabled := setEnabled
  isEnabled := enabled
  setTorqueLimit percent channel := { channel with torqueLimit := percent }

theorem isStepping_of_waiting {channel : SimulatedChannel} {delay : Nat}
    (h : channel.motion = .waiting delay) : MotorChannel.isStepping channel = false :=
  beq_eq_false_iff_ne.2 (by rw [h]; nofun)

end SimulatedChannel

end MotionControl
