import MotionControl.Attempt
import MotionControl.Axis.Basic
import MotionControl.Protocol.Command

/-!
# Commands of an axis

A command is refused, or starts its motion and returns; the update of the axis follows the motion.
Several problems of one command are tested in a fixed order.

* `Axis.tryMoveTo`, `Axis.tryMoveIncrements`: a move, in axis units or in increments.
* `Axis.tryHome`: a homing run.
* `Axis.tryStopDecelerated`, `Axis.tryClearFault`, and `Axis.abort`, `Axis.enable`,
  `Axis.disable`, which are never refused.
* `Axis.moveTo` and so on: the axis after the command, or why it is refused.
-/

namespace MotionControl

/-- Torque limits are percentages above 0 and at most 100. -/
def isTorqueLimit (percent : Single) : Bool := percent.isPositive && percent ≤ 100

/-- The target is finite, speed and acceleration are above zero and the torque limit is one. -/
def MoveRequest.isUsable (request : MoveRequest) : Bool :=
  request.target.isFinite && request.velocity.isPositive && request.accel.isPositive &&
    isTorqueLimit request.torque

namespace Axis

variable {C : Type} [MotorChannel C]

open MotorChannel

/-- The travel limits in increments. -/
def incrementLimits (axis : Axis C) : Int × Int :=
  let scale := axis.settings.stepsPerUnit
  ((axis.settings.travelMin * scale).toCounter, (axis.settings.travelMax * scale).toCounter)

/-- Starts a move of every channel. A move of no length is done at once. -/
def issue (increments : Int) (velocity accel torque : Single) (now : Nat) (axis : Axis C) :
    Axis C :=
  let axis := { (axis.applyTorqueLimit torque).recordOrigins with stopRequested := false }
  if increments = 0 then { axis with pending := some .done }
  else
    { axis.mapChannels (MotorChannel.moveIncrements increments velocity accel) with
      state := .startingMove now }

/-- The position in axis units that a move goes to. -/
def requestedPosition (request : MoveRequest) (axis : Axis C) : Single :=
  match request.mode with
  | .absolute => request.target
  | .incremental => axis.position + request.target

/-- The increments of a move. -/
def requestedIncrements (request : MoveRequest) (axis : Axis C) : Int :=
  let target := (request.target * axis.settings.stepsPerUnit).toCounter
  match request.mode with
  | .absolute => saturate (target - axis.positionIncrements)
  | .incremental => target

/-! ## Tests before a motion -/

/-- Refuses unless the axis is at rest and without a fault. -/
def requireReady : Attempt (Axis C) Unit := do
  match (← get).state.refusal? with
  | none => pure ()
  | some refusal => throw refusal

/-- Refuses unless every channel is energized. -/
def requireEnabled : Attempt (Axis C) Unit := do
  Attempt.require (← get).allEnabled .axisDisabled

/-- Refuses unless the position is referenced. -/
def requireHomed : Attempt (Axis C) Unit := do
  Attempt.require (← get).isHomed .notHomed

/-! ## Commands that may be refused -/

/-- Starts a move given in axis units. -/
def tryMoveTo (request : MoveRequest) (now : Nat) : Attempt (Axis C) Unit := do
  requireReady
  Attempt.require request.isUsable .invalidArgument
  requireEnabled
  requireHomed
  let axis ← get
  Attempt.require (axis.settings.withinTravel (axis.requestedPosition request)) .outOfTravel
  let scale := axis.settings.stepsPerUnit
  modify (issue (axis.requestedIncrements request) (request.velocity * scale)
    (request.accel * scale) request.torque now)

/-- Starts a relative move given in increments. -/
def tryMoveIncrements (increments : Int) (velocity accel torque : Single) (now : Nat) :
    Attempt (Axis C) Unit := do
  requireReady
  Attempt.require (velocity.isPositive && accel.isPositive && isTorqueLimit torque)
    .invalidArgument
  requireEnabled
  requireHomed
  let axis ← get
  let (low, high) := axis.incrementLimits
  let target := saturate (axis.positionIncrements + increments)
  Attempt.require (low ≤ target ∧ target ≤ high) .outOfTravel
  modify (issue increments velocity accel torque now)

/-- Starts a homing run. -/
def tryHome (maxTravel torque : Single) (now : Nat) : Attempt (Axis C) Unit := do
  requireReady
  Attempt.require (maxTravel.isPositive && isTorqueLimit torque) .invalidArgument
  requireEnabled
  modify fun axis =>
    { axis.applyTorqueLimit torque with
      pending := none
      state := .homing (.start axis.settings.homing maxTravel torque now) }

/-- Requests a decelerated stop of the current move. -/
def tryStopDecelerated : Attempt (Axis C) Unit := do
  Attempt.require (← get).state.isMoving .wrongPhase
  modify fun axis =>
    { axis.mapChannels MotorChannel.stopDecelerated with stopRequested := true }

/-- Leaves a fault, once no channel reports a fault bit. -/
def tryClearFault : Attempt (Axis C) Unit := do
  if (← get).state.isFault then
    Attempt.require (!(← get).anyFault) .faulted
    modify fun axis => { axis with state := .standby }

/-! ## Commands that are always carried out -/

/-- Energizes the channels again, if a homing run has released them. -/
def endDestress (state : AxisState) (axis : Axis C) : Axis C :=
  if state.isDestress then axis.setAllEnabled true else axis

/-- Stops every channel at once. An operation that was going on is reported as aborted on the next
update; a fault stays. -/
def abort (axis : Axis C) : Axis C :=
  let stopped := { axis.stopAll with stopRequested := false }
  if axis.state.isBusy then
    { stopped.endDestress axis.state with state := .standby, pending := some .aborted }
  else stopped

/-- Drops an event that the caller reports itself. -/
def discardPending (axis : Axis C) : Axis C := { axis with pending := none }

/-- Energizes every channel. -/
def enable (axis : Axis C) : Axis C := axis.setAllEnabled true

/-- Aborts what is going on and releases every channel. -/
def disable (axis : Axis C) : Axis C := axis.abort.setAllEnabled false

/-! ## Outcomes -/

/-- The axis with a move given in axis units, or why there is none. -/
def moveTo (request : MoveRequest) (now : Nat) : Axis C → Except Refusal (Axis C) :=
  (tryMoveTo request now).outcome

/-- The axis with a move given in increments, or why there is none. -/
def moveIncrements (increments : Int) (velocity accel torque : Single) (now : Nat) :
    Axis C → Except Refusal (Axis C) :=
  (tryMoveIncrements increments velocity accel torque now).outcome

/-- The axis with a homing run, or why there is none. -/
def home (maxTravel torque : Single) (now : Nat) : Axis C → Except Refusal (Axis C) :=
  (tryHome maxTravel torque now).outcome

/-- The axis with a stop requested, or why there is none. -/
def stopDecelerated : Axis C → Except Refusal (Axis C) := tryStopDecelerated.outcome

/-- The axis out of its fault, or why it stays there. -/
def clearFault : Axis C → Except Refusal (Axis C) := tryClearFault.outcome

end Axis

end MotionControl
