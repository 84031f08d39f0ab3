import MotionControl.Axis.Update
import MotionControl.Dispense.Operation

/-!
# Running a dispense

A `Dispenser` takes an axis through an operation:

idle, starting, active (the axis moves), pausing (it decelerates), paused, resuming, active again,
and idle once the operation has ended.

The axis is passed in with every call. An operation can be cancelled in every phase.

* `Dispenser.tryStart`, `Dispenser.tryPause`, `Dispenser.tryResume`, `Dispenser.tryCancel`: the
  commands, each on the dispense together with its axis.
* `Dispenser.update`: one update, right after an update of the axis.
-/

namespace MotionControl

/-- Where a dispense stands. -/
inductive DispensePhase where
  | idle
  /-- The move is commanded and has not started. -/
  | starting
  /-- The axis is moving. -/
  | active
  /-- A stop is requested and the axis has not settled. -/
  | pausing
  /-- The axis rests, and the remaining increments are kept. -/
  | paused
  /-- The move for the rest is commanded and has not started. -/
  | resuming
deriving DecidableEq, Repr, Inhabited

namespace DispensePhase

def all : List DispensePhase := [idle, starting, active, pausing, paused, resuming]

def name : DispensePhase → String
  | idle => "Idle"
  | starting => "Starting"
  | active => "Active"
  | pausing => "Pausing"
  | paused => "Paused"
  | resuming => "Resuming"

/-- Whether an operation is going on. -/
def isOngoing : DispensePhase → Bool
  | idle => false
  | starting | active | pausing | paused | resuming => true

/-- Whether the dispense leaves the axis at rest. -/
def isQuiescent : DispensePhase → Bool
  | idle | paused => true
  | starting | active | pausing | resuming => false

end DispensePhase

/-- The dispense of one axis. -/
structure Dispenser where
  settings : DispenseSettings
  phase : DispensePhase := .idle
  /-- The operation that is going on. -/
  operation? : Option DispenseOperation := none
  /-- The volume of the last operation that did not fail. -/
  lastCompleted : Single := 0
  /-- How the last operation ended. -/
  lastOutcome : Option DispenseOutcome := none
  /-- What is kept of the last operation, if it failed. -/
  lastFault : Option DispenseFault := none
  /-- The event of an operation that a command ended, to report on the next update. -/
  pending : Option DispenseEvent := none
deriving DecidableEq

namespace Dispenser

/-- Whether an operation is going on. -/
def isOngoing (dispenser : Dispenser) : Bool := dispenser.phase.isOngoing

/-- The volume that the ongoing operation has dispensed. -/
def dispensedVolume (dispenser : Dispenser) : Single :=
  dispenser.operation?.elim 0 DispenseOperation.dispensedVolume

/-- The snapshot for a status line. -/
def status (dispenser : Dispenser) : DispenseStatus where
  phase := dispenser.phase.name
  kind := dispenser.operation?.map (·.kind.token)
  dispensed := dispenser.dispensedVolume
  target := dispenser.operation?.elim 0 (·.targetVolume)
  remaining := dispenser.operation?.elim 0 (·.remaining)
  lastCompleted := dispenser.lastCompleted
  lastOutcome := dispenser.lastOutcome.map (·.token)
  faulted := dispenser.lastFault.map (·.volume)

/-- Changes the volume factor, which an ongoing operation does not allow. -/
def trySetStepsPerVolume (factor : Single) : Attempt Dispenser Unit := do
  Attempt.require (!(← get).isOngoing) .busy
  Attempt.require factor.isPositive .invalidStepsPerVolume
  modify fun dispenser =>
    { dispenser with settings := { dispenser.settings with stepsPerVolume := factor } }

/-! ## The end of an operation -/

/-- Counts the segment that ends at a position. -/
def fold (position : Int) (dispenser : Dispenser) : Dispenser :=
  { dispenser with operation? := dispenser.operation?.map (·.foldSegment position) }

/-- The volume that the operation reports when it ends. -/
def reportedVolume (dispenser : Dispenser) : DispenseOutcome → Single
  | .completed | .faulted _ => dispenser.dispensedVolume
  | .cancelled =>
    match dispenser.settings.cancelAccounting with
    | .reportZero => 0
    | .reportDispensed => dispenser.dispensedVolume

/-- The event of the operation when it ends; without one it is of the first kind. -/
def endEvent (outcome : DispenseOutcome) (dispenser : Dispenser) : DispenseEvent where
  kind := dispenser.operation?.elim .inject (·.kind)
  outcome
  volume := dispenser.reportedVolume outcome

/-- Enters the end of the operation into the books, with the event to report. -/
def finalize (outcome : DispenseOutcome) (dispenser : Dispenser) : Dispenser × DispenseEvent :=
  let event := dispenser.endEvent outcome
  let closed :=
    { dispenser with operation? := none, phase := .idle, lastOutcome := some outcome }
  (match outcome with
    | .faulted fault =>
      { closed with lastFault := dispenser.operation?.map (·.faultRecord fault) }
    | .completed | .cancelled => { closed with lastCompleted := event.volume },
    event)

/-- Ends the operation and reports it now. -/
def finalizeNow (outcome : DispenseOutcome) (dispenser : Dispenser) :
    Dispenser × Option DispenseEvent :=
  let (closed, event) := dispenser.finalize outcome
  (closed, some event)

/-- Ends the operation and reports it on the next update. -/
def finalizeLater (outcome : DispenseOutcome) (dispenser : Dispenser) : Dispenser :=
  let (closed, event) := dispenser.finalize outcome
  { closed with pending := some event }

/-! ## Commands on the dispense and its axis -/

variable {C : Type} [MotorChannel C]

/-- A command on the axis of a dispense. -/
def onAxis (attempt : Attempt (Axis C) Unit) : Attempt (Dispenser × Axis C) Unit :=
  attempt.onPart Prod.snd fun axis (dispenser, _) => (dispenser, axis)

/-- A change of the dispense alone. -/
def change (f : Dispenser → Dispenser) : Attempt (Dispenser × Axis C) Unit :=
  modify fun (dispenser, axis) => (f dispenser, axis)

/-- The operation that a request asks for, from a position on. -/
def operationOf (request : DispenseRequest) (position : Int) (settings : DispenseSettings) :
    DispenseOperation where
  kind := request.kind
  targetVolume := request.volume
  stepsPerVolume := settings.stepsPerVolume
  direction := settings.injectDirection.sign
  total := (request.volume * settings.stepsPerVolume).toCounter
  startPosition := position
  velocity := request.speed * settings.stepsPerVolume
  accel := request.accel * settings.stepsPerVolume
  torque := request.torque

/-- Starts an operation. -/
def tryStart (request : DispenseRequest) (now : Nat) : Attempt (Dispenser × Axis C) Unit := do
  let (dispenser, axis) ← get
  Attempt.require (!dispenser.isOngoing) .busy
  Attempt.require
    (request.volume.isPositive && request.speed.isPositive && request.accel.isPositive)
    .invalidArgument
  Attempt.require dispenser.settings.stepsPerVolume.isPositive .invalidStepsPerVolume
  let operation := operationOf request axis.positionIncrements dispenser.settings
  onAxis (Axis.tryMoveIncrements
    (DispenseOperation.displacement operation.direction operation.total) operation.velocity
    operation.accel operation.torque now)
  change fun dispenser =>
    { dispenser with
      pending := none, lastFault := none, operation? := some operation, phase := .starting }

/-- Requests a decelerated stop of the active operation. -/
def tryPause : Attempt (Dispenser × Axis C) Unit := do
  Attempt.require ((← get).1.phase == .active) .wrongPhase
  onAxis Axis.tryStopDecelerated
  change fun dispenser => { dispenser with phase := .pausing }

/-- Goes on with a paused operation; one with nothing left is complete. -/
def tryResume (now : Nat) : Attempt (Dispenser × Axis C) Unit := do
  let (dispenser, axis) ← get
  Attempt.require (dispenser.phase == .paused) .wrongPhase
  match dispenser.operation? with
  | none => throw .wrongPhase
  | some operation =>
    if operation.remaining = 0 then change (finalizeLater .completed)
    else
      onAxis (Axis.tryMoveIncrements
        (DispenseOperation.displacement operation.direction operation.remaining)
        operation.velocity operation.accel operation.torque now)
      change fun dispenser =>
        { dispenser with
          operation? := some { operation with segmentStart := axis.positionIncrements }
          phase := .resuming }

/-- Stops the axis and ends the operation, to be reported on the next update. -/
def tryCancel : Attempt (Dispenser × Axis C) Unit := do
  Attempt.require (← get).1.isOngoing .wrongPhase
  onAxis (modify fun axis => axis.abort.discardPending)
  let (_, axis) ← get
  change fun dispenser => (dispenser.fold axis.positionIncrements).finalizeLater .cancelled

/-! ## Outcomes -/

/-- The dispense with another volume factor, or why it keeps the old one. -/
def setStepsPerVolume (factor : Single) : Dispenser → Except Refusal Dispenser :=
  (trySetStepsPerVolume factor).outcome

/-- The dispense and its axis with a new operation, or why there is none. -/
def start (request : DispenseRequest) (now : Nat) (dispenser : Dispenser) (axis : Axis C) :
    Except Refusal (Dispenser × Axis C) :=
  (tryStart request now).outcome (dispenser, axis)

/-- The dispense and its axis with a stop requested, or why there is none. -/
def pause (dispenser : Dispenser) (axis : Axis C) : Except Refusal (Dispenser × Axis C) :=
  tryPause.outcome (dispenser, axis)

/-- The dispense and its axis with the operation resumed, or why it is not. -/
def resume (now : Nat) (dispenser : Dispenser) (axis : Axis C) :
    Except Refusal (Dispenser × Axis C) :=
  (tryResume now).outcome (dispenser, axis)

/-- The dispense and its axis with the operation cancelled, or why it is not. -/
def cancel (dispenser : Dispenser) (axis : Axis C) : Except Refusal (Dispenser × Axis C) :=
  tryCancel.outcome (dispenser, axis)

/-! ## One update -/

/-- Notes the position from which the current segment is counted. -/
def beginSegment (position : Int) (dispenser : Dispenser) : Dispenser :=
  { dispenser with operation? := dispenser.operation?.map ({ · with segmentStart := position }) }

/-- Takes the ongoing operation one step further, after an update of the axis with this event. -/
def updateOperation (axis : Axis C) (event : Option AxisEvent) (dispenser : Dispenser) :
    Dispenser × Option DispenseEvent :=
  let folded := dispenser.fold axis.positionIncrements
  match dispenser.phase, event with
  | _, some (.fault fault) => folded.finalizeNow (.faulted fault)
  | _, some .aborted => folded.finalizeNow .cancelled
  | .pausing, some .stopped | .pausing, some .done => ({ folded with phase := .paused }, none)
  | .starting, some .done | .resuming, some .done | .active, some .done =>
    folded.finalizeNow .completed
  | .starting, some .stopped | .resuming, some .stopped | .active, some .stopped =>
    ({ folded with phase := .paused }, none)
  | .starting, none | .resuming, none =>
    if axis.state = .moving then
      ({ dispenser.beginSegment axis.moveOrigin with phase := .active }, none)
    else (dispenser, none)
  | _, _ => (dispenser, none)

/-- One update, after an update of the axis with this event. -/
def update (axis : Axis C) (event : Option AxisEvent) (dispenser : Dispenser) :
    Dispenser × Option DispenseEvent :=
  match dispenser.pending with
  | some done => ({ dispenser with pending := none }, some done)
  | none =>
    if dispenser.isOngoing then dispenser.updateOperation axis event else (dispenser, none)

end Dispenser

end MotionControl
