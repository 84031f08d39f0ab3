import MotionControl.Machine.Basic

/-!
# The tick of a machine

`Machine.tick` handles at most one command, updates every axis in order, updates the dispense
right after its axis, and tells whether status is due. The events of an axis with an ongoing
dispense belong to the dispense.
-/

namespace MotionControl

/-- The room for events in one tick: one for each axis and one for the dispense. -/
def maxEvents : Nat := maxAxes + 1

/-- What a tick has produced. -/
structure TickOutput where
  /-- The answer to the command. -/
  reply : Option (Except Refusal Unit)
  /-- The events, in the order of the axes. -/
  events : List MachineEvent
  /-- Whether status is to be reported. -/
  telemetryDue : Bool

/-- The answer to the command as a message. -/
def TickOutput.replyMessage (output : TickOutput) : Option Reply :=
  output.reply.map fun
    | .ok () => .accepted
    | .error refusal => .rejected refusal.token

namespace Machine

variable {C : Type} [MotorChannel C]

/-! ## Commands -/

/-- The place of the axis with a name. -/
def lookup (name : Label) : Attempt (Machine C) Nat := do
  match (← get).axes.findIdx? (·.settings.name.text == name.text) with
  | none => throw .unknownAxis
  | some index => pure index

/-- A command on the axis at a place. -/
def onAxis (index : Nat) (attempt : Attempt (Axis C) Unit) : Attempt (Machine C) Unit := do
  match (← get).axes[index]? with
  | none => throw .unknownAxis
  | some axis =>
    attempt.onPart (fun _ => axis) fun axis machine => machine.modifyAxis index fun _ => axis

/-- A command on the dispense together with its axis. -/
def onDispense (attempt : Attempt (Dispenser × Axis C) Unit) : Attempt (Machine C) Unit := do
  match (← get).dispense with
  | none => throw .noDispenseAxis
  | some station =>
    match (← get).axes[station.axisIndex]? with
    | none => throw .noDispenseAxis
    | some axis =>
      attempt.onPart (fun _ => (station.dispenser, axis)) fun (dispenser, axis) machine =>
        { machine.modifyAxis station.axisIndex (fun _ => axis) with
          dispense := some { station with dispenser } }

/-- Starts an operation of the axis with a name, which an ongoing dispense does not allow. -/
def startOnAxis (name : Label) (attempt : Attempt (Axis C) Unit) : Attempt (Machine C) Unit := do
  let index ← lookup name
  Attempt.require (!(← get).isDispensingOn index) .busy
  onAxis index attempt

/-- Aborts the axis with a name. A dispense that is going on there is cancelled instead, which
aborts the axis itself. -/
def abortAxis (name : Label) : Attempt (Machine C) Unit := do
  let index ← lookup name
  if (← get).isDispensingOn index then onDispense Dispenser.tryCancel
  else onAxis index (modify Axis.abort)

/-- Disables the axis with a name, after a dispense that is going on there is cancelled. -/
def disableAxis (name : Label) : Attempt (Machine C) Unit := do
  let index ← lookup name
  if (← get).isDispensingOn index then onDispense Dispenser.tryCancel
  onAxis index (modify Axis.disable)

/-- Carries out a command or refuses it. -/
def handle (command : Command) (now : Nat) : Attempt (Machine C) Unit :=
  match command with
  | .move name request => startOnAxis name (Axis.tryMoveTo request now)
  | .home name maxTravel torque => startOnAxis name (Axis.tryHome maxTravel torque now)
  | .abort name => abortAxis name
  | .enable name => do onAxis (← lookup name) (modify Axis.enable)
  | .disable name => disableAxis name
  | .clearFault name => do onAxis (← lookup name) Axis.tryClearFault
  | .dispense request => onDispense (Dispenser.tryStart request now)
  | .pause => onDispense Dispenser.tryPause
  | .resume => onDispense (Dispenser.tryResume now)
  | .cancel => onDispense Dispenser.tryCancel
  | .status => modify fun machine => { machine with statusRequested := true }

/-! ## Updates -/

/-- Updates the dispense after its axis at place `index`; with the events of both. -/
def updateStation (index : Nat) (axis : Axis C) (event : Option AxisEvent)
    (dispense : Option DispenseStation) : Option DispenseStation × List MachineEvent :=
  let axisEvents := event.toList.map (MachineEvent.axis index)
  match dispense with
  | none => (none, axisEvents)
  | some station =>
    if station.axisIndex = index then
      let (dispenser, ended) := station.dispenser.update axis event
      (some { station with dispenser },
        ended.toList.map MachineEvent.dispense ++
          if station.dispenser.isOngoing then [] else axisEvents)
    else (some station, axisEvents)

/-- Updates the axes from place `index` on. -/
def updateAxes (now : Nat) :
    Nat → List (Axis C) → Option DispenseStation →
      List (Axis C) × Option DispenseStation × List MachineEvent
  | _, [], dispense => ([], dispense, [])
  | index, axis :: rest, dispense =>
    let (axis, event) := axis.update now
    let (dispense, events) := updateStation index axis event dispense
    let (rest, dispense, later) := updateAxes now (index + 1) rest dispense
    (axis :: rest, dispense, events ++ later)

/-- Updates every axis and the dispense. An event for which there is no room is lost. -/
def update (now : Nat) (machine : Machine C) : Machine C × List MachineEvent :=
  let (axes, dispense, events) := updateAxes now 0 machine.axes machine.dispense
  ({ machine with axes, dispense }, events.take maxEvents)

/-- Whether status is to be reported: at first, after the interval, and on request. -/
def isTelemetryDue (now : Nat) (machine : Machine C) : Bool :=
  machine.lastTelemetry.all (machine.telemetryInterval ≤ now - ·) || machine.statusRequested

/-- Notes that status is reported. -/
def markTelemetry (now : Nat) (machine : Machine C) : Machine C :=
  { machine with lastTelemetry := some now, statusRequested := false }

/-- Carries out a command, if there is one, with the answer to it. -/
def accept (command : Option Command) (now : Nat) (machine : Machine C) :
    Machine C × Option (Except Refusal Unit) :=
  match command with
  | none => (machine, none)
  | some command =>
    match (handle command now).run machine with
    | .ok () machine => (machine, some (.ok ()))
    | .error refusal machine => (machine, some (.error refusal))

/-- One tick. -/
def tick (now : Nat) (command : Option Command) (machine : Machine C) :
    Machine C × TickOutput :=
  let (machine, reply) := machine.accept command now
  let (machine, events) := machine.update now
  let telemetryDue := machine.isTelemetryDue now
  (if telemetryDue then machine.markTelemetry now else machine,
    { reply, events, telemetryDue })

end Machine

end MotionControl
