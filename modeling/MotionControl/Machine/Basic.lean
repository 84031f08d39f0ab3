import MotionControl.Dispense.Manager

/-!
# Machines

A `Machine` has a few axes and may have a dispense on one of them. `Machine.ofSettings` builds one
from valid settings; the channels come from a function that may have effects, called once per
channel, axis by axis and in the order of the channels.
-/

namespace MotionControl

/-- What a tick reports. -/
inductive MachineEvent where
  /-- An operation of an axis ended. -/
  | axis (index : Nat) (event : AxisEvent)
  /-- A dispense operation ended. -/
  | dispense (event : DispenseEvent)
deriving DecidableEq, Repr

namespace MachineEvent

/-- Whether an event tells of a failure. -/
def isFault : MachineEvent → Bool
  | axis _ event => event.isFault
  | dispense event => event.outcome.isFault

end MachineEvent

/-- The dispense of a machine and the axis that it has. -/
structure DispenseStation where
  axisIndex : Nat
  dispenser : Dispenser
deriving DecidableEq

/-- A machine with channels of type `C`. -/
structure Machine (C : Type) where
  axes : List (Axis C)
  dispense : Option DispenseStation
  /-- The interval between status reports, in milliseconds. -/
  telemetryInterval : Nat
  /-- When status was last reported. -/
  lastTelemetry : Option Nat := none
  /-- Whether a status report was asked for. -/
  statusRequested : Bool := false

namespace Machine

variable {C : Type}

section Building

variable {m : Type → Type} [Monad m]

/-- Builds the axis with some settings. -/
def buildAxis (makeChannel : AxisSettings → Nat → m C) (settings : AxisSettings) :
    ExceptT SettingsError m (Axis C) := do
  let channels ← (List.range settings.channels.toNat).mapM fun index =>
    ExceptT.lift (makeChannel settings index)
  ExceptT.mk (pure (Axis.ofChannels settings channels))

/-- The dispense that the settings ask for, on the axis that they name. -/
def stationOf (settings : MachineSettings) : Except SettingsError (Option DispenseStation) :=
  match settings.dispense with
  | none => .ok none
  | some dispense =>
    match settings.axisIndex? dispense.axis.text with
    | none => .error .unknownDispenseAxis
    | some axisIndex => .ok (some { axisIndex, dispenser := { settings := dispense } })

/-- Builds the machine with some settings. Settings with a problem are refused before a channel is
made. -/
def ofSettings (makeChannel : AxisSettings → Nat → m C) (settings : MachineSettings) :
    ExceptT SettingsError m (Machine C) := do
  ExceptT.mk (pure settings.validate)
  let axes ← settings.axes.mapM (buildAxis makeChannel)
  let dispense ← ExceptT.mk (pure (stationOf settings))
  return { axes, dispense, telemetryInterval := settings.telemetryInterval.toNat }

end Building

/-! ## Views -/

/-- The place of the axis with a name, and the axis. -/
def findAxis? (machine : Machine C) (name : String) : Option (Nat × Axis C) :=
  (machine.axes.findIdx? (·.settings.name.text == name)).bind fun index =>
    machine.axes[index]?.map (index, ·)

/-- Whether an operation of the dispense is going on, on the axis at a place. -/
def isDispensingOn (machine : Machine C) (index : Nat) : Bool :=
  machine.dispense.any fun station =>
    station.axisIndex == index && station.dispenser.isOngoing

/-- Whether nothing is in motion; a paused dispense is at rest. -/
def isQuiescent (machine : Machine C) : Bool :=
  machine.axes.all (!·.state.isBusy) && machine.dispense.all (·.dispenser.phase.isQuiescent)

/-- The report of an event. -/
def report (machine : Machine C) : MachineEvent → Report
  | .axis index event =>
    event.report ((machine.axes[index]?).elim "?" (·.settings.name.text))
  | .dispense event => event.report

/-- The status lines: one per axis, then one of the dispense. -/
def statusLines [MotorChannel C] (machine : Machine C) : List String :=
  machine.axes.map (·.status.line) ++
    machine.dispense.toList.map (·.dispenser.status.line)

/-! ## Changes -/

/-- Changes the axis at a place. -/
def modifyAxis (index : Nat) (f : Axis C → Axis C) (machine : Machine C) : Machine C :=
  { machine with axes := machine.axes.modify index f }

/-- Changes every channel of every axis. -/
def mapChannels (f : C → C) (machine : Machine C) : Machine C :=
  { machine with axes := machine.axes.map (·.mapChannels f) }

end Machine

end MotionControl
