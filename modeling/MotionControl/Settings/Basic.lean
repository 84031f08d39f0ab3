import MotionControl.Numeric.Numeral
import MotionControl.Text.Label

/-!
# Settings of a machine

The parameters of a machine, its axes, their homing sequences and the dispense. Distances are in
axis units, speeds in units per second, accelerations in units per second squared and times in
milliseconds. Each field has a default.
-/

namespace MotionControl

/-- The most axes of a machine. -/
def maxAxes : Nat := 4

/-- The most motor channels of an axis. -/
def maxChannels : Nat := 4

/-- The version of the settings format. -/
def settingsVersion : UInt8 := 1

/-- How a homing search detects the reference. -/
inductive HomingMode where
  /-- The axis drives into a hard stop until the torque limit trips. -/
  | torque
  /-- The axis drives until the endstop of each channel asserts. -/
  | sensor
deriving DecidableEq, Repr, Inhabited

/-- A direction of travel. -/
inductive Direction where
  | negative
  | positive
deriving DecidableEq, Repr, Inhabited

/-- The factor that turns a distance into a displacement. -/
def Direction.sign : Direction → Single
  | negative => -1
  | positive => 1

/-- What a cancelled dispense reports. -/
inductive CancelAccounting where
  /-- It reports no volume. -/
  | reportZero
  /-- It reports the volume that was dispensed. -/
  | reportDispensed
deriving DecidableEq, Repr, Inhabited

/-- The parameters of a homing sequence. -/
structure HomingSettings where
  mode : HomingMode := .torque
  /-- The direction of the reference. -/
  direction : Direction := .negative
  /-- The speed of the first, long search. -/
  rapidSpeed : Single := 20
  /-- The speed of the moves away from the reference. -/
  backoffSpeed : Single := 10
  /-- The speed of the second search. -/
  slowSpeed : Single := 2
  accel : Single := 200
  /-- How far the axis retreats after the first search. -/
  backoffDistance : Single := 5
  /-- How far the second search goes at most; more than the retreat, or it would end short. -/
  slowSearchDistance : Single := 10
  /-- How far the zero position is from the reference. -/
  offsetDistance : Single := 5
  /-- How long a move of the sequence may take to start. -/
  startTimeout : UInt32 := 500
  /-- How long the whole sequence may take. -/
  timeout : UInt32 := 60000
  /-- How long the drives are released after zeroing; 0 skips the release. -/
  destress : UInt32 := 0
deriving DecidableEq, Repr, Inhabited

/-- The parameters of an axis. -/
structure AxisSettings where
  /-- The name of the axis in commands. -/
  name : Label := .empty
  /-- How many motor channels drive the axis. -/
  channels : UInt8 := 1
  /-- Motor increments per axis unit. -/
  stepsPerUnit : Single := 200
  travelMin : Single := 0
  travelMax : Single := 400
  /-- How long a move may take to start. -/
  startTimeout : UInt32 := 500
  /-- The weight of a new reading in the smoothed effort, above 0 and at most 1. -/
  torqueAlpha : Single := 0.2
  homing : HomingSettings := {}
deriving DecidableEq, Inhabited

/-- Whether a position in axis units lies within the travel limits. -/
def AxisSettings.withinTravel (axis : AxisSettings) (position : Single) : Bool :=
  axis.travelMin ≤ position && position ≤ axis.travelMax

/-- The parameters of the dispense. -/
structure DispenseSettings where
  /-- The name of the axis that drives the plunger. -/
  axis : Label := .empty
  /-- Motor increments per unit of volume. -/
  stepsPerVolume : Single := 800
  /-- The plunger direction that dispenses. -/
  injectDirection : Direction := .positive
  cancelAccounting : CancelAccounting := .reportZero
deriving DecidableEq, Inhabited

/-- The parameters of a machine. -/
structure MachineSettings where
  version : UInt8 := settingsVersion
  axes : List AxisSettings := []
  /-- The dispense, if the machine has one. -/
  dispense : Option DispenseSettings := none
  /-- The interval between status reports. -/
  telemetryInterval : UInt32 := 250
  axes_length_le : axes.length ≤ maxAxes := by decide
deriving DecidableEq

namespace MachineSettings

instance : Inhabited MachineSettings := ⟨{}⟩

/-- The place of the axis with a name. -/
def axisIndex? (settings : MachineSettings) (name : String) : Option Nat :=
  settings.axes.findIdx? (·.name.text == name)

end MachineSettings

end MotionControl
