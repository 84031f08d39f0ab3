import MotionControl.Settings.Basic

/-!
# Settings a machine can run with

`MachineSettings.fault?` is the first problem of some settings, if they have one, and
`MachineSettings.validate` accepts the settings without one.
-/

namespace MotionControl

/-- What is wrong with settings, or with their stored form. -/
inductive SettingsError where
  | noAxes
  | tooManyAxes
  | duplicateAxis
  | emptyName
  | invalidChannelCount
  | invalidStepsPerUnit
  | invalidTravelLimits
  | invalidTorqueAlpha
  | invalidHoming
  | invalidTiming
  | unknownDispenseAxis
  | invalidStepsPerVolume
  | versionMismatch
  | serialize
  | deserialize
deriving DecidableEq, Repr

namespace SettingsError

def all : List SettingsError :=
  [noAxes, tooManyAxes, duplicateAxis, emptyName, invalidChannelCount, invalidStepsPerUnit,
    invalidTravelLimits, invalidTorqueAlpha, invalidHoming, invalidTiming, unknownDispenseAxis,
    invalidStepsPerVolume, versionMismatch, serialize, deserialize]

def message : SettingsError → String
  | noAxes => "no axes configured"
  | tooManyAxes => "too many axes"
  | duplicateAxis => "duplicate axis name"
  | emptyName => "empty axis name"
  | invalidChannelCount => "invalid channel count"
  | invalidStepsPerUnit => "invalid steps per unit"
  | invalidTravelLimits => "invalid travel limits"
  | invalidTorqueAlpha => "invalid torque smoothing factor"
  | invalidHoming => "invalid homing parameters"
  | invalidTiming => "invalid timing"
  | unknownDispenseAxis => "unknown dispense axis"
  | invalidStepsPerVolume => "invalid steps per volume"
  | versionMismatch => "config version mismatch"
  | serialize => "serialize failed"
  | deserialize => "deserialize failed"

end SettingsError

namespace HomingSettings

/-- Every speed and the acceleration are above zero. -/
def speedsUsable (homing : HomingSettings) : Bool :=
  homing.rapidSpeed.isPositive && homing.backoffSpeed.isPositive && homing.slowSpeed.isPositive &&
    homing.accel.isPositive

/-- Every distance is above zero, and the second search goes farther than the retreat. -/
def distancesUsable (homing : HomingSettings) : Bool :=
  homing.backoffDistance.isPositive && homing.offsetDistance.isPositive &&
    homing.slowSearchDistance.isPositive && homing.backoffDistance < homing.slowSearchDistance

end HomingSettings

namespace AxisSettings

/-- Both limits are finite and the lower one is below the upper one. -/
def travelUsable (axis : AxisSettings) : Bool :=
  axis.travelMin.isFinite && axis.travelMax.isFinite && axis.travelMin < axis.travelMax

/-- The first problem of one axis, its name apart. -/
def fault? (axis : AxisSettings) : Option SettingsError :=
  if axis.channels = 0 ∨ maxChannels < axis.channels.toNat then some .invalidChannelCount
  else if !axis.stepsPerUnit.isPositive then some .invalidStepsPerUnit
  else if !axis.travelUsable then some .invalidTravelLimits
  else if !(axis.torqueAlpha.isPositive && axis.torqueAlpha ≤ 1) then some .invalidTorqueAlpha
  else if axis.startTimeout = 0 then some .invalidTiming
  else if !(axis.homing.speedsUsable && axis.homing.distancesUsable) then some .invalidHoming
  else if axis.homing.startTimeout = 0 ∨ axis.homing.timeout = 0 then some .invalidTiming
  else none

/-- The first problem of a list of axes that follow axes with the `earlier` names. -/
def listFault? (earlier : List Label) : List AxisSettings → Option SettingsError
  | [] => none
  | axis :: rest =>
    if axis.name.isEmpty then some .emptyName
    else if axis.name ∈ earlier then some .duplicateAxis
    else
      match axis.fault? with
      | some error => some error
      | none => listFault? (axis.name :: earlier) rest

end AxisSettings

namespace MachineSettings

/-- The first problem of the dispense. -/
def dispenseFault? (settings : MachineSettings) : Option SettingsError :=
  match settings.dispense with
  | none => none
  | some dispense =>
    if (settings.axisIndex? dispense.axis.text).isNone then some .unknownDispenseAxis
    else if !dispense.stepsPerVolume.isPositive then some .invalidStepsPerVolume
    else none

/-- The first problem of the settings. -/
def fault? (settings : MachineSettings) : Option SettingsError :=
  if settings.axes.isEmpty then some .noAxes
  else if settings.telemetryInterval = 0 then some .invalidTiming
  else
    match AxisSettings.listFault? [] settings.axes with
    | some error => some error
    | none => settings.dispenseFault?

/-- Accepts settings without a problem. -/
def validate (settings : MachineSettings) : Except SettingsError Unit :=
  match settings.fault? with
  | some error => .error error
  | none => .ok ()

end MachineSettings

end MotionControl
