import MotionControl.Motor.Simulated
import MotionControl.Settings.Validity
import MotionControl.Toml.Parser

/-!
# Setting up a bench

A bench is described by a TOML document: the settings of a machine, and an entry for each
simulated channel whose mechanics are not the default ones. Missing keys take their defaults and
unknown keys are ignored. A structure may also be given as an array of its leading fields.

* `BenchSetup.parse` reads and checks a description.
* `BenchSetup.mechanicsOf` are the mechanics of a channel.
-/

namespace MotionControl

open Toml (Value)

/-- The mechanics of one simulated channel. -/
structure MechanicsEntry where
  axis : String
  channel : Nat
  mechanics : Mechanics

/-- A machine and the mechanics of its channels. -/
structure BenchSetup where
  settings : MachineSettings
  entries : List MechanicsEntry

/-- Why a description is refused. -/
inductive SetupError where
  /-- It is not TOML, or a value has the wrong type or is out of range. -/
  | notReadable
  /-- A machine cannot run with the settings. -/
  | settings (error : SettingsError)
  /-- An entry names a channel that no axis has. -/
  | unknownChannel (axis : String) (channel : Nat)
deriving DecidableEq, Repr

namespace SetupError

def message : SetupError → String
  | notReadable => "failed to parse configuration"
  | settings error => "configuration validation failed: " ++ error.message
  | unknownChannel axis channel =>
    "sim entry " ++ axis ++ "/" ++ Nat.repr channel ++ " does not match any axis channel"

end SetupError

/-! ## Reading values -/

/-- The fields of a structure by their names. -/
abbrev Fields := String → Option Value

/-- Reads the fields `names` off a value: a table, or an array with the leading fields in order. -/
def fieldsOf? (names : List String) : Value → Option Fields
  | .table entries => some fun name => entries.lookup name
  | .datetime _ => some fun _ => none
  | .array items =>
    if items.length ≤ names.length then some fun name => (names.zip items).lookup name else none
  | _ => none

namespace Fields

/-- Reads a field, or takes the default where it is missing. -/
def read? {α : Type} (fields : Fields) (name : String) (default : α) (read : Value → Option α) :
    Option α :=
  match fields name with
  | none => some default
  | some value => read value

end Fields

def readByte? (value : Value) : Option UInt8 := (value.natBelow? UInt8.size).map Nat.toUInt8

def readWord? (value : Value) : Option UInt32 := (value.natBelow? UInt32.size).map Nat.toUInt32

/-- Reads a position, which fits into a 32-bit counter. -/
def readPosition? (value : Value) : Option (Option Int) :=
  (value.integerWithin? counterMin counterMax).map some

def readLabel? (value : Value) : Option Label := value.string?.bind Label.ofString?

/-- Reads one of several words. A table with the word as its only key and nothing in it stands for
the word. -/
def readChoice? {α : Type} (choices : List (String × α)) : Value → Option α
  | .string word => choices.lookup word
  | .table [(word, .table [])] => choices.lookup word
  | _ => none

def readDirection? : Value → Option Direction :=
  readChoice? [("negative", .negative), ("positive", .positive)]

def readHoming? (value : Value) : Option HomingSettings := do
  let fields ← fieldsOf?
    ["mode", "direction", "rapid_speed", "backoff_speed", "slow_speed", "accel",
      "backoff_distance", "slow_search_distance", "offset_distance", "start_timeout_ms",
      "timeout_ms", "destress_ms"] value
  let usual : HomingSettings := {}
  return {
    mode := ← fields.read? "mode" usual.mode
      (readChoice? [("torque", .torque), ("sensor", .sensor)])
    direction := ← fields.read? "direction" usual.direction readDirection?
    rapidSpeed := ← fields.read? "rapid_speed" usual.rapidSpeed Value.single?
    backoffSpeed := ← fields.read? "backoff_speed" usual.backoffSpeed Value.single?
    slowSpeed := ← fields.read? "slow_speed" usual.slowSpeed Value.single?
    accel := ← fields.read? "accel" usual.accel Value.single?
    backoffDistance := ← fields.read? "backoff_distance" usual.backoffDistance Value.single?
    slowSearchDistance :=
      ← fields.read? "slow_search_distance" usual.slowSearchDistance Value.single?
    offsetDistance := ← fields.read? "offset_distance" usual.offsetDistance Value.single?
    startTimeout := ← fields.read? "start_timeout_ms" usual.startTimeout readWord?
    timeout := ← fields.read? "timeout_ms" usual.timeout readWord?
    destress := ← fields.read? "destress_ms" usual.destress readWord? }

def readAxis? (value : Value) : Option AxisSettings := do
  let fields ← fieldsOf?
    ["name", "channels", "steps_per_unit", "travel_min", "travel_max", "start_timeout_ms",
      "torque_alpha", "homing"] value
  let usual : AxisSettings := {}
  return {
    name := ← fields.read? "name" usual.name readLabel?
    channels := ← fields.read? "channels" usual.channels readByte?
    stepsPerUnit := ← fields.read? "steps_per_unit" usual.stepsPerUnit Value.single?
    travelMin := ← fields.read? "travel_min" usual.travelMin Value.single?
    travelMax := ← fields.read? "travel_max" usual.travelMax Value.single?
    startTimeout := ← fields.read? "start_timeout_ms" usual.startTimeout readWord?
    torqueAlpha := ← fields.read? "torque_alpha" usual.torqueAlpha Value.single?
    homing := ← fields.read? "homing" usual.homing readHoming? }

def readDispense? (value : Value) : Option DispenseSettings := do
  let fields ← fieldsOf?
    ["axis", "steps_per_volume", "inject_direction", "cancel_accounting"] value
  let usual : DispenseSettings := {}
  return {
    axis := ← fields.read? "axis" usual.axis readLabel?
    stepsPerVolume := ← fields.read? "steps_per_volume" usual.stepsPerVolume Value.single?
    injectDirection := ← fields.read? "inject_direction" usual.injectDirection readDirection?
    cancelAccounting := ← fields.read? "cancel_accounting" usual.cancelAccounting
      (readChoice? [("report_zero", .reportZero), ("report_dispensed", .reportDispensed)]) }

/-- Reads an array of at most `maxAxes` axes. -/
def readAxes? (value : Value) : Option (List AxisSettings) := do
  (← value.array?).mapM readAxis?

def readMachine? (fields : Fields) : Option MachineSettings := do
  let usual : MachineSettings := default
  let version ← fields.read? "version" usual.version readByte?
  let axes ← fields.read? "axes" [] readAxes?
  let dispense ← fields.read? "dispense" none fun value => some <$> readDispense? value
  let telemetryInterval ←
    fields.read? "telemetry_interval_ms" usual.telemetryInterval readWord?
  if h : axes.length ≤ maxAxes then
    return { version, axes, dispense, telemetryInterval, axes_length_le := h }
  else none

def readMechanics? (fields : Fields) : Option Mechanics := do
  let usual : Mechanics := {}
  return {
    hardStopMin := ← fields.read? "hard_stop_min" usual.hardStopMin readPosition?
    hardStopMax := ← fields.read? "hard_stop_max" usual.hardStopMax readPosition?
    endstopMin := ← fields.read? "endstop_min" usual.endstopMin readPosition?
    endstopMax := ← fields.read? "endstop_max" usual.endstopMax readPosition?
    baseEffort := ← fields.read? "base_effort" usual.baseEffort Value.single?
    stallEffort := ← fields.read? "stall_effort" usual.stallEffort Value.single?
    startDelay := ← fields.read? "start_delay_ms" usual.startDelay readWord? }

/-- Reads an entry. It names an axis; without a channel it is meant for the first one. -/
def readEntry? : Value → Option MechanicsEntry
  | .table entries => do
    let fields : Fields := fun name => entries.lookup name
    return {
      axis := ← (← fields "axis").string?
      channel := ← fields.read? "channel" 0 (Value.natBelow? UInt64.size)
      mechanics := ← readMechanics? fields }
  | _ => none

namespace BenchSetup

/-- Reads a description that is still to be checked. -/
def read? (text : String) : Option BenchSetup := do
  match ← Toml.document? text with
  | .table entries =>
    let fields : Fields := fun name => entries.lookup name
    return {
      settings := ← readMachine? fields
      entries := ← fields.read? "sim" [] fun value => do (← value.array?).mapM readEntry? }
  | _ => none

/-- Whether an entry names a channel of the machine. -/
def isKnown (settings : MachineSettings) (entry : MechanicsEntry) : Bool :=
  settings.axes.any fun axis =>
    axis.name.text == entry.axis && entry.channel < axis.channels.toNat

/-- Reads a description and checks it: the settings are valid and every entry names a channel. -/
def parse (text : String) : Except SetupError BenchSetup :=
  match read? text with
  | none => .error .notReadable
  | some setup =>
    match setup.settings.fault? with
    | some error => .error (.settings error)
    | none =>
      match setup.entries.find? (!isKnown setup.settings ·) with
      | some entry => .error (.unknownChannel entry.axis entry.channel)
      | none => .ok setup

/-- The mechanics of a channel: those of the first entry that names it, or the default ones. -/
def mechanicsOf (setup : BenchSetup) (axis : AxisSettings) (channel : Nat) : Mechanics :=
  (setup.entries.find? fun entry =>
    entry.axis == axis.name.text && entry.channel == channel).elim {} MechanicsEntry.mechanics

end BenchSetup

end MotionControl
