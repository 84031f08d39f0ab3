import MotionControl.Axis.Homing
import MotionControl.Fault
import MotionControl.Motor.Channel
import MotionControl.Motor.Effort
import MotionControl.Protocol.Report
import MotionControl.Settings.Validity

/-!
# Axes

An `Axis` drives its motor channels through moves and homing runs. Its state tells which operation
is going on, and an operation ends in one `AxisEvent`.
-/

namespace MotionControl

/-- What an axis is doing. -/
inductive AxisState where
  /-- Nothing; it takes commands. -/
  | standby
  /-- A move was commanded at an instant and has not started. -/
  | startingMove (since : Nat)
  | moving
  | homing (session : HomingSession)
  /-- It is stopped until the fault is cleared. -/
  | fault (fault : Fault)
deriving DecidableEq

namespace AxisState

def name : AxisState → String
  | standby => "Standby"
  | startingMove _ => "StartingMove"
  | moving => "Moving"
  | homing _ => "Homing"
  | fault _ => "Fault"

/-- Whether an operation is going on. -/
def isBusy : AxisState → Bool
  | startingMove _ | moving | homing _ => true
  | standby | fault _ => false

/-- Whether a move is going on. -/
def isMoving : AxisState → Bool
  | startingMove _ | moving => true
  | standby | homing _ | fault _ => false

def isFault : AxisState → Bool
  | fault _ => true
  | _ => false

/-- Why a new operation is refused in a state. -/
def refusal? : AxisState → Option Refusal
  | standby => none
  | fault _ => some .faulted
  | startingMove _ | moving | homing _ => some .busy

/-- Whether the drives are released at the end of a homing run. -/
def isDestress : AxisState → Bool
  | homing session => session.phase.isDestress
  | _ => false

end AxisState

/-- How an operation of an axis ended. -/
inductive AxisEvent where
  /-- A move reached its target. -/
  | done
  /-- A homing run ended with the axis referenced. -/
  | homed
  /-- A move ended on a requested stop. -/
  | stopped
  /-- An abort interrupted the operation. -/
  | aborted
  /-- The operation failed, and the motors are stopped. -/
  | fault (fault : Fault)
deriving DecidableEq, Repr

namespace AxisEvent

/-- The report of an event of the axis `source`. -/
def report (source : String) : AxisEvent → Report
  | done => .done source
  | homed => .homed source
  | stopped => .stopped source
  | aborted => .aborted source
  | fault f => .error source f.token

def isFault : AxisEvent → Bool
  | fault _ => true
  | _ => false

end AxisEvent

/-- An axis with channels of type `C`. -/
structure Axis (C : Type) where
  settings : AxisSettings
  channels : List C
  state : AxisState := .standby
  /-- Whether the position is referenced. -/
  isHomed : Bool := false
  /-- The torque limit in force, in percent. -/
  torqueLimit : Single := 100
  monitor : EffortMonitor
  /-- The position of each channel when the current move was commanded. -/
  origins : List Int
  /-- Whether a stop of the current move was requested. -/
  stopRequested : Bool := false
  /-- The event to report on the next update. -/
  pending : Option AxisEvent := none

namespace Axis

variable {C : Type}

/-- An axis at rest with these channels, as many as its settings say. -/
def ofChannels (settings : AxisSettings) (channels : List C) : Except SettingsError (Axis C) :=
  if channels.isEmpty ∨ maxChannels < channels.length ∨
      channels.length ≠ settings.channels.toNat then
    .error .invalidChannelCount
  else
    .ok
      { settings
        channels
        monitor := .ofCount channels.length settings.torqueAlpha
        origins := channels.map fun _ => 0 }

/-- Changes every channel. -/
def mapChannels (f : C → C) (axis : Axis C) : Axis C :=
  { axis with channels := axis.channels.map f }

/-- Changes one channel. -/
def modifyChannel (index : Nat) (f : C → C) (axis : Axis C) : Axis C :=
  { axis with channels := axis.channels.modify index f }

variable [MotorChannel C]

open MotorChannel

/-- The position of the first channel, which is the position of the axis. -/
def positionIncrements (axis : Axis C) : Int := axis.channels.head?.elim 0 position

/-- The position in axis units. -/
def position (axis : Axis C) : Single :=
  .ofInt axis.positionIncrements / axis.settings.stepsPerUnit

/-- The position of the axis when the current move was commanded. -/
def moveOrigin (axis : Axis C) : Int := axis.origins.headD 0

/-- The name of the homing phase, while homing. -/
def phaseName? (axis : Axis C) : Option String :=
  match axis.state with
  | .homing session => some session.phase.name
  | _ => none

/-- The snapshot for a status line; a channel without a valid reading counts as zero effort. -/
def status (axis : Axis C) : AxisStatus where
  name := axis.settings.name.text
  state := axis.state.name
  phase := axis.phaseName?
  isHomed := axis.isHomed
  position := axis.position
  torque := axis.monitor.samples.map fun sample => sample.smoothed.getD 0

/-! ## What the channels report -/

/-- Whether a channel is stepping. -/
def anyStepping (axis : Axis C) : Bool := axis.channels.any isStepping

/-- Whether a channel reports a fault bit. -/
def anyFault (axis : Axis C) : Bool := axis.channels.any hasFault

/-- Whether the endstop of a channel is asserted. -/
def anyEndstop (axis : Axis C) : Bool := axis.channels.any fun c => endstop? c == some true

/-- Whether every channel is energized. -/
def allEnabled (axis : Axis C) : Bool := axis.channels.all isEnabled

/-- Whether a channel is stepping, or has moved since the move was commanded. -/
def motionStarted (axis : Axis C) : Bool :=
  (axis.channels.zip axis.origins).any fun (c, origin) =>
    isStepping c || MotorChannel.position c != origin

/-- Whether the last effort of a channel is beyond the torque limit. -/
def anyOverLimit (axis : Axis C) : Bool :=
  axis.monitor.samples.any (EffortSample.exceeds axis.torqueLimit)

/-- Takes an effort reading of every channel. -/
def sampleEffort (axis : Axis C) : Axis C :=
  { axis with
    monitor :=
      { axis.monitor with
        samples :=
          List.zipWith
            (fun c sample => sample.take axis.monitor.alpha (effort? c) (isStepping c))
            axis.channels axis.monitor.samples } }

/-! ## What the axis commands of its channels -/

/-- Stops every channel at once. -/
def stopAll (axis : Axis C) : Axis C := axis.mapChannels stopAbrupt

/-- Energizes or releases every channel. -/
def setAllEnabled (enabled : Bool) (axis : Axis C) : Axis C :=
  axis.mapChannels (setEnabled enabled)

/-- Puts a torque limit in force. -/
def applyTorqueLimit (percent : Single) (axis : Axis C) : Axis C :=
  { axis.mapChannels (setTorqueLimit percent) with torqueLimit := percent }

/-- Forgets the efforts and notes where the channels are, for a move that is about to start. -/
def recordOrigins (axis : Axis C) : Axis C :=
  { axis with
    monitor := axis.monitor.reset
    origins := axis.channels.map MotorChannel.position }

end Axis

end MotionControl
