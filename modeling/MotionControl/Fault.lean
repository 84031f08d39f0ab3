/-!
# Refusals and faults

A `Refusal` is the answer to a command that has no effect. A `Fault` ends an operation; the motors
have been stopped by the time it is reported.
-/

namespace MotionControl

/-- Why a command is refused. -/
inductive Refusal where
  /-- A move needs a homed axis. -/
  | notHomed
  /-- The target is outside the travel limits. -/
  | outOfTravel
  /-- An argument is not finite or out of its range. -/
  | invalidArgument
  /-- The volume factor is not above zero. -/
  | invalidStepsPerVolume
  /-- A channel of the axis is disabled. -/
  | axisDisabled
  /-- No axis has the name. -/
  | unknownAxis
  /-- The machine has no dispense. -/
  | noDispenseAxis
  /-- Another operation is going on. -/
  | busy
  /-- A fault of the axis has to be cleared first. -/
  | faulted
  /-- The operation is in a phase that does not take the request. -/
  | wrongPhase
deriving DecidableEq, Repr

/-- The word for a refusal in a reply. -/
def Refusal.token : Refusal → String
  | notHomed => "not_homed"
  | outOfTravel => "out_of_travel"
  | invalidArgument => "invalid_argument"
  | invalidStepsPerVolume => "invalid_steps_per_volume"
  | axisDisabled => "axis_disabled"
  | unknownAxis => "unknown_axis"
  | noDispenseAxis => "no_dispense_axis"
  | busy => "busy"
  | faulted => "faulted"
  | wrongPhase => "wrong_phase"

/-- How a homing sequence fails. -/
inductive HomingFailure where
  /-- A search ended without the reference signal of every channel. -/
  | stopNotReached
  /-- The torque limit tripped where no stall was expected. -/
  | unexpectedStall
  /-- An endstop asserted on an axis that homes against a hard stop. -/
  | unexpectedSensor
  /-- An endstop is still asserted after the retreat. -/
  | sensorStuck
deriving DecidableEq, Repr

/-- Which deadline expired. -/
inductive Timeout where
  /-- A move never started. -/
  | moveStart
  /-- A move of a homing sequence never started. -/
  | homingStart
  /-- The homing sequence took too long. -/
  | homingSession
deriving DecidableEq, Repr

/-- Why an operation failed. -/
inductive Fault where
  /-- A channel exceeded the torque limit while stepping. -/
  | motionTorque
  | homing (failure : HomingFailure)
  | timeout (deadline : Timeout)
  /-- A drive reports a fault bit. -/
  | hardware
deriving DecidableEq, Repr

namespace Fault

def all : List Fault :=
  [motionTorque, homing .stopNotReached, homing .unexpectedStall, homing .unexpectedSensor,
    homing .sensorStuck, timeout .moveStart, timeout .homingStart, timeout .homingSession,
    hardware]

/-- The word for a fault in a report. -/
def token : Fault → String
  | motionTorque => "motion_torque"
  | homing .stopNotReached => "homing_stop_not_reached"
  | homing .unexpectedStall => "homing_unexpected_stall"
  | homing .unexpectedSensor => "homing_unexpected_sensor"
  | homing .sensorStuck => "homing_sensor_stuck"
  | timeout .moveStart => "timeout_move_start"
  | timeout .homingStart => "timeout_homing_start"
  | timeout .homingSession => "timeout_homing_session"
  | hardware => "hardware_fault"

/-- Whether the axis stays in the fault until it is cleared. -/
def latches : Fault → Bool
  | hardware | timeout .moveStart => true
  | _ => false

end Fault

end MotionControl
