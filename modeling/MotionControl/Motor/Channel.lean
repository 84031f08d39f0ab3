import MotionControl.Numeric.Single

/-!
# Motor channels

A motor channel is one motor with its driver; an axis drives one or more of them. A channel takes
commands and carries them out on its own, and its state is polled once per tick. Positions are in
increments from the logical zero of the channel.
-/

namespace MotionControl

/-- What an axis can command of a channel and poll from it. -/
class MotorChannel (C : Type) where
  /-- Starts a relative move with a speed in increments per second and an acceleration. -/
  moveIncrements (increments : Int) (velocity accel : Single) : C → C
  /-- Stops at once. -/
  stopAbrupt : C → C
  /-- Stops with the deceleration of the move. -/
  stopDecelerated : C → C
  /-- Makes the current position the logical zero. -/
  setZero : C → C
  /-- The commanded position. -/
  position : C → Int
  /-- Whether the channel is emitting steps. -/
  isStepping : C → Bool
  /-- Whether the driver reports a fault bit. -/
  hasFault : C → Bool
  /-- The motor effort in percent of the rated torque, if the driver has a valid reading. -/
  effort? : C → Option Single
  /-- Whether the endstop is asserted, if one is wired. -/
  endstop? : C → Option Bool := fun _ => none
  /-- Energizes or releases the motor. -/
  setEnabled (enabled : Bool) : C → C
  /-- Whether the motor is energized. -/
  isEnabled : C → Bool
  /-- Sets the torque limit of the driver itself, if it has one. -/
  setTorqueLimit (percent : Single) : C → C := id

end MotionControl
