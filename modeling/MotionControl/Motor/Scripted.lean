import MotionControl.Motor.Simulated

/-!
# Scripted channels

A scripted channel never moves on its own: whoever holds it sets position, stepping and effort
between the updates of its axis, and it records what it was commanded. Its sums wrap like a counter.

* `ScriptedChannel` is such a channel; `PlainChannel` is one whose driver has neither an endstop
  nor a torque limit.
* `Motor` is a channel of any kind, so that one axis can have channels of several kinds.
-/

namespace MotionControl

/-- A channel whose feedback is set from outside. -/
structure ScriptedChannel where
  position : Int := 0
  target : Int := 0
  stepping : Bool := false
  fault : Bool := false
  effort : Option Single := some 0
  endstop : Option Bool := none
  enabled : Bool := true
  torqueLimit : Option Single := none
  /-- The increments, speed and acceleration of the last move. -/
  lastMove : Option (Int × Single × Single) := none
  /-- How many moves were commanded. -/
  moves : Nat := 0
  /-- How many stops at once were commanded. -/
  abruptStops : Nat := 0
  /-- How many decelerated stops were commanded. -/
  deceleratedStops : Nat := 0
  /-- Whether a move of some length starts stepping at once. -/
  autoStart : Bool := true
deriving DecidableEq, Repr, Inhabited

namespace ScriptedChannel

/-- Jumps to the end of the move and stops there. -/
def finish (channel : ScriptedChannel) : ScriptedChannel :=
  { channel with position := channel.target, stepping := false }

/-- Moves some increments towards the end of the move, and not past it. -/
def advance (increments : Int) (channel : ScriptedChannel) : ScriptedChannel :=
  let remaining := wrap (channel.target - channel.position)
  { channel with
    position :=
      wrap (channel.position + min increments (wrap remaining.natAbs) * remaining.sign) }

/-- Stops where the channel is. -/
def halt (channel : ScriptedChannel) : ScriptedChannel :=
  { channel with target := channel.position, stepping := false }

def moveIncrements (increments : Int) (velocity accel : Single) (channel : ScriptedChannel) :
    ScriptedChannel :=
  { channel with
    moves := channel.moves + 1
    lastMove := some (increments, velocity, accel)
    target := wrap (channel.position + increments)
    stepping := channel.stepping || (increments ≠ 0 && channel.autoStart) }

def stopAbrupt (channel : ScriptedChannel) : ScriptedChannel :=
  { channel with abruptStops := channel.abruptStops + 1 }.halt

/-- Keeps stepping until it is finished or halted from outside. -/
def stopDecelerated (channel : ScriptedChannel) : ScriptedChannel :=
  { channel with
    deceleratedStops := channel.deceleratedStops + 1
    target := channel.position }

def setZero (channel : ScriptedChannel) : ScriptedChannel :=
  { channel with target := wrap (channel.target - channel.position), position := 0 }

instance : MotorChannel ScriptedChannel where
  moveIncrements := moveIncrements
  stopAbrupt := stopAbrupt
  stopDecelerated := stopDecelerated
  setZero := setZero
  position := position
  isStepping := stepping
  hasFault := fault
  effort? := effort
  endstop? := endstop
  setEnabled enabled channel := { channel with enabled }
  isEnabled := enabled
  setTorqueLimit percent channel := { channel with torqueLimit := some percent }

end ScriptedChannel

/-- A scripted channel without endstop and torque limit. -/
structure PlainChannel where
  scripted : ScriptedChannel
deriving DecidableEq, Repr, Inhabited

namespace PlainChannel

/-- Applies a change to the scripted channel within. -/
def map (f : ScriptedChannel → ScriptedChannel) (channel : PlainChannel) : PlainChannel :=
  ⟨f channel.scripted⟩

instance : MotorChannel PlainChannel where
  moveIncrements increments velocity accel :=
    map (MotorChannel.moveIncrements increments velocity accel)
  stopAbrupt := map MotorChannel.stopAbrupt
  stopDecelerated := map MotorChannel.stopDecelerated
  setZero := map MotorChannel.setZero
  position channel := MotorChannel.position channel.scripted
  isStepping channel := MotorChannel.isStepping channel.scripted
  hasFault channel := MotorChannel.hasFault channel.scripted
  effort? channel := MotorChannel.effort? channel.scripted
  setEnabled enabled := map (MotorChannel.setEnabled enabled)
  isEnabled channel := MotorChannel.isEnabled channel.scripted

end PlainChannel

/-- A channel of any kind. -/
inductive Motor where
  | scripted (channel : ScriptedChannel)
  | plain (channel : PlainChannel)
  | simulated (channel : SimulatedChannel)
deriving DecidableEq, Repr

namespace Motor

/-- Applies the change that goes with the kind of the channel. -/
def map (onScripted : ScriptedChannel → ScriptedChannel) (onPlain : PlainChannel → PlainChannel)
    (onSimulated : SimulatedChannel → SimulatedChannel) : Motor → Motor
  | scripted channel => scripted (onScripted channel)
  | plain channel => plain (onPlain channel)
  | simulated channel => simulated (onSimulated channel)

/-- Reads the channel with the function that goes with its kind. -/
def read {α : Type} (onScripted : ScriptedChannel → α) (onPlain : PlainChannel → α)
    (onSimulated : SimulatedChannel → α) : Motor → α
  | scripted channel => onScripted channel
  | plain channel => onPlain channel
  | simulated channel => onSimulated channel

open MotorChannel in
instance : MotorChannel Motor where
  moveIncrements n v a := map (moveIncrements n v a) (moveIncrements n v a) (moveIncrements n v a)
  stopAbrupt := map stopAbrupt stopAbrupt stopAbrupt
  stopDecelerated := map stopDecelerated stopDecelerated stopDecelerated
  setZero := map setZero setZero setZero
  position := read position position position
  isStepping := read isStepping isStepping isStepping
  hasFault := read hasFault hasFault hasFault
  effort? := read effort? effort? effort?
  endstop? := read endstop? endstop? endstop?
  setEnabled enabled := map (setEnabled enabled) (setEnabled enabled) (setEnabled enabled)
  isEnabled := read isEnabled isEnabled isEnabled
  setTorqueLimit percent :=
    map (setTorqueLimit percent) (setTorqueLimit percent) (setTorqueLimit percent)

/-- Lets time pass: only simulated channels move on their own. -/
def advance (dt : Nat) : Motor → Motor := map id id (SimulatedChannel.advance dt)

end Motor

end MotionControl
