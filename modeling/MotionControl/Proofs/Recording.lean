import MotionControl.Proofs.Conversion

/-!
# Recording what the channels are commanded

A channel can be put into a recorder, which notes each command and passes it on, and nothing else
changes.

* `RecordedChannel`, `Visit.received`: what the channels of an axis are commanded in a tick.
* `Visit.tick_recorded`: the recording does not disturb the tick.
-/

namespace MotionControl

variable {C : Type} [MotorChannel C]

/-- A command to a channel. -/
inductive ChannelCommand where
  | moveIncrements (increments : Int) (velocity accel : Single)
  | stopAbrupt
  | stopDecelerated
  | setZero
  | setEnabled (enabled : Bool)
  | setTorqueLimit (percent : Single)
deriving DecidableEq, Repr

/-- A channel with the commands that it has received. -/
structure RecordedChannel (C : Type) where
  channel : C
  commands : List ChannelCommand := []

namespace RecordedChannel

/-- A channel that has received nothing yet. -/
def ofChannel {C : Type} (channel : C) : RecordedChannel C := { channel }

/-- Notes a command and passes it on. -/
def note {C : Type} (command : ChannelCommand) (carryOut : C → C) (recorded : RecordedChannel C) :
    RecordedChannel C where
  channel := carryOut recorded.channel
  commands := recorded.commands ++ [command]

open MotorChannel in
instance : MotorChannel (RecordedChannel C) where
  moveIncrements increments velocity accel :=
    note (.moveIncrements increments velocity accel) (moveIncrements increments velocity accel)
  stopAbrupt := note .stopAbrupt stopAbrupt
  stopDecelerated := note .stopDecelerated stopDecelerated
  setZero := note .setZero setZero
  position recorded := position recorded.channel
  isStepping recorded := isStepping recorded.channel
  hasFault recorded := hasFault recorded.channel
  effort? recorded := effort? recorded.channel
  endstop? recorded := endstop? recorded.channel
  setEnabled enabled := note (.setEnabled enabled) (setEnabled enabled)
  isEnabled recorded := isEnabled recorded.channel
  setTorqueLimit percent := note (.setTorqueLimit percent) (setTorqueLimit percent)

/-- Forgets what a channel has received. -/
def forget : ChannelMap (RecordedChannel C) C where
  toFun := channel
  moveIncrements _ _ _ _ := rfl
  stopAbrupt _ := rfl
  stopDecelerated _ := rfl
  setZero _ := rfl
  setEnabled _ _ := rfl
  setTorqueLimit _ _ := rfl
  position _ := rfl
  isStepping _ := rfl
  hasFault _ := rfl
  effort? _ := rfl
  endstop? _ := rfl
  isEnabled _ := rfl

end RecordedChannel

/-- The machine with a recorder for each channel. -/
def Machine.recorded {C : Type} (machine : Machine C) : Machine (RecordedChannel C) :=
  machine.convert RecordedChannel.ofChannel

theorem Machine.forget_recorded (machine : Machine C) :
    machine.recorded.convert RecordedChannel.forget = machine :=
  (machine.convert_convert RecordedChannel.ofChannel RecordedChannel.channel).trans
    machine.convert_id

namespace Visit

/-- What the tick commands of the channels of an axis, in the order of the channels. -/
def received (visit : Visit C) (i : Nat) : List (List ChannelCommand) :=
  let recorded := (visit.sensed.recorded.tick visit.turn.now visit.turn.command).1
  (recorded.axes[i]?).elim [] fun axis => axis.channels.map (·.commands)

/-- **The recording does not disturb the tick.** -/
theorem tick_recorded (visit : Visit C) :
    ((visit.sensed.recorded.tick visit.turn.now visit.turn.command).1.convert
        (RecordedChannel.forget (C := C)),
      (visit.sensed.recorded.tick visit.turn.now visit.turn.command).2) =
        (visit.next, visit.output) := by
  rw [← Machine.tick_convert, Machine.forget_recorded]
  rfl

end Visit

end MotionControl
