import MotionControl.Numeric.Single
import MotionControl.Text.Label

/-!
# Commands

What a host can ask of the machine. Most commands name an axis; the dispense commands act on the
one dispense axis of the machine.
-/

namespace MotionControl

/-- How the target of a move is meant. -/
inductive MoveMode where
  /-- The target is a position in axis units. -/
  | absolute
  /-- The target is a distance from the current position. -/
  | incremental
deriving DecidableEq, Repr, Inhabited

/-- What a dispense delivers to. -/
inductive DispenseKind where
  /-- Material goes out through the nozzle. -/
  | inject
  /-- Material is flushed to waste. -/
  | purge
deriving DecidableEq, Repr, Inhabited

namespace DispenseKind

/-- The word for a kind in commands and status lines. -/
def token : DispenseKind → String
  | inject => "inject"
  | purge => "purge"

end DispenseKind

/-- A move, in axis units and seconds; the torque limit is in percent. -/
structure MoveRequest where
  mode : MoveMode
  target : Single
  velocity : Single
  accel : Single
  torque : Single
deriving DecidableEq, Repr, Inhabited

/-- A dispense of a volume, with its speed and acceleration in volume and seconds. -/
structure DispenseRequest where
  kind : DispenseKind
  volume : Single
  speed : Single
  accel : Single
  torque : Single
deriving DecidableEq, Repr, Inhabited

/-- A command of the line protocol. -/
inductive Command where
  | move (axis : Label) (request : MoveRequest)
  | home (axis : Label) (maxTravel torque : Single)
  | abort (axis : Label)
  | enable (axis : Label)
  | disable (axis : Label)
  | clearFault (axis : Label)
  | dispense (request : DispenseRequest)
  | pause
  | resume
  | cancel
  | status
deriving DecidableEq

namespace Command

/-- The axis a command names. -/
def axis? : Command → Option Label
  | move axis _ | home axis _ _ | abort axis | enable axis | disable axis | clearFault axis =>
    some axis
  | dispense _ | pause | resume | cancel | status => none

/-- Whether a command starts motion that ends in a report of its own. -/
def startsOperation : Command → Bool
  | move .. | home .. | dispense _ => true
  | _ => false

end Command

end MotionControl
