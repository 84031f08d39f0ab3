import MotionControl.Numeric.Numeral
import MotionControl.Text.Line

/-!
# Replies, reports and status lines

A command is answered by a `Reply` at once and, if it started an operation, by one `Report` when
the operation ends. `AxisStatus` and `DispenseStatus` are the polled snapshots. Each of them is
written by a list of formatting calls (`calls`), and `line` is the line of bounded length that
those calls write.
-/

namespace MotionControl

/-- An optional word, `-` where there is none. -/
def orDash (word : Option String) : String := word.getD "-"

/-- The pieces of an integer: a minus sign, if it is negative, and its digits. -/
def integerPieces (n : Int) : List String :=
  (if n < 0 then ["-"] else []) ++ [Nat.repr n.natAbs]

/-- The pieces of a volume or a position. -/
def volumePieces (x : Single) : List String := x.fixedPieces 3

/-- The pieces of a volume that may be absent. -/
def volumePieces? : Option Single → List String
  | some x => volumePieces x
  | none => ["-"]

/-- The answer to a command. -/
inductive Reply where
  | accepted
  | rejected (reason : String)
deriving DecidableEq, Repr

namespace Reply

def calls : Reply → List (List String)
  | accepted => [["OK"]]
  | rejected reason => [["ERR ", reason]]

def line (reply : Reply) : String := Line.render reply.calls

end Reply

/-- How an operation of an axis, or a dispense, ended. -/
inductive Report where
  /-- A move reached its target. -/
  | done (source : String)
  /-- A homing run ended with the axis referenced. -/
  | homed (source : String)
  /-- A move ended early on a requested stop. -/
  | stopped (source : String)
  /-- An abort interrupted the operation. -/
  | aborted (source : String)
  /-- The operation failed. -/
  | error (source reason : String)
  /-- A dispense ended. -/
  | dispensed (outcome : String) (volume : Single)
deriving DecidableEq, Repr

namespace Report

def calls : Report → List (List String)
  | done source => [["DONE ", source]]
  | homed source => [["HOMED ", source]]
  | stopped source => [["STOPPED ", source]]
  | aborted source => [["ABORTED ", source]]
  | error source reason => [["ERROR ", source, " ", reason]]
  | dispensed outcome volume => [["DISPENSED ", outcome, " "] ++ volumePieces volume]

def line (report : Report) : String := Line.render report.calls

/-- Whether a report tells of a failure. -/
def isError : Report → Bool
  | error .. => true
  | _ => false

end Report

/-- A snapshot of one axis. -/
structure AxisStatus where
  name : String
  state : String
  /-- The homing phase, while homing. -/
  phase : Option String
  isHomed : Bool
  /-- The position in axis units. -/
  position : Single
  /-- The smoothed effort of each channel, in percent. -/
  torque : List Single

namespace AxisStatus

/-- The calls that write the efforts, separated by commas. -/
def torqueCalls : List Single → List (List String)
  | [] => []
  | first :: rest => ("" :: first.fixedPieces 1) :: rest.map fun x => "," :: x.fixedPieces 1

def calls (status : AxisStatus) : List (List String) :=
  (["AXIS ", status.name, " state=", status.state, " phase=", orDash status.phase, " homed=",
      if status.isHomed then "1" else "0", " pos="] ++ volumePieces status.position ++
    [" torque="]) :: torqueCalls status.torque

def line (status : AxisStatus) : String := Line.render status.calls

end AxisStatus

/-- A snapshot of the dispense. -/
structure DispenseStatus where
  phase : String
  /-- The kind of the ongoing operation. -/
  kind : Option String
  /-- The volume that the ongoing operation has dispensed so far. -/
  dispensed : Single
  /-- The volume that the ongoing operation is to dispense. -/
  target : Single
  /-- The increments that the ongoing operation has still to travel. -/
  remaining : Int
  /-- The volume of the last operation that did not fail. -/
  lastCompleted : Single
  /-- How the last operation ended. -/
  lastOutcome : Option String
  /-- The volume that the last operation delivered, if it failed. -/
  faulted : Option Single

namespace DispenseStatus

def calls (status : DispenseStatus) : List (List String) :=
  [["DISPENSE phase=", status.phase, " kind=", orDash status.kind, " dispensed="] ++
    volumePieces status.dispensed ++ [" target="] ++ volumePieces status.target ++
    [" remaining="] ++ integerPieces status.remaining ++ [" last="] ++
    volumePieces status.lastCompleted ++ [" outcome=", orDash status.lastOutcome, " faulted="] ++
    volumePieces? status.faulted]

def line (status : DispenseStatus) : String := Line.render status.calls

end DispenseStatus

end MotionControl
