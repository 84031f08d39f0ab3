import MotionControl.Fault
import MotionControl.Numeric.Single
import MotionControl.Protocol.Command
import MotionControl.Protocol.Report

/-!
# Dispense operations

An operation is to travel a number of increments in one direction. Its travel is counted segment
by segment: `DispenseOperation.foldSegment` adds what has been travelled since the last segment
began. The increments are the account; volumes are derived from them with the factor in force
when the operation began.
-/

namespace MotionControl

/-- How a dispense operation ended. -/
inductive DispenseOutcome where
  | completed
  | cancelled
  | faulted (fault : Fault)
deriving DecidableEq, Repr

namespace DispenseOutcome

/-- The word for an outcome in a report. -/
def token : DispenseOutcome → String
  | completed => "completed"
  | cancelled => "cancelled"
  | faulted _ => "faulted"

def isSuccess : DispenseOutcome → Bool
  | completed => true
  | cancelled | faulted _ => false

def isFault : DispenseOutcome → Bool
  | faulted _ => true
  | completed | cancelled => false

end DispenseOutcome

/-- The end of a dispense operation. -/
structure DispenseEvent where
  kind : DispenseKind
  outcome : DispenseOutcome
  /-- The reported volume. -/
  volume : Single
deriving DecidableEq, Repr

/-- The report of an event. -/
def DispenseEvent.report (event : DispenseEvent) : Report :=
  .dispensed event.outcome.token event.volume

/-- What is kept of an operation that failed. -/
structure DispenseFault where
  kind : DispenseKind
  fault : Fault
  /-- The volume delivered before the fault. -/
  volume : Single
  /-- The position at which the operation began. -/
  startPosition : Int
  /-- The position at which the motion stopped. -/
  stopPosition : Int
deriving DecidableEq, Repr

/-- An ongoing operation. -/
structure DispenseOperation where
  kind : DispenseKind
  targetVolume : Single
  /-- The increments per unit of volume. -/
  stepsPerVolume : Single
  /-- The sign of the travel. -/
  direction : Single
  total : Int
  /-- The increments delivered in the segments counted so far. -/
  dispensed : Int := 0
  remaining : Int := total
  startPosition : Int
  /-- The position at which the segment that is still to be counted began. -/
  segmentStart : Int := startPosition
  velocity : Single
  accel : Single
  torque : Single
deriving DecidableEq, Repr

namespace DispenseOperation

/-- The volume dispensed so far. -/
def dispensedVolume (operation : DispenseOperation) : Single :=
  .ofInt operation.dispensed / operation.stepsPerVolume

/-- The travel in the dispense direction from the start of the segment to a position; travel
against it does not count. The difference of the positions wraps like a counter. -/
def segmentTravel (operation : DispenseOperation) (position : Int) : Int :=
  max 0 (Single.ofInt (wrap (position - operation.segmentStart)) * operation.direction).toCounter

/-- Counts the segment that ends at a position, and begins a new one there. -/
def foldSegment (position : Int) (operation : DispenseOperation) : DispenseOperation :=
  let dispensed :=
    min (saturate (operation.dispensed + operation.segmentTravel position)) operation.total
  { operation with
    dispensed
    remaining := max 0 (wrap (operation.total - dispensed))
    segmentStart := position }

/-- What is left after a segment is the total without what is delivered: no counter wraps. -/
theorem remaining_foldSegment {operation : DispenseOperation} {position : Int}
    (hnonneg : 0 ≤ (operation.foldSegment position).dispensed)
    (hle : (operation.foldSegment position).dispensed ≤ operation.total)
    (htotal : operation.total ≤ counterMax) :
    (operation.foldSegment position).remaining =
      operation.total - (operation.foldSegment position).dispensed := by
  have hmin : counterMin ≤ operation.total - (operation.foldSegment position).dispensed := by
    unfold counterMin
    omega
  have hrest : (operation.foldSegment position).remaining =
      max 0 (wrap (operation.total - (operation.foldSegment position).dispensed)) := rfl
  rw [hrest, wrap_of_range hmin (by omega)]
  exact Int.max_eq_right (by omega)

/-- The increments of the move that delivers `increments` of the operation. -/
def displacement (direction : Single) (increments : Int) : Int :=
  (direction * .ofInt increments).toCounter

/-- What is kept of the operation after a fault. -/
def faultRecord (fault : Fault) (operation : DispenseOperation) : DispenseFault where
  kind := operation.kind
  fault
  volume := operation.dispensedVolume
  startPosition := operation.startPosition
  stopPosition := operation.segmentStart

end DispenseOperation

end MotionControl
