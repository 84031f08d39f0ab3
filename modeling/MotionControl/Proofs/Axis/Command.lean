import MotionControl.Axis.Update
import MotionControl.Proofs.Attempt

/-!
# Accepted commands of an axis

What an axis has to be like for a command to be accepted, and what becomes of it:
`tryMoveTo_ok`, `tryMoveIncrements_ok`, `tryHome_ok`, `tryStopDecelerated_ok`,
`tryClearFault_ok`. Every motion starts from standby. `issue_cases` and `abort_cases` tell what a
move and an abort make of the state and of the event that waits.
-/

namespace MotionControl

theorem AxisState.isBusy_of_isMoving {state : AxisState} (h : state.isMoving = true) :
    state.isBusy = true := by
  cases state <;> first | rfl | cases h

theorem AxisState.isDestress_of_idle {state : AxisState} (h : state.isBusy = false) :
    state.isDestress = false := by
  cases state <;> first | rfl | cases h

namespace Axis

open Attempt

variable {C : Type}

theorem refusal?_eq_none {state : AxisState} : state.refusal? = none ↔ state = .standby := by
  cases state <;> simp [AxisState.refusal?]

theorem requireReady_ok {axis axis' : Axis C} {u : Unit} :
    requireReady.run axis = .ok u axis' ↔ axis.state = .standby ∧ axis = axis' := by
  unfold requireReady
  rw [EStateM.run_bind, EStateM.run_get, ← refusal?_eq_none]
  cases h : axis.state.refusal? with
  | none => simp [h]
  | some refusal =>
    simp only [h, reduceCtorEq, false_and, iff_false]
    intro hr; cases hr

theorem requireHomed_ok {axis axis' : Axis C} {u : Unit} :
    requireHomed.run axis = .ok u axis' ↔ axis.isHomed = true ∧ axis = axis' := by
  simp [requireHomed]

variable [MotorChannel C]

theorem requireEnabled_ok {axis axis' : Axis C} {u : Unit} :
    requireEnabled.run axis = .ok u axis' ↔ axis.allEnabled = true ∧ axis = axis' := by
  simp [requireEnabled]

/-- **An accepted move in axis units** starts from standby on a homed axis and stays within the
travel limits. -/
theorem tryMoveTo_ok {request : MoveRequest} {now : Nat} {axis axis' : Axis C} {u : Unit} :
    (tryMoveTo request now).run axis = .ok u axis' ↔
      axis.state = .standby ∧ request.isUsable = true ∧ axis.allEnabled = true ∧
        axis.isHomed = true ∧
        axis.settings.withinTravel (axis.requestedPosition request) = true ∧
        axis.issue (axis.requestedIncrements request)
          (request.velocity * axis.settings.stepsPerUnit)
          (request.accel * axis.settings.stepsPerUnit) request.torque now = axis' := by
  simp [tryMoveTo, -EStateM.run_bind, run_bind_ok, and_assoc, requireReady_ok, requireHomed_ok,
    requireEnabled_ok]

/-- **An accepted move in increments** starts from standby on a homed axis and stays within the
travel limits. -/
theorem tryMoveIncrements_ok {increments : Int} {velocity accel torque : Single} {now : Nat}
    {axis axis' : Axis C} {u : Unit} :
    (tryMoveIncrements increments velocity accel torque now).run axis = .ok u axis' ↔
      axis.state = .standby ∧
        (velocity.isPositive && accel.isPositive && isTorqueLimit torque) = true ∧
        axis.allEnabled = true ∧ axis.isHomed = true ∧
        (axis.incrementLimits.1 ≤ saturate (axis.positionIncrements + increments) ∧
          saturate (axis.positionIncrements + increments) ≤ axis.incrementLimits.2) ∧
        axis.issue increments velocity accel torque now = axis' := by
  simp [tryMoveIncrements, -EStateM.run_bind, run_bind_ok, and_assoc, requireReady_ok,
    requireHomed_ok, requireEnabled_ok]

/-- **An accepted homing run** starts from standby; the axis need not be homed. -/
theorem tryHome_ok {maxTravel torque : Single} {now : Nat} {axis axis' : Axis C} {u : Unit} :
    (tryHome maxTravel torque now).run axis = .ok u axis' ↔
      axis.state = .standby ∧ (maxTravel.isPositive && isTorqueLimit torque) = true ∧
        axis.allEnabled = true ∧
        { axis.applyTorqueLimit torque with
          pending := none
          state := .homing (.start axis.settings.homing maxTravel torque now) } = axis' := by
  simp [tryHome, -EStateM.run_bind, run_bind_ok, and_assoc, requireReady_ok, requireEnabled_ok]

theorem tryStopDecelerated_ok {axis axis' : Axis C} {u : Unit} :
    tryStopDecelerated.run axis = .ok u axis' ↔
      axis.state.isMoving = true ∧
        { axis.mapChannels MotorChannel.stopDecelerated with stopRequested := true } = axis' := by
  simp [tryStopDecelerated, -EStateM.run_bind, run_bind_ok, and_assoc]

theorem tryClearFault_ok {axis axis' : Axis C} {u : Unit} :
    tryClearFault.run axis = .ok u axis' ↔
      if axis.state.isFault then axis.anyFault = false ∧ { axis with state := .standby } = axis'
      else axis = axis' := by
  cases h : axis.state.isFault <;>
    simp [tryClearFault, -EStateM.run_bind, run_bind_ok, and_assoc, h]

/-! ## What a move and an abort make of the state -/

/-- An accepted move starts, or is done at once. -/
theorem issue_cases (increments : Int) (velocity accel torque : Single) (now : Nat)
    (axis : Axis C) :
    ((axis.issue increments velocity accel torque now).state = .startingMove now ∧
        (axis.issue increments velocity accel torque now).pending = axis.pending) ∨
      ((axis.issue increments velocity accel torque now).state = axis.state ∧
        (axis.issue increments velocity accel torque now).pending = some .done) := by
  unfold issue
  dsimp only
  split
  · exact .inr ⟨rfl, rfl⟩
  · exact .inl ⟨rfl, rfl⟩

/-- An abort ends what is going on and reports it, and does nothing to an axis at rest. -/
theorem abort_cases (axis : Axis C) :
    (axis.state.isBusy = true ∧ axis.abort.state = .standby ∧ axis.abort.pending = some .aborted) ∨
      (axis.state.isBusy = false ∧ axis.abort.state = axis.state ∧
        axis.abort.pending = axis.pending) := by
  unfold abort
  cases h : axis.state.isBusy with
  | true => exact .inl ⟨rfl, rfl, rfl⟩
  | false => exact .inr ⟨rfl, rfl, rfl⟩

end Axis

end MotionControl
