import MotionControl.Dispense.Manager
import MotionControl.Proofs.Axis.Command

/-!
# Accepted commands of a dispense

What becomes of a dispense and its axis when a command is accepted: `tryStart_ok`, `tryPause_ok`,
`tryResume_ok`, `tryCancel_ok`. Only a start and a resume move the axis, and a resume moves it only
if something is left to deliver.
-/

namespace MotionControl.Dispenser

open Attempt

variable {C : Type} {dispenser dispenser' : Dispenser} {axis axis' : Axis C} {u : Unit}

theorem run_onAxis_ok {attempt : Attempt (Axis C) Unit} {pair : Dispenser × Axis C} :
    (onAxis attempt).run (dispenser, axis) = .ok u pair ↔
      ∃ axis', attempt.run axis = .ok () axis' ∧ (dispenser, axis') = pair := by
  simp [onAxis]

theorem run_change_ok {f : Dispenser → Dispenser} {pair : Dispenser × Axis C} :
    (change f).run (dispenser, axis) = .ok u pair ↔ (f dispenser, axis) = pair := by
  simp [change]

variable [MotorChannel C]

/-- **An accepted start** finds the dispense idle and moves the axis by the whole operation. -/
theorem tryStart_ok {request : DispenseRequest} {now : Nat} :
    (tryStart request now).run (dispenser, axis) = .ok u (dispenser', axis') ↔
      dispenser.isOngoing = false ∧
        (request.volume.isPositive && request.speed.isPositive && request.accel.isPositive) = true ∧
        dispenser.settings.stepsPerVolume.isPositive = true ∧
        ∃ operation, operationOf request axis.positionIncrements dispenser.settings = operation ∧
          (Axis.tryMoveIncrements
            (DispenseOperation.displacement operation.direction operation.total)
            operation.velocity operation.accel operation.torque now).run axis = .ok () axis' ∧
          { dispenser with
            pending := none, lastFault := none, operation? := some operation
            phase := .starting } = dispenser' := by
  simp [tryStart, -EStateM.run_bind, run_bind_ok, and_assoc, run_onAxis_ok, run_change_ok]

/-- **An accepted pause** finds the dispense active. -/
theorem tryPause_ok :
    tryPause.run (dispenser, axis) = .ok u (dispenser', axis') ↔
      dispenser.phase = .active ∧ Axis.tryStopDecelerated.run axis = .ok () axis' ∧
        { dispenser with phase := .pausing } = dispenser' := by
  simp [tryPause, -EStateM.run_bind, run_bind_ok, and_assoc, run_onAxis_ok, run_change_ok,
    and_comm]

/-- **An accepted resume** finds the dispense paused. It ends an operation with nothing left, and
moves the axis by the rest of any other. -/
theorem tryResume_ok {now : Nat} :
    (tryResume now).run (dispenser, axis) = .ok u (dispenser', axis') ↔
      dispenser.phase = .paused ∧ ∃ operation, dispenser.operation? = some operation ∧
        ((operation.remaining = 0 ∧ dispenser.finalizeLater .completed = dispenser' ∧
            axis = axis') ∨
          (operation.remaining ≠ 0 ∧
            (Axis.tryMoveIncrements
              (DispenseOperation.displacement operation.direction operation.remaining)
              operation.velocity operation.accel operation.torque now).run axis = .ok () axis' ∧
            { dispenser with
              operation? := some { operation with segmentStart := axis.positionIncrements }
              phase := .resuming } = dispenser')) := by
  cases hop : dispenser.operation? with
  | none => simp [tryResume, -EStateM.run_bind, run_bind_ok, and_assoc, hop]
  | some operation =>
    by_cases hrest : operation.remaining = 0
    · simp [tryResume, -EStateM.run_bind, run_bind_ok, and_assoc, hop, hrest, run_change_ok]
    · simp only [tryResume, run_bind_ok, EStateM.run_get, EStateM.Result.ok.injEq, run_require_ok,
        beq_iff_eq, and_assoc, exists_and_left, exists_eq_left', exists_const, hop, hrest,
        ↓reduceIte, run_onAxis_ok, Prod.exists, Prod.mk.injEq, exists_eq_right_right,
        run_change_ok, Option.some.injEq, ne_eq, false_and, not_false_eq_true, true_and, false_or,
        and_congr_right_iff]
      refine fun _ => ⟨?_, ?_⟩
      · rintro ⟨_, _, hmove, rfl, hd, rfl⟩
        exact ⟨hmove, hd⟩
      · rintro ⟨hmove, hd⟩
        exact ⟨_, _, hmove, rfl, hd, rfl⟩

/-- **An accepted cancel** finds an operation going on and stops the axis. -/
theorem tryCancel_ok :
    tryCancel.run (dispenser, axis) = .ok u (dispenser', axis') ↔
      dispenser.isOngoing = true ∧ axis.abort.discardPending = axis' ∧
        (dispenser.fold axis'.positionIncrements).finalizeLater .cancelled = dispenser' := by
  simp [tryCancel, -EStateM.run_bind, run_bind_ok, and_assoc, run_onAxis_ok, run_change_ok]

end MotionControl.Dispenser
