import MotionControl.Proofs.Dispense.Account
import MotionControl.Proofs.Dispense.Command
import MotionControl.Proofs.Dispense.Update
import MotionControl.Proofs.Refusal

/-!
# Runs of a dispense

Commands and updates come to a dispense in any order. Each of them passes in an axis, and nothing is
known of that axis: it may have any position and be in any state, and the event of an update need
not be one that the axis has reported.

* `DispenserAct`, `Dispenser.act`, `Dispenser.run`: what can come to a dispense, what one act makes
  of it and reports, and the dispense after a list of acts.
* `Dispenser.IsKept`: the books of a dispense.
* `Dispenser.Step`, `IsKept.step`: all that an act can do when the books are kept.
* `IsKept.run`: **every run keeps the books of a dispense**.
-/

namespace MotionControl

open Attempt

/-! ## Acts -/

/-- What can come to a dispense, with the axis that is passed in. -/
inductive DispenserAct (C : Type) where
  | start (request : DispenseRequest) (now : Nat) (axis : Axis C)
  | pause (axis : Axis C)
  | resume (now : Nat) (axis : Axis C)
  | cancel (axis : Axis C)
  | setStepsPerVolume (factor : Single)
  | update (axis : Axis C) (event : Option AxisEvent)

variable {C : Type} [MotorChannel C]

namespace Dispenser

/-- The dispense after a command on it and an axis. A refused one leaves it as it was changed so
far. -/
def command (attempt : Attempt (Dispenser × Axis C) Unit) (axis : Axis C) (dispenser : Dispenser) :
    Dispenser :=
  match attempt.run (dispenser, axis) with
  | .ok () pair | .error _ pair => pair.1

/-- The dispense after an act, and the event that the act reports. -/
def act : DispenserAct C → Dispenser → Dispenser × Option DispenseEvent
  | .start request now axis, dispenser => (dispenser.command (tryStart request now) axis, none)
  | .pause axis, dispenser => (dispenser.command tryPause axis, none)
  | .resume now axis, dispenser => (dispenser.command (tryResume now) axis, none)
  | .cancel axis, dispenser => (dispenser.command tryCancel axis, none)
  | .setStepsPerVolume factor, dispenser =>
    (match (trySetStepsPerVolume factor).run dispenser with
      | .ok () dispenser | .error _ dispenser => dispenser, none)
  | .update axis event, dispenser => dispenser.update axis event

/-- The dispense after a list of acts. -/
def run : Dispenser → List (DispenserAct C) → Dispenser
  | dispenser, [] => dispenser
  | dispenser, act :: acts => run (dispenser.act act).1 acts

/-- An operation is going on before each act of a list, and after the last one. -/
def GoesOn : Dispenser → List (DispenserAct C) → Prop
  | dispenser, [] => dispenser.isOngoing = true
  | dispenser, act :: acts => dispenser.isOngoing = true ∧ GoesOn (dispenser.act act).1 acts

omit [MotorChannel C] in
/-- A command is accepted, or leaves the dispense as it was. -/
theorem command_cases (attempt : Attempt (Dispenser × Axis C) Unit) (h : Atomic attempt)
    (axis : Axis C) (dispenser : Dispenser) :
    dispenser.command attempt axis = dispenser ∨
      ∃ axis', attempt.run (dispenser, axis) = .ok () (dispenser.command attempt axis, axis') := by
  unfold command
  cases hrun : attempt.run (dispenser, axis) with
  | ok u pair => exact .inr ⟨pair.2, rfl⟩
  | error refusal pair =>
    have hsame : pair = (dispenser, axis) := h _ _ _ hrun
    exact .inl (congrArg Prod.fst hsame)

/-- The factor is changed while no operation is going on, or not at all. -/
theorem setStepsPerVolume_cases (factor : Single) (dispenser : Dispenser) :
    dispenser.act (.setStepsPerVolume factor : DispenserAct C) = (dispenser, none) ∨
      dispenser.isOngoing = false ∧
        dispenser.act (.setStepsPerVolume factor : DispenserAct C) =
          ({ dispenser with settings := { dispenser.settings with stepsPerVolume := factor } },
            none) := by
  rw [Dispenser.act]
  cases hrun : (trySetStepsPerVolume factor).run dispenser with
  | error refusal next =>
    have hsame : next = dispenser := trySetStepsPerVolume_atomic _ _ _ hrun
    exact .inl (congrArg (·, none) hsame)
  | ok u next =>
    simp [trySetStepsPerVolume, -EStateM.run_bind, run_bind_ok] at hrun
    obtain ⟨hidle, -, hnext⟩ := hrun
    exact .inr ⟨hidle, congrArg (·, none) hnext.symm⟩

end Dispenser

/-! ## What an act can do -/

namespace Dispenser

/-- The books of a dispense: an operation is stored exactly while one is going on, no event waits
during an operation, and the account of the operation is balanced. -/
structure IsKept (dispenser : Dispenser) : Prop where
  stored : dispenser.operation?.isSome = dispenser.isOngoing
  settled : dispenser.isOngoing = true → dispenser.pending = none
  balanced : ∀ operation, dispenser.operation? = some operation → operation.IsBalanced

/-- What an act can make of a dispense, with the event that it reports. -/
inductive Step (dispenser : Dispenser) : Dispenser → Option DispenseEvent → Prop where
  | stay : Step dispenser dispenser none
  | report {event : DispenseEvent} (hpending : dispenser.pending = some event) :
      Step dispenser { dispenser with pending := none } (some event)
  | calibrate (factor : Single) (hidle : dispenser.isOngoing = false) :
      Step dispenser
        { dispenser with settings := { dispenser.settings with stepsPerVolume := factor } } none
  | begin {operation : DispenseOperation} (hidle : dispenser.isOngoing = false)
      (hbalanced : operation.IsBalanced) :
      Step dispenser
        { dispenser with
          pending := none, lastFault := none, operation? := some operation, phase := .starting }
        none
  /-- The operation goes on in some phase. -/
  | goOn {operation operation' : DispenseOperation} (phase : DispensePhase)
      (hstored : dispenser.operation? = some operation) (hphase : phase.isOngoing = true)
      (hcontinues : operation.Continues operation') (hbalanced : operation'.IsBalanced) :
      Step dispenser { dispenser with operation? := some operation', phase } none
  /-- The operation ends, and that is reported. -/
  | endNow {operation operation' : DispenseOperation} (outcome : DispenseOutcome)
      (hstored : dispenser.operation? = some operation)
      (hcontinues : operation.Continues operation') :
      Step dispenser ({ dispenser with operation? := some operation' }.finalizeNow outcome).1
        ({ dispenser with operation? := some operation' }.finalizeNow outcome).2
  /-- The operation ends, and that is to be reported by the next update. -/
  | endLater {operation operation' : DispenseOperation} (outcome : DispenseOutcome)
      (hstored : dispenser.operation? = some operation)
      (hcontinues : operation.Continues operation') :
      Step dispenser ({ dispenser with operation? := some operation' }.finalizeLater outcome) none

section

variable {dispenser : Dispenser} {operation : DispenseOperation} {axis : Axis C}
  {event : Option AxisEvent}

theorem IsKept.isOngoing_of_stored (h : dispenser.IsKept)
    (hstored : dispenser.operation? = some operation) : dispenser.isOngoing = true := by
  rw [← h.stored, hstored]
  rfl

/-- An ongoing dispense has its operation stored. -/
theorem IsKept.exists_operation (h : dispenser.IsKept) (hongoing : dispenser.isOngoing = true) :
    ∃ operation, dispenser.operation? = some operation ∧ operation.IsBalanced := by
  obtain ⟨operation, hstored⟩ := Option.isSome_iff_exists.1 (h.stored.trans hongoing)
  exact ⟨operation, hstored, h.balanced operation hstored⟩

/-- The update of an ongoing operation, with any axis and any event. -/
theorem step_updateOperation (hstored : dispenser.operation? = some operation)
    (hbalanced : operation.IsBalanced) :
    dispenser.Step (dispenser.updateOperation axis event).1
      (dispenser.updateOperation axis event).2 := by
  have hcontinues := hbalanced.toIsCapped.continues_foldSegment axis.positionIncrements
  have hfolded := hbalanced.toIsCapped.foldSegment axis.positionIncrements
  have hbegun := hbalanced.segmentStart axis.moveOrigin
  have finished (outcome : DispenseOutcome) :=
    Step.endNow outcome hstored hcontinues
  have paused := Step.goOn .paused hstored rfl hcontinues hfolded
  have active := Step.goOn .active hstored rfl
    (operation.continues_segmentStart axis.moveOrigin) hbegun
  unfold updateOperation
  rw [fold_of_stored hstored]
  dsimp only
  -- the arms of the update, in their order
  split
  · exact finished _
  · exact finished _
  · exact paused
  · exact paused
  · exact finished _
  · exact finished _
  · exact finished _
  · exact paused
  · exact paused
  · exact paused
  · split
    · rw [beginSegment, hstored, Option.map_some]
      exact active
    · exact .stay
  · split
    · rw [beginSegment, hstored, Option.map_some]
      exact active
    · exact .stay
  · exact .stay

end

variable {dispenser after : Dispenser} {reported : Option DispenseEvent}

/-- **Every act** on a dispense with its books kept is one of the steps. -/
theorem IsKept.step (h : dispenser.IsKept) (act : DispenserAct C) :
    dispenser.Step (dispenser.act act).1 (dispenser.act act).2 := by
  cases act with
  | start request now axis =>
    rcases command_cases (tryStart request now) tryStart_atomic axis dispenser with
      hsame | ⟨axis', hrun⟩
    · rw [Dispenser.act, hsame]
      exact .stay
    · obtain ⟨hidle, hpositive, hfactor, operation, hoperation, -, hnext⟩ := tryStart_ok.1 hrun
      simp only [Bool.and_eq_true] at hpositive
      rw [Dispenser.act, ← hnext, ← hoperation]
      exact .begin hidle (isBalanced_operationOf hpositive.1.1 hfactor)
  | pause axis =>
    rcases command_cases tryPause tryPause_atomic axis dispenser with hsame | ⟨axis', hrun⟩
    · rw [Dispenser.act, hsame]
      exact .stay
    · obtain ⟨hphase, -, hnext⟩ := tryPause_ok.1 hrun
      have hongoing : dispenser.isOngoing = true := by rw [isOngoing, hphase]; rfl
      obtain ⟨operation, hstored, hbalanced⟩ := h.exists_operation hongoing
      have hgo := Step.goOn .pausing hstored rfl (.refl operation) hbalanced
      rw [Dispenser.act, ← hnext]
      rwa [← hstored] at hgo
  | resume now axis =>
    rcases command_cases (tryResume now) tryResume_atomic axis dispenser with
      hsame | ⟨axis', hrun⟩
    · rw [Dispenser.act, hsame]
      exact .stay
    · obtain ⟨-, operation, hstored, ⟨-, hnext, -⟩ | ⟨-, -, hnext⟩⟩ := tryResume_ok.1 hrun
      · -- nothing is left, so that the operation ends as it stands
        have hend := Step.endLater .completed hstored (.refl operation)
        rw [Dispenser.act, ← hnext]
        rwa [← hstored] at hend
      · rw [Dispenser.act, ← hnext]
        exact .goOn _ hstored rfl (operation.continues_segmentStart _)
          ((h.balanced operation hstored).segmentStart _)
  | cancel axis =>
    rcases command_cases tryCancel tryCancel_atomic axis dispenser with hsame | ⟨axis', hrun⟩
    · rw [Dispenser.act, hsame]
      exact .stay
    · obtain ⟨hongoing, -, hnext⟩ := tryCancel_ok.1 hrun
      obtain ⟨operation, hstored, hbalanced⟩ := h.exists_operation hongoing
      rw [Dispenser.act, ← hnext, fold_of_stored hstored]
      exact .endLater .cancelled hstored (hbalanced.toIsCapped.continues_foldSegment _)
  | setStepsPerVolume factor =>
    rcases setStepsPerVolume_cases (C := C) factor dispenser with hsame | ⟨hidle, hnext⟩
    · rw [hsame]
      exact .stay
    · rw [hnext]
      exact .calibrate factor hidle
  | update axis event =>
    rw [Dispenser.act]
    cases hpending : dispenser.pending with
    | some event' =>
      rw [update_of_pending hpending]
      exact .report hpending
    | none =>
      cases hongoing : dispenser.isOngoing with
      | false =>
        rw [update_of_idle hpending (isOngoing_eq_false.1 hongoing)]
        exact .stay
      | true =>
        obtain ⟨operation, hstored, hbalanced⟩ := h.exists_operation hongoing
        rw [update_of_ongoing hpending hongoing]
        exact step_updateOperation hstored hbalanced

/-! ## What every act keeps -/

/-- A dispense without an operation. -/
theorem isKept_of_idle (hphase : dispenser.phase = .idle) (hnone : dispenser.operation? = none) :
    dispenser.IsKept := by
  have hidle : dispenser.isOngoing = false := isOngoing_eq_false.2 hphase
  refine ⟨?_, fun hongoing => ?_, fun operation hstored => ?_⟩
  · rw [hnone, hidle]
    rfl
  · rw [hidle] at hongoing
    cases hongoing
  · rw [hnone] at hstored
    cases hstored

/-- **A step keeps the books.** -/
theorem IsKept.follows (h : dispenser.IsKept) (hstep : dispenser.Step after reported) :
    after.IsKept := by
  cases hstep with
  | stay => exact h
  | report => exact ⟨h.stored, fun _ => rfl, h.balanced⟩
  | calibrate => exact ⟨h.stored, h.settled, h.balanced⟩
  | begin hidle hbalanced =>
    refine ⟨rfl, fun _ => rfl, fun operation hstored => ?_⟩
    cases hstored
    exact hbalanced
  | @goOn operation operation' phase hstored hphase hcontinues hbalanced =>
    have hongoing := h.isOngoing_of_stored hstored
    refine ⟨hphase.symm, fun _ => h.settled hongoing, fun operation hstored => ?_⟩
    cases hstored
    exact hbalanced
  | endNow outcome =>
    obtain ⟨hphase, hnone, -⟩ := finalize_idle outcome { dispenser with operation? := some _ }
    exact isKept_of_idle hphase hnone
  | endLater outcome =>
    obtain ⟨hphase, hnone, -⟩ := finalize_idle outcome { dispenser with operation? := some _ }
    exact isKept_of_idle hphase hnone

/-- **Every run keeps the books of a dispense.** -/
theorem IsKept.run (h : dispenser.IsKept) (acts : List (DispenserAct C)) :
    (dispenser.run acts).IsKept := by
  induction acts generalizing dispenser with
  | nil => exact h
  | cons act acts ih => exact ih (h.follows (h.step act))

end Dispenser

end MotionControl
