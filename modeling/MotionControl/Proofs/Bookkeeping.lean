import MotionControl.Proofs.Dispense.Run

/-!
# The books of a dispense

An operation that has begun keeps its terms until it ends, and its deliveries only grow, whatever
the commands and the axes that come to the dispense in the meantime. It is the stored operation
that an event reports.

* `Step.continues`, `IsKept.continues_run`: an operation continues as long as it goes on.
* `Step.event`: **an event is the end of the stored operation**, or it has waited before.
* `books_kept`: **the books of every dispense**, after any acts.
-/

namespace MotionControl

open Attempt

variable {C : Type} [MotorChannel C]

namespace Dispenser

variable {dispenser after : Dispenser} {reported : Option DispenseEvent}

/-- The factor of an ongoing operation cannot be changed. -/
theorem act_setStepsPerVolume (hongoing : dispenser.isOngoing = true) (factor : Single) :
    (dispenser.act (.setStepsPerVolume factor : DispenserAct C)).1 = dispenser := by
  rcases setStepsPerVolume_cases (C := C) factor dispenser with hsame | ⟨hidle, -⟩
  · rw [hsame]
  · rw [hidle] at hongoing
    cases hongoing

/-- An operation that a step leaves going is the one from before. -/
theorem Step.continues (h : dispenser.Step after reported) {operation : DispenseOperation}
    (hkept : dispenser.IsKept) (hstored : dispenser.operation? = some operation)
    (hongoing : after.isOngoing = true) :
    ∃ operation', after.operation? = some operation' ∧ operation.Continues operation' := by
  have hbusy := hkept.isOngoing_of_stored hstored
  cases h with
  | stay | report => exact ⟨operation, hstored, .refl operation⟩
  | calibrate factor hidle | begin hidle =>
    rw [hidle] at hbusy
    cases hbusy
  | goOn phase hstored' hphase hcontinues =>
    cases hstored.symm.trans hstored'
    exact ⟨_, rfl, hcontinues⟩
  | endNow outcome | endLater outcome =>
    obtain ⟨hphase, -⟩ := finalize_idle outcome { dispenser with operation? := some _ }
    have hidle := isOngoing_eq_false.2 hphase
    exact absurd (hidle.symm.trans hongoing) Bool.false_ne_true

/-- An event that a step reports or leaves to be reported has waited before, or it is the end of the
operation that was stored. -/
theorem Step.event (h : dispenser.Step after reported) {event : DispenseEvent}
    (hevent : reported = some event ∨ after.pending = some event) :
    dispenser.pending = some event ∨
      ∃ operation operation' outcome, dispenser.operation? = some operation ∧
        operation.Continues operation' ∧
        event = { dispenser with operation? := some operation' }.endEvent outcome := by
  cases h with
  | stay | calibrate | goOn =>
    rcases hevent with hevent | hevent
    · cases hevent
    · exact .inl hevent
  | report hpending =>
    rcases hevent with hevent | hevent
    · exact .inl (hpending.trans hevent)
    · cases hevent
  | begin => rcases hevent with hevent | hevent <;> cases hevent
  | @endNow operation operation' outcome hstored hcontinues =>
    rcases hevent with hevent | hevent
    · cases hevent
      exact .inr ⟨operation, operation', outcome, hstored, hcontinues, rfl⟩
    · -- the event that is reported at once leaves nothing behind
      have hpending := (finalize_idle outcome { dispenser with operation? := some operation' }).2.2
      exact .inl (hpending.symm.trans hevent)
  | @endLater operation operation' outcome hstored hcontinues =>
    rcases hevent with hevent | hevent
    · cases hevent
    · cases hevent
      exact .inr ⟨operation, operation', outcome, hstored, hcontinues, rfl⟩

/-- **An operation continues as long as it goes on**, over any number of acts. -/
theorem IsKept.continues_run (h : dispenser.IsKept) {acts : List (DispenserAct C)}
    (hgoes : dispenser.GoesOn acts) {operation : DispenseOperation}
    (hstored : dispenser.operation? = some operation) :
    ∃ operation', (dispenser.run acts).operation? = some operation' ∧
      operation.Continues operation' := by
  -- the operation after the first act is the one that the rest of the acts continues
  induction acts generalizing dispenser operation with
  | nil => exact ⟨operation, hstored, .refl operation⟩
  | cons act acts ih =>
    have hstep := h.step act
    -- what is required before the next act holds after this one
    have hongoing : (dispenser.act act).1.isOngoing = true := by
      cases acts with
      | nil => exact hgoes.2
      | cons => exact hgoes.2.1
    obtain ⟨middle, hmiddle, hfirst⟩ := hstep.continues h hstored hongoing
    obtain ⟨last, hlast, hrest⟩ := ih (h.follows hstep) hgoes.2 hmiddle
    exact ⟨last, hlast, hfirst.trans hrest⟩

end Dispenser

/-- **The books of every dispense.** After any acts, with any axes and events,

* an operation is stored exactly while one goes on, an event waits only while none does, and what is
  delivered and what is left make up the total;
* the factor of an ongoing operation cannot be changed;
* an event that is reported or left to be reported has waited before, or is about the operation that
  was stored;
* over any more acts an operation keeps its terms, and what it has delivered, as long as it goes
  on. -/
theorem books_kept (settings : DispenseSettings) (acts : List (DispenserAct C)) :
    let dispenser := ({ settings } : Dispenser).run acts
    dispenser.IsKept ∧
      (dispenser.isOngoing = true → ∀ factor,
        (dispenser.act (.setStepsPerVolume factor : DispenserAct C)).1 = dispenser) ∧
      (∀ (act : DispenserAct C) (event : DispenseEvent),
        (dispenser.act act).2 = some event ∨ (dispenser.act act).1.pending = some event →
        dispenser.pending = some event ∨
          ∃ operation, dispenser.operation? = some operation ∧ event.kind = operation.kind) ∧
      ∀ (operation : DispenseOperation) (more : List (DispenserAct C)),
        dispenser.operation? = some operation → dispenser.GoesOn more →
        ∃ operation', (dispenser.run more).operation? = some operation' ∧
          operation.Continues operation' := by
  intro dispenser
  have hfresh : Dispenser.IsKept { settings } := Dispenser.isKept_of_idle rfl rfl
  have hkept : dispenser.IsKept := hfresh.run acts
  refine ⟨hkept, fun hongoing factor => ?_, fun act event hevent => ?_,
    fun operation more hstored hgoes => hkept.continues_run hgoes hstored⟩
  · exact Dispenser.act_setStepsPerVolume hongoing factor
  · rcases (hkept.step act).event hevent with hwaits | ⟨operation, operation', outcome, hstored,
      hcontinues, hend⟩
    · exact .inl hwaits
    · have hkind : event.kind = operation'.kind := by rw [hend]; rfl
      exact .inr ⟨operation, hstored, hkind.trans hcontinues.kind⟩

end MotionControl
