import MotionControl.Dispense.Manager
import MotionControl.Proofs.Axis.Update

/-!
# A dispense and its axis go in step

* `DispensePhase.Fits`: the states of the axis that go with a phase.
* `Dispenser.InStep`: a dispense and its axis between two ticks.
* `Dispenser.Poised`: the two between a command and the update.
* `Poised.update`: **the update brings them in step again**, and takes every event of the axis.
-/

namespace MotionControl

/-- The states of the axis that go with a phase between two ticks. -/
def DispensePhase.Fits : DispensePhase → AxisState → Prop
  | .idle, _ => True
  | .starting, state | .resuming, state => ∃ since, state = .startingMove since
  | .active, state | .pausing, state => state = .moving
  | .paused, state => state = .standby

/-- The axis of an ongoing dispense is neither homing nor stopped by a fault. -/
theorem DispensePhase.Fits.cases {phase : DispensePhase} {state : AxisState}
    (h : phase.Fits state) (hongoing : phase.isOngoing = true) :
    (∀ session, state ≠ .homing session) ∧ state.isFault = false := by
  cases phase with
  | idle => cases hongoing
  | starting | resuming =>
    obtain ⟨since, rfl⟩ := h
    exact ⟨fun _ => AxisState.noConfusion, rfl⟩
  | active | pausing | paused =>
    cases h
    exact ⟨fun _ => AxisState.noConfusion, rfl⟩

variable {C : Type}

namespace Dispenser

/-- A dispense and its axis between two ticks: the phase fits, an operation is stored if one is
going on, and no event is pending. -/
structure InStep (dispenser : Dispenser) (axis : Axis C) : Prop where
  fits : dispenser.phase.Fits axis.state
  stored : dispenser.operation?.isSome = dispenser.isOngoing
  settled : dispenser.pending = none

/-- A dispense and its axis between a command and the update. -/
inductive Poised (dispenser : Dispenser) (axis : Axis C) : Prop where
  | inStep (h : dispenser.InStep axis)
      (hpending : dispenser.isOngoing = true → axis.pending = none) : Poised dispenser axis
  /-- A move of no length is done before it has started. -/
  | done (hphase : dispenser.phase = .starting ∨ dispenser.phase = .resuming)
      (hstored : dispenser.operation?.isSome = true) (hsettled : dispenser.pending = none)
      (hstate : axis.state = .standby) (hpending : axis.pending = some .done) :
      Poised dispenser axis
  /-- A command has ended the operation. -/
  | ended (hphase : dispenser.phase = .idle) (hstored : dispenser.operation? = none)
      (hpending : dispenser.pending.isSome = true) : Poised dispenser axis

theorem isOngoing_eq_false {dispenser : Dispenser} :
    dispenser.isOngoing = false ↔ dispenser.phase = .idle := by
  cases h : dispenser.phase <;> simp [isOngoing, h, DispensePhase.isOngoing]

/-- An ended operation leaves an idle dispense. -/
theorem finalize_idle (outcome : DispenseOutcome) (dispenser : Dispenser) :
    (dispenser.finalize outcome).1.phase = .idle ∧
      (dispenser.finalize outcome).1.operation? = none ∧
      (dispenser.finalize outcome).1.pending = dispenser.pending := by
  cases outcome <;> exact ⟨rfl, rfl, rfl⟩

/-- An idle dispense goes with every state of the axis. -/
theorem inStep_of_idle {dispenser : Dispenser} {axis : Axis C} (hphase : dispenser.phase = .idle)
    (hstored : dispenser.operation? = none) (hsettled : dispenser.pending = none) :
    dispenser.InStep axis :=
  ⟨by rw [hphase]; trivial, by rw [hstored, isOngoing_eq_false.2 hphase]; rfl, hsettled⟩

/-- The stored operation takes what its segment has moved. -/
theorem fold_of_stored {dispenser : Dispenser} {operation : DispenseOperation}
    (h : dispenser.operation? = some operation) (position : Int) :
    dispenser.fold position =
      { dispenser with operation? := some (operation.foldSegment position) } := by
  rw [fold, h, Option.map_some]

variable {dispenser : Dispenser} {axis : Axis C} {event : Option AxisEvent}

/-- An ongoing dispense has an operation stored and no event waiting. -/
theorem Poised.of_ongoing (h : dispenser.Poised axis) (hongoing : dispenser.isOngoing = true) :
    dispenser.operation?.isSome = true ∧ dispenser.pending = none := by
  cases h with
  | inStep h => exact ⟨h.stored.trans hongoing, h.settled⟩
  | done _ hstored hsettled => exact ⟨hstored, hsettled⟩
  | ended hphase =>
    rw [isOngoing_eq_false.2 hphase] at hongoing
    cases hongoing

/-- The axis of an ongoing dispense is not homing when it is updated. -/
theorem Poised.state_ne_homing (h : dispenser.Poised axis) (hongoing : dispenser.isOngoing = true)
    (session : HomingSession) : axis.state ≠ .homing session := by
  cases h with
  | inStep h => exact (h.fits.cases hongoing).1 session
  | done _ _ _ hstate =>
    rw [hstate]
    exact AxisState.noConfusion
  | ended hphase =>
    rw [isOngoing_eq_false.2 hphase] at hongoing
    cases hongoing

variable [MotorChannel C]

theorem update_of_pending {done : DispenseEvent} (h : dispenser.pending = some done) :
    dispenser.update axis event = ({ dispenser with pending := none }, some done) := by
  simp only [update, h]

theorem update_of_idle (hpending : dispenser.pending = none) (hphase : dispenser.phase = .idle) :
    dispenser.update axis event = (dispenser, none) := by
  simp [update, hpending, isOngoing_eq_false.2 hphase]

theorem update_of_ongoing (hpending : dispenser.pending = none)
    (hongoing : dispenser.isOngoing = true) :
    dispenser.update axis event = dispenser.updateOperation axis event := by
  simp only [update, hpending, hongoing, if_true]

theorem isOngoing_update (h : dispenser.isOngoing = false) :
    (dispenser.update axis event).1.isOngoing = false := by
  have hphase := isOngoing_eq_false.1 h
  cases hp : dispenser.pending with
  | none => rw [update_of_idle hp hphase]; exact h
  | some done => rw [update_of_pending hp]; exact h

/-- The end of an operation that an event of its axis brings about. A stop only pauses it. -/
def ending? : AxisEvent → Option DispenseOutcome
  | .done => some .completed
  | .aborted => some .cancelled
  | .fault fault => some (.faulted fault)
  | .homed | .stopped => none

/-- An update reports the end that the event of the axis brings about, unless one has waited. -/
theorem ending_of_update {ended : DispenseEvent} (hpending : dispenser.pending = none)
    (hended : (dispenser.update axis event).2 = some ended) :
    ∃ cause, event = some cause ∧ ending? cause = some ended.outcome := by
  cases hongoing : dispenser.isOngoing with
  | false =>
    rw [update_of_idle hpending (isOngoing_eq_false.1 hongoing)] at hended
    cases hended
  | true =>
    rw [update_of_ongoing hpending hongoing] at hended
    cases event with
    | none =>
      cases hphase : dispenser.phase with
      | starting | resuming =>
        simp only [updateOperation, hphase] at hended
        split at hended <;> cases hended
      | idle | active | pausing | paused => simp [updateOperation, hphase] at hended
    | some cause =>
      refine ⟨cause, rfl, ?_⟩
      cases cause with
      | fault | aborted =>
        cases hended
        rfl
      | done =>
        cases hphase : dispenser.phase <;> simp [updateOperation, hphase] at hended
        all_goals
          cases hended
          rfl
      | homed | stopped =>
        cases hphase : dispenser.phase <;> simp [updateOperation, hphase] at hended

/-! ## The update of an ongoing operation -/

/-- What an update makes of an ongoing dispense: it goes on as it was, begins to count at the
origin of a move that has started, is paused where a move has ended, or ends. -/
inductive Takes (dispenser : Dispenser) (axis : Axis C) :
    Option AxisEvent → Dispenser × Option DispenseEvent → Prop where
  | stay (hfits : dispenser.phase.Fits axis.state) : Takes dispenser axis none (dispenser, none)
  | begin (hphase : dispenser.phase = .starting ∨ dispenser.phase = .resuming)
      (hstate : axis.state = .moving) :
      Takes dispenser axis none
        ({ dispenser.beginSegment axis.moveOrigin with phase := .active }, none)
  | pause {event : AxisEvent} (hphase : dispenser.phase ≠ .paused)
      (hstate : axis.state = .standby) :
      Takes dispenser axis (some event)
        ({ dispenser.fold axis.positionIncrements with phase := .paused }, none)
  | finish {event : AxisEvent} {outcome : DispenseOutcome} (hrest : axis.state.isBusy = false) :
      Takes dispenser axis (some event)
        ((dispenser.fold axis.positionIncrements).finalizeNow outcome)

namespace Takes

variable {result : Dispenser × Option DispenseEvent}

theorem isOngoing_finish {outcome : DispenseOutcome} {folded : Dispenser} :
    (folded.finalizeNow outcome).1.isOngoing = false :=
  isOngoing_eq_false.2 (finalize_idle outcome folded).1

/-- An update brings an ongoing dispense and its axis in step again. -/
theorem inStep (h : dispenser.Takes axis event result) (hongoing : dispenser.isOngoing = true)
    (hstored : dispenser.operation?.isSome = true) (hsettled : dispenser.pending = none) :
    result.1.InStep axis := by
  cases h with
  | stay hfits => exact ⟨hfits, hstored.trans hongoing.symm, hsettled⟩
  | begin hphase hstate =>
    refine ⟨hstate, ?_, hsettled⟩
    rw [beginSegment, Option.isSome_map, hstored]
    rfl
  | pause hphase hstate =>
    refine ⟨hstate, ?_, hsettled⟩
    rw [fold, Option.isSome_map, hstored]
    rfl
  | @finish event outcome hrest =>
    obtain ⟨hphase, hnone, hpending⟩ :=
      finalize_idle outcome (dispenser.fold axis.positionIncrements)
    exact inStep_of_idle hphase hnone (hpending.trans hsettled)

/-- The operation goes on, or its end is reported. -/
theorem reported (h : dispenser.Takes axis event result) (hongoing : dispenser.isOngoing = true) :
    result.2.isSome = !result.1.isOngoing := by
  cases h with
  | stay => rw [hongoing]; rfl
  | begin | pause => rfl
  | finish => rw [isOngoing_finish]; rfl

/-- The axis rests when the operation has ended. -/
theorem atRest (h : dispenser.Takes axis event result) (hongoing : dispenser.isOngoing = true)
    (hended : result.1.isOngoing = false) : axis.state.isBusy = false := by
  cases h with
  | stay => rw [hongoing] at hended; cases hended
  | begin | pause => cases hended
  | finish hrest => exact hrest

/-- An event of the axis ends the operation or pauses it. -/
theorem taken (h : dispenser.Takes axis event result) (hevent : event.isSome = true) :
    result.2.isSome = true ∨ result.1.phase = .paused ∧ dispenser.phase ≠ .paused := by
  cases h with
  | stay | begin => cases hevent
  | pause hphase => exact .inr ⟨rfl, hphase⟩
  | finish => exact .inl rfl

end Takes

/-- The update of an ongoing operation, after a step of the axis that it was in step with. -/
theorem updateOperation_takes {state : AxisState} (hfits : dispenser.phase.Fits state)
    (hongoing : dispenser.isOngoing = true) (hstep : state.Step event axis.state) :
    dispenser.Takes axis event (dispenser.updateOperation axis event) := by
  generalize hafter : axis.state = after at hstep
  -- the phase tells which state the step has started from, and the step which event there is
  cases hphase : dispenser.phase with
  | idle => rw [isOngoing_eq_false.2 hphase] at hongoing; cases hongoing
  | starting | resuming =>
    rw [hphase] at hfits
    obtain ⟨since, rfl⟩ := hfits
    have hstart : dispenser.phase = .starting ∨ dispenser.phase = .resuming := by simp [hphase]
    cases hstep with
    | wait =>
      have hfits : dispenser.phase.Fits axis.state := by rw [hphase, hafter]; exact ⟨since, rfl⟩
      simpa [updateOperation, hphase, hafter] using Takes.stay hfits
    | start => simpa [updateOperation, hphase, hafter] using Takes.begin hstart hafter
    | giveUp =>
      simpa [updateOperation, hphase] using Takes.pause (by rw [hphase]; nofun) hafter
    | fail fault _ hrest =>
      simpa [updateOperation, hphase] using Takes.finish (hafter ▸ hrest)
    | hardware =>
      simpa [updateOperation, hphase] using Takes.finish (by rw [hafter]; rfl)
  | active | pausing =>
    rw [hphase] at hfits
    subst hfits
    have hnot : dispenser.phase ≠ .paused := by rw [hphase]; nofun
    have hrun : dispenser.phase = .active ∨ dispenser.phase = .pausing := by simp [hphase]
    cases hstep with
    | travel =>
      have hfits : dispenser.phase.Fits axis.state := by rw [hphase, hafter]; rfl
      simpa [updateOperation, hphase] using Takes.stay hfits
    | arrive =>
      -- a move that arrives while it is being stopped has nothing left, and is paused all the same
      rcases hrun with hphase | hphase
      · simpa [updateOperation, hphase] using Takes.finish (by rw [hafter]; rfl)
      · simpa [updateOperation, hphase] using Takes.pause hnot hafter
    | stop => simpa [updateOperation, hphase] using Takes.pause hnot hafter
    | fail fault _ hrest =>
      simpa [updateOperation, hphase] using Takes.finish (hafter ▸ hrest)
    | hardware =>
      simpa [updateOperation, hphase] using Takes.finish (by rw [hafter]; rfl)
  | paused =>
    rw [hphase] at hfits
    subst hfits
    cases hstep with
    | rest =>
      have hfits : dispenser.phase.Fits axis.state := by rw [hphase, hafter]; rfl
      simpa [updateOperation, hphase] using Takes.stay hfits
    | fail fault hbefore => cases hbefore
    | hardware =>
      simpa [updateOperation, hphase] using Takes.finish (by rw [hafter]; rfl)

/-- The update of an ongoing dispense, right after the update of its axis. -/
theorem Poised.takes (h : dispenser.Poised axis) (hongoing : dispenser.isOngoing = true)
    (now : Nat) :
    dispenser.Takes (axis.update now).1 (axis.update now).2
      (dispenser.update (axis.update now).1 (axis.update now).2) := by
  cases h with
  | inStep h hpending =>
    rw [update_of_ongoing h.settled hongoing]
    exact updateOperation_takes h.fits hongoing (Axis.update_step now (hpending hongoing)).step
  | done hphase hstored hsettled hstate hpending =>
    rw [update_of_ongoing hsettled hongoing, Axis.update_of_pending hpending]
    -- the axis takes no step, as it only reports what the command has left
    have hrest : ({ axis.sampleEffort with pending := none } : Axis C).state.isBusy = false := by
      show axis.state.isBusy = false
      rw [hstate]
      rfl
    rcases hphase with hphase | hphase <;>
      simpa [updateOperation, hphase] using Takes.finish hrest
  | ended hphase =>
    rw [isOngoing_eq_false.2 hphase] at hongoing
    cases hongoing

/-- The axis of an ongoing dispense has not been aborted when it is updated. -/
theorem Poised.event_ne_aborted (h : dispenser.Poised axis) (hongoing : dispenser.isOngoing = true)
    (now : Nat) : (axis.update now).2 ≠ some .aborted := by
  cases h with
  | inStep h hpending =>
    have hstep := (Axis.update_step now (hpending hongoing)).step
    intro haborted
    rw [haborted] at hstep
    generalize axis.state = before at hstep
    generalize (axis.update now).1.state = after at hstep
    cases hstep
  | done hphase hstored hsettled hstate hpending =>
    rw [Axis.update_of_pending hpending]
    nofun
  | ended hphase =>
    rw [isOngoing_eq_false.2 hphase] at hongoing
    cases hongoing

/-- Only a command cancels an ongoing dispense. -/
theorem Poised.not_cancelled (h : dispenser.Poised axis) (hongoing : dispenser.isOngoing = true)
    (now : Nat) {ended : DispenseEvent}
    (hended : (dispenser.update (axis.update now).1 (axis.update now).2).2 = some ended) :
    ended.outcome ≠ .cancelled := by
  obtain ⟨cause, hcause, hending⟩ := ending_of_update (h.of_ongoing hongoing).2 hended
  intro hcancelled
  rw [hcancelled] at hending
  have haborted : cause = .aborted := by
    cases cause <;> first | rfl | cases hending
  exact h.event_ne_aborted hongoing now (haborted ▸ hcause)

/-- **An update brings a dispense and its axis in step again.** -/
theorem Poised.update_inStep (h : dispenser.Poised axis) (now : Nat) :
    (dispenser.update (axis.update now).1 (axis.update now).2).1.InStep (axis.update now).1 := by
  cases hongoing : dispenser.isOngoing with
  | true =>
    obtain ⟨hstored, hsettled⟩ := h.of_ongoing hongoing
    exact (h.takes hongoing now).inStep hongoing hstored hsettled
  | false =>
    have hphase := isOngoing_eq_false.1 hongoing
    cases h with
    | inStep h =>
      rw [update_of_idle h.settled hphase]
      refine inStep_of_idle hphase ?_ h.settled
      simpa [hongoing] using h.stored
    | done h => rcases h with h | h <;> rw [hphase] at h <;> cases h
    | ended _ hstored hpending =>
      -- the event that the command has left is reported, and the dispense stays idle
      obtain ⟨done, hdone⟩ := Option.isSome_iff_exists.1 hpending
      rw [update_of_pending hdone]
      exact inStep_of_idle hphase hstored rfl

end Dispenser

end MotionControl
