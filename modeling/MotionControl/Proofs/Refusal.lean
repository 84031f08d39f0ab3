import MotionControl.Motor.Scripted
import MotionControl.Proofs.Machine.Command

/-!
# A refused command has no effect

Every command makes all of its tests before its first change, through the calls from the machine
to the dispense and from there to the axis.

* `Axis.tryMoveIncrements_atomic` and so on: each command of an axis is atomic.
* `Dispenser.tryResume_atomic` and so on: so is each command of a dispense, with the axis in it.
* `Machine.handle_atomic`: so is every command of a machine.
* `refused_unchanged`: **a refused command leaves all that it is given to as it was**, and a tick
  that refuses its command is a tick without one.
-/

namespace MotionControl

open Attempt

variable {C : Type}

/-! ## Axes -/

namespace Axis

theorem requireReady_isTest : IsTest (requireReady : Attempt (Axis C) Unit) := by
  refine .bind .get fun axis => ?_
  cases axis.state.refusal? with
  | none => exact .pure ()
  | some refusal => exact .throw refusal

theorem requireHomed_isTest : IsTest (requireHomed : Attempt (Axis C) Unit) :=
  .bind .get fun _ => .require _ _

variable [MotorChannel C]

theorem requireEnabled_isTest : IsTest (requireEnabled : Attempt (Axis C) Unit) :=
  .bind .get fun _ => .require _ _

theorem tryMoveTo_atomic {request : MoveRequest} {now : Nat} :
    Atomic (tryMoveTo request now : Attempt (Axis C) Unit) := by
  refine .bind requireReady_isTest fun _ => .bind (.require _ _) fun _ => ?_
  refine .bind requireEnabled_isTest fun _ => .bind requireHomed_isTest fun _ => ?_
  exact .bind .get fun _ => .bind (.require _ _) fun _ => (Always.modify _).atomic

theorem tryMoveIncrements_atomic {increments : Int} {velocity accel torque : Single} {now : Nat} :
    Atomic (tryMoveIncrements increments velocity accel torque now : Attempt (Axis C) Unit) := by
  refine .bind requireReady_isTest fun _ => .bind (.require _ _) fun _ => ?_
  refine .bind requireEnabled_isTest fun _ => .bind requireHomed_isTest fun _ => ?_
  exact .bind .get fun _ => .bind (.require _ _) fun _ => (Always.modify _).atomic

theorem tryHome_atomic {maxTravel torque : Single} {now : Nat} :
    Atomic (tryHome maxTravel torque now : Attempt (Axis C) Unit) := by
  refine .bind requireReady_isTest fun _ => .bind (.require _ _) fun _ => ?_
  exact .bind requireEnabled_isTest fun _ => (Always.modify _).atomic

theorem tryStopDecelerated_atomic : Atomic (tryStopDecelerated : Attempt (Axis C) Unit) :=
  .bind .get fun _ => .bind (.require _ _) fun _ => (Always.modify _).atomic

theorem tryClearFault_atomic : Atomic (tryClearFault : Attempt (Axis C) Unit) := by
  refine .bind .get fun axis => ?_
  cases axis.state.isFault with
  | true => exact .bind .get fun _ => .bind (.require _ _) fun _ => (Always.modify _).atomic
  | false => exact (IsTest.pure ()).1

end Axis

/-! ## Dispenses -/

namespace Dispenser

theorem onAxis_atomic {attempt : Attempt (Axis C) Unit} (h : Atomic attempt) :
    Atomic (onAxis attempt) :=
  h.onPart fun _ => rfl

theorem change_always (f : Dispenser → Dispenser) :
    Always (change f : Attempt (Dispenser × Axis C) Unit) :=
  .modify _

theorem trySetStepsPerVolume_atomic {factor : Single} : Atomic (trySetStepsPerVolume factor) :=
  .bind .get fun _ => .bind (.require _ _) fun _ => .bind (.require _ _) fun _ =>
    (Always.modify _).atomic

variable [MotorChannel C]

/-- The axis refuses before the dispense has taken down the new operation. -/
theorem tryStart_atomic {request : DispenseRequest} {now : Nat} :
    Atomic (tryStart request now : Attempt (Dispenser × Axis C) Unit) := by
  refine .bind .get fun _ => .bind (.require _ _) fun _ => .bind (.require _ _) fun _ => ?_
  refine .bind (.require _ _) fun _ => ?_
  exact (onAxis_atomic Axis.tryMoveIncrements_atomic).bind_always fun _ => change_always _

theorem tryPause_atomic : Atomic (tryPause : Attempt (Dispenser × Axis C) Unit) :=
  .bind .get fun _ => .bind (.require _ _) fun _ =>
    (onAxis_atomic Axis.tryStopDecelerated_atomic).bind_always fun _ => change_always _

/-- The axis refuses before the segment of the operation has been begun anew. -/
theorem tryResume_atomic {now : Nat} :
    Atomic (tryResume now : Attempt (Dispenser × Axis C) Unit) := by
  refine .bind .get fun (dispenser, axis) => .bind (.require _ _) fun _ => ?_
  split
  · exact (IsTest.throw _).1
  · split
    · exact (change_always _).atomic
    · exact (onAxis_atomic Axis.tryMoveIncrements_atomic).bind_always fun _ =>
        change_always _

theorem tryCancel_atomic : Atomic (tryCancel : Attempt (Dispenser × Axis C) Unit) := by
  refine .bind .get fun _ => .bind (.require _ _) fun _ => ?_
  -- the axis is aborted, which is never refused, so what follows only has to be never refused
  refine (onAxis_atomic (Always.modify _).atomic).bind_always fun _ => ?_
  intro state refusal state' h
  rcases run_bind_error.1 h with h | ⟨_, _, -, h⟩ <;> cases h

end Dispenser

/-! ## Machines -/

namespace Machine

theorem lookup_isTest (name : Label) : IsTest (lookup name : Attempt (Machine C) Nat) := by
  refine .bind .get fun machine => ?_
  cases machine.axes.findIdx? (·.settings.name.text == name.text) with
  | none => exact .throw _
  | some index => exact .pure index

theorem onAxis_atomic (index : Nat) {attempt : Attempt (Axis C) Unit} (h : Atomic attempt) :
    Atomic (onAxis index attempt) := by
  intro machine refusal machine' hr
  rcases run_bind_error.1 hr with hr | ⟨_, _, hget, hr⟩
  · cases hr
  cases hget
  cases ha : machine.axes[index]? with
  | none => simp only [ha] at hr; cases hr; rfl
  | some axis =>
    simp only [ha] at hr
    obtain ⟨axis', hax, rfl⟩ := run_onPart_error.1 hr
    rw [h _ _ _ hax, modifyAxis_self ha]

theorem onDispense_atomic {attempt : Attempt (Dispenser × Axis C) Unit} (h : Atomic attempt) :
    Atomic (onDispense attempt) := by
  intro machine refusal machine' hr
  rcases run_bind_error.1 hr with hr | ⟨_, _, hget, hr⟩
  · cases hr
  cases hget
  cases hs : machine.dispense with
  | none => simp only [hs] at hr; cases hr; rfl
  | some station =>
    simp only [hs] at hr
    rcases run_bind_error.1 hr with hr | ⟨_, _, hget, hr⟩
    · cases hr
    cases hget
    cases ha : machine.axes[station.axisIndex]? with
    | none => simp only [ha] at hr; cases hr; rfl
    | some axis =>
      simp only [ha] at hr
      obtain ⟨⟨dispenser, axis'⟩, hpair, rfl⟩ := run_onPart_error.1 hr
      cases h _ _ _ hpair
      show { machine.modifyAxis station.axisIndex (fun _ => axis) with dispense := some station } =
        machine
      rw [modifyAxis_self ha, ← hs]

/-- A command that is never refused is not refused to an axis that is there. -/
theorem onAxis_always {index : Nat} {attempt : Attempt (Axis C) Unit} (h : Always attempt)
    {machine machine' : Machine C} {refusal : Refusal} (hindex : index < machine.axes.length) :
    (onAxis index attempt).run machine ≠ .error refusal machine' := by
  intro hr
  rcases run_bind_error.1 hr with hr | ⟨_, _, hget, hr⟩
  · cases hr
  cases hget
  simp only [List.getElem?_eq_getElem hindex] at hr
  obtain ⟨_, hax, -⟩ := run_onPart_error.1 hr
  exact h _ _ _ hax

variable [MotorChannel C]

/-- **A refused command leaves the machine as it was.** -/
theorem handle_atomic (command : Command) (now : Nat) :
    Atomic (handle command now : Attempt (Machine C) Unit) := by
  have started {name attempt} (h : Atomic attempt) :
      Atomic (startOnAxis name attempt : Attempt (Machine C) Unit) :=
    .bind (lookup_isTest name) fun index => .bind .get fun _ => .bind (.require _ _) fun _ =>
      onAxis_atomic index h
  cases command with
  | move name request => exact started Axis.tryMoveTo_atomic
  | home name maxTravel torque => exact started Axis.tryHome_atomic
  | abort name =>
    refine .bind (lookup_isTest name) fun index => .bind .get fun machine => ?_
    split
    · exact onDispense_atomic Dispenser.tryCancel_atomic
    · exact onAxis_atomic index (Always.modify _).atomic
  | enable name =>
    exact .bind (lookup_isTest name) fun index => onAxis_atomic index (Always.modify _).atomic
  | disable name =>
    intro machine refusal machine' hr
    rcases run_bind_error.1 hr with hr | ⟨index, _, hfound, hr⟩
    · exact (lookup_isTest name).1 _ _ _ hr
    obtain ⟨hindex, rfl⟩ := lookup_ok.1 hfound
    rcases run_bind_error.1 hr with hr | ⟨_, _, hget, hr⟩
    · cases hr
    cases hget
    split at hr
    · rcases run_bind_error.1 hr with hr | ⟨_, _, hcancel, hr⟩
      · exact onDispense_atomic Dispenser.tryCancel_atomic _ _ _ hr
      -- the cancel may not be taken back, but the axis is still there to be disabled
      refine absurd hr (onAxis_always (.modify _) ?_)
      obtain ⟨_, _, _, _, -, -, -, rfl⟩ := run_onDispense_ok.1 hcancel
      simpa using (List.findIdx?_eq_some_iff_getElem.1 hindex).1
    · exact onAxis_atomic index (Always.modify _).atomic _ _ _ hr
  | clearFault name =>
    exact .bind (lookup_isTest name) fun index => onAxis_atomic index Axis.tryClearFault_atomic
  | dispense request => exact onDispense_atomic Dispenser.tryStart_atomic
  | pause => exact onDispense_atomic Dispenser.tryPause_atomic
  | resume => exact onDispense_atomic Dispenser.tryResume_atomic
  | cancel => exact onDispense_atomic Dispenser.tryCancel_atomic
  | status => exact (Always.modify _).atomic

/-- A machine goes into the updates of a tick as it was if its command is refused. -/
theorem accept_refused {machine : Machine C} {command : Command} {now : Nat} {refusal : Refusal}
    (h : (machine.accept (some command) now).2 = some (.error refusal)) :
    (machine.accept (some command) now).1 = machine := by
  unfold accept at h ⊢
  cases hr : (handle command now).run machine with
  | ok _ machine' => simp [hr] at h
  | error _ machine' => simpa [hr] using handle_atomic command now _ _ _ hr

/-- A tick that refuses its command differs from a tick without one in the answer only. -/
theorem tick_refused {machine : Machine C} {command : Command} {now : Nat} {refusal : Refusal}
    (h : (machine.tick now (some command)).2.reply = some (.error refusal)) :
    (machine.tick now (some command)).1 = (machine.tick now none).1 ∧
      (machine.tick now (some command)).2.events = (machine.tick now none).2.events ∧
      (machine.tick now (some command)).2.telemetryDue =
        (machine.tick now none).2.telemetryDue := by
  have hsame : (machine.accept (some command) now).1 = machine := accept_refused h
  simp only [tick, hsame]
  exact ⟨rfl, rfl, rfl⟩

end Machine

variable [MotorChannel C]

/-- **A refused command has no effect.** A machine that refuses a command is the machine it was, so
the tick goes on as one without a command: it leads to the same machine, with the same events and
the same demand for status. The commands that are called directly on an axis or on a dispense have
no effect either when they are refused. -/
theorem refused_unchanged :
    (∀ (command : Command) (now : Nat),
        Atomic (Machine.handle command now : Attempt (Machine C) Unit)) ∧
      (∀ (machine : Machine C) (command : Command) (now : Nat) (refusal : Refusal),
        (machine.tick now (some command)).2.reply = some (.error refusal) →
          (machine.tick now (some command)).1 = (machine.tick now none).1 ∧
            (machine.tick now (some command)).2.events = (machine.tick now none).2.events ∧
            (machine.tick now (some command)).2.telemetryDue =
              (machine.tick now none).2.telemetryDue) ∧
      (∀ (request : MoveRequest) (now : Nat),
        Atomic (Axis.tryMoveTo request now : Attempt (Axis C) Unit)) ∧
      (∀ (increments : Int) (velocity accel torque : Single) (now : Nat),
        Atomic (Axis.tryMoveIncrements increments velocity accel torque now :
          Attempt (Axis C) Unit)) ∧
      (∀ (maxTravel torque : Single) (now : Nat),
        Atomic (Axis.tryHome maxTravel torque now : Attempt (Axis C) Unit)) ∧
      Atomic (Axis.tryStopDecelerated : Attempt (Axis C) Unit) ∧
      Atomic (Axis.tryClearFault : Attempt (Axis C) Unit) ∧
      (∀ (request : DispenseRequest) (now : Nat),
        Atomic (Dispenser.tryStart request now : Attempt (Dispenser × Axis C) Unit)) ∧
      Atomic (Dispenser.tryPause : Attempt (Dispenser × Axis C) Unit) ∧
      (∀ now : Nat, Atomic (Dispenser.tryResume now : Attempt (Dispenser × Axis C) Unit)) ∧
      Atomic (Dispenser.tryCancel : Attempt (Dispenser × Axis C) Unit) ∧
      ∀ factor : Single, Atomic (Dispenser.trySetStepsPerVolume factor) := by
  refine ⟨Machine.handle_atomic, fun _ _ _ _ h => Machine.tick_refused h, ?axis⟩
  refine ⟨fun _ _ => Axis.tryMoveTo_atomic, fun _ _ _ _ _ => Axis.tryMoveIncrements_atomic,
    fun _ _ _ => Axis.tryHome_atomic, Axis.tryStopDecelerated_atomic,
    Axis.tryClearFault_atomic, ?dispense⟩
  exact ⟨fun _ _ => Dispenser.tryStart_atomic, Dispenser.tryPause_atomic,
    fun _ => Dispenser.tryResume_atomic, Dispenser.tryCancel_atomic,
    fun _ => Dispenser.trySetStepsPerVolume_atomic⟩

/-- A machine with a paused dispense whose motor has been released. -/
def releasedWhilePaused : Machine ScriptedChannel where
  axes :=
    [{ settings := {}, channels := [{ enabled := false }], isHomed := true, origins := [0]
       monitor := .ofCount 1 1 }]
  dispense := some
    { axisIndex := 0
      dispenser :=
        { settings := {}, phase := .paused
          operation? := some
            { kind := .inject, targetVolume := 1, stepsPerVolume := 800, direction := 1
              total := 800, startPosition := 0, velocity := 800, accel := 800, torque := 50 } } }
  telemetryInterval := 250

/-- A resume that the axis refuses, as its motor is released, leaves the operation paused. -/
theorem resume_refused_released :
    (releasedWhilePaused.tick 5 (some .resume)).2.reply = some (.error .axisDisabled) ∧
      (releasedWhilePaused.tick 5 (some .resume)).1 = (releasedWhilePaused.tick 5 none).1 := by
  have h : (releasedWhilePaused.tick 5 (some .resume)).2.reply = some (.error .axisDisabled) := by
    rfl
  exact ⟨h, (refused_unchanged.2.1 releasedWhilePaused .resume 5 .axisDisabled h).1⟩

end MotionControl
