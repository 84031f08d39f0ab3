import MotionControl.Proofs.Axis.Run

/-!
# The reference and the faults of an axis

* `Step.isHomed_iff`: what an act makes of the reference.
* `Step.of_fault`: what an act makes of an axis in a fault.
* `update_latches`: what an update makes of a fault bit.
-/

namespace MotionControl

variable {C : Type} [MotorChannel C]

/-! ## The reference -/

namespace Axis

section

variable {axis next : Axis C} {now : Nat} {event : Option AxisEvent}

theorem isHomed_endDestress (state : AxisState) (axis : Axis C) :
    (axis.endDestress state).isHomed = axis.isHomed := by
  unfold endDestress
  split <;> rfl

theorem isHomed_abort (axis : Axis C) : axis.abort.isHomed = axis.isHomed := by
  unfold abort
  dsimp only
  split
  · exact isHomed_endDestress ..
  · rfl

/-- No call changes the reference. -/
theorem CallCase.isHomed_eq {call : AxisCall} (h : axis.CallCase call next) :
    next.isHomed = axis.isHomed := by
  cases h with
  | move =>
    unfold issue
    dsimp only
    split <;> rfl
  | home | stop | clear | unfaulted | discard | enable => rfl
  | abort | disable => exact isHomed_abort axis

theorem HomingCase.isHomed_iff {session : HomingSession}
    (h : axis.HomingCase session now next event) :
    next.isHomed = true ↔
      event = some .homed ∨ axis.isHomed = true ∧ event ≠ some (.fault .hardware) := by
  cases h with
  | @fail channels next fault hwalked hphase hfault =>
    have hsame : ({ axis with channels }.failHoming next fault).1.isHomed = axis.isHomed :=
      isHomed_endDestress ..
    simp [hsame, hfault]
  | wait | start | depart | seek | find | retreat | release => simp [startLeg, continueHoming,
      applyTorqueLimit, recordOrigins, mapChannels, setAllEnabled]
  | zero | settle => simp

theorem UpdateCase.isHomed_iff (h : axis.UpdateCase now next event)
    (hpending : ∀ event, axis.pending = some event → event = .done ∨ event = .aborted) :
    next.isHomed = true ↔
      event = some .homed ∨ axis.isHomed = true ∧ event ≠ some (.fault .hardware) := by
  have hsampled : axis.sampleEffort.isHomed = axis.isHomed := rfl
  cases h with
  | report hreport => rcases hpending _ hreport with rfl | rfl <;> simp [hsampled]
  | hardware => simp [latchHardwareFault]
  | rest | go | depart | giveUp => simp [hsampled]
  | fail hnone hstate hfault => simp [failMove, stopAll, mapChannels, hfault, hsampled]
  | arrive hnone hstate hfree hrest hevent =>
    split at hevent <;> subst hevent <;> simp [hsampled]
  | homing hnone hstate hcase => exact hcase.isHomed_iff

/-- **An axis is referenced by a homing run** and stays so until a drive reports a fault bit. -/
theorem Step.isHomed_iff {act : AxisAct C} {call? : Option AxisCall}
    (h : axis.Step act next event call?) (hsound : axis.IsSound) :
    next.isHomed = true ↔
      event = some .homed ∨ axis.isHomed = true ∧ event ≠ some (.fault .hardware) := by
  cases h with
  | sense feedback =>
    have hsame : (axis.sense feedback).isHomed = axis.isHomed := rfl
    simp [hsame]
  | refuse => simp
  | accept hcase => simp [hcase.isHomed_eq]
  | update now => exact (axis.update_case now).isHomed_iff hsound.pending

/-! ## Faults -/

/-- An update of an axis in a fault reports at most an event that waits. -/
theorem UpdateCase.of_fault {fault : Fault} (h : axis.UpdateCase now next event)
    (hfault : axis.state = .fault fault) :
    next.state = axis.state ∧ next.isHomed = axis.isHomed := by
  cases h with
  | report | rest => exact ⟨rfl, rfl⟩
  | hardware hpending hstate | go hpending hstate | fail hpending hstate =>
    rw [hfault] at hstate
    cases hstate
  | depart hpending hstate | giveUp hpending hstate | arrive hpending hstate
  | homing hpending hstate =>
    rw [hfault] at hstate
    cases hstate

theorem abort_state_of_fault {fault : Fault} (hfault : axis.state = .fault fault) :
    axis.abort.state = axis.state := by
  rcases axis.abort_cases with ⟨hbusy, -, -⟩ | ⟨-, hstate, -⟩
  · rw [hfault] at hbusy
    cases hbusy
  · exact hstate

theorem CallCase.of_fault {call : AxisCall} {fault : Fault} (h : axis.CallCase call next)
    (hfault : axis.state = .fault fault) :
    next.state = axis.state ∨
      call = .clearFault ∧ axis.anyFault = false ∧ next.state = .standby := by
  cases h with
  | move hcall hstate | home hstate | stop hstate =>
    rw [hfault] at hstate
    cases hstate
  | clear hstate hfree => exact .inr ⟨rfl, hfree, rfl⟩
  | unfaulted | discard | enable => exact .inl rfl
  | abort | disable => exact .inl (abort_state_of_fault hfault)

/-- **A fault is left only by a call that clears it**, made while no drive reports a fault bit. -/
theorem Step.of_fault {act : AxisAct C} {call? : Option AxisCall} {fault : Fault}
    (h : axis.Step act next event call?) (hfault : axis.state = .fault fault) :
    next.isHomed = axis.isHomed ∧
      (next.state = axis.state ∨
        call? = some .clearFault ∧ axis.anyFault = false ∧ next.state = .standby) := by
  cases h with
  | sense | refuse => exact ⟨rfl, .inl rfl⟩
  | accept hcase =>
    refine ⟨hcase.isHomed_eq, ?_⟩
    rcases hcase.of_fault hfault with hsame | ⟨rfl, hfree, hstate⟩
    · exact .inl hsame
    · exact .inr ⟨rfl, hfree, hstate⟩
  | update now =>
    obtain ⟨hstate, hhomed⟩ := (axis.update_case now).of_fault hfault
    exact ⟨hhomed, .inl hstate⟩

theorem update_of_fault_bit (now : Nat) (hpending : axis.pending = none)
    (hstate : axis.state.isFault = false) (hbit : axis.anyFault = true) :
    axis.update now = axis.sampleEffort.latchHardwareFault := by
  have hpending : axis.sampleEffort.pending = none := hpending
  have hstate : axis.sampleEffort.state.isFault = false := hstate
  have hbit : axis.sampleEffort.anyFault = true := hbit
  simp [update, hpending, hstate, hbit]

/-- **An update latches a fault bit**, unless it has an event to report or another fault has been
latched before. -/
theorem update_latches (now : Nat) (hpending : axis.pending = none)
    (hbit : axis.anyFault = true) :
    (axis.state.isFault = false ∧ (axis.update now).1.state = .fault .hardware ∧
        (axis.update now).1.isHomed = false) ∨
      ∃ fault, axis.state = .fault fault ∧ (axis.update now).1.state = .fault fault ∧
        (axis.update now).1.isHomed = axis.isHomed := by
  cases hstate : axis.state with
  | fault fault =>
    obtain ⟨hsame, hhomed⟩ := (axis.update_case now).of_fault hstate
    exact .inr ⟨fault, rfl, hsame.trans hstate, hhomed⟩
  | standby | startingMove | moving | homing =>
    have hfree : axis.state.isFault = false := by rw [hstate]; rfl
    rw [update_of_fault_bit now hpending hfree hbit]
    exact .inl ⟨rfl, rfl, rfl⟩

end

end Axis

end MotionControl
