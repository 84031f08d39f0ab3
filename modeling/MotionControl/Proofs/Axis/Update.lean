import MotionControl.Proofs.Axis.Outcome

/-!
# What one update makes of an axis

* `update_of_free` and the like: the update of an operation that no fault bit ends.
* `AxisState.Step`: the transitions of the state, each with the event that it reports.
* `update_step`: an update without a pending event takes one of them.
* `update_keeps`: outside of homing an update commands nothing of the channels but a stop.
-/

namespace MotionControl

/-- What one update makes of a state, with the event that it reports. -/
inductive AxisState.Step : AxisState → Option AxisEvent → AxisState → Prop where
  | rest : Step .standby none .standby
  | latched (fault : Fault) : Step (.fault fault) none (.fault fault)
  /-- The move has not started. -/
  | wait (since : Nat) : Step (.startingMove since) none (.startingMove since)
  | start (since : Nat) : Step (.startingMove since) none .moving
  | travel : Step .moving none .moving
  | search (session next : HomingSession) : Step (.homing session) none (.homing next)
  /-- A stop came before the move had started. -/
  | giveUp (since : Nat) : Step (.startingMove since) (some .stopped) .standby
  | arrive : Step .moving (some .done) .standby
  | stop : Step .moving (some .stopped) .standby
  | reference (session : HomingSession) : Step (.homing session) (some .homed) .standby
  /-- An operation fails. -/
  | fail {before after : AxisState} (fault : Fault) (hbefore : before.isBusy = true)
      (hafter : after.isBusy = false) : Step before (some (.fault fault)) after
  /-- A drive reports a fault bit. -/
  | hardware {before : AxisState} (hbefore : before.isFault = false) :
      Step before (some (.fault .hardware)) (.fault .hardware)

namespace Axis

variable {C : Type} {axis : Axis C} {now : Nat}

/-- An outcome of an update of `axis`: the settings and the pending event stay, and the state makes
a step. -/
structure Follows (axis : Axis C) (result : Axis C × Option AxisEvent) : Prop where
  settings : result.1.settings = axis.settings
  pending : result.1.pending = axis.pending
  step : axis.state.Step result.2 result.1.state

variable [MotorChannel C] {next : Axis C} {event : Option AxisEvent}

/-! ## Updates without a fault bit -/

/-- Without a new fault bit, an update without a pending event goes on with the operation. -/
theorem update_of_free (hpending : axis.pending = none)
    (hfree : axis.state.isFault = true ∨ axis.anyFault = false) :
    axis.update now = axis.sampleEffort.updateState now := by
  have hpending : axis.sampleEffort.pending = none := hpending
  have hfree : axis.sampleEffort.state.isFault = true ∨ axis.sampleEffort.anyFault = false := hfree
  rcases hfree with hlatched | hfree
  · simp only [update, hpending, hlatched, Bool.not_true, Bool.false_and, Bool.false_eq_true,
      if_false]
  · simp only [update, hpending, hfree, Bool.and_false, Bool.false_eq_true, if_false]

theorem update_of_starting {since : Nat} (hpending : axis.pending = none)
    (hstate : axis.state = .startingMove since) (hfree : axis.anyFault = false) :
    axis.update now = axis.sampleEffort.updateStarting since now := by
  have hstate : axis.sampleEffort.state = .startingMove since := hstate
  rw [update_of_free hpending (.inr hfree), updateState, hstate]

theorem update_of_homing {session : HomingSession} (hpending : axis.pending = none)
    (hstate : axis.state = .homing session) (hfree : axis.anyFault = false) :
    axis.update now = axis.sampleEffort.updateHoming session now := by
  have hstate : axis.sampleEffort.state = .homing session := hstate
  rw [update_of_free hpending (.inr hfree), updateState, hstate]

/-! ## The state -/

/-- An update of a homing run takes it further, or ends it. -/
theorem HomingCase.follows {session : HomingSession} (h : axis.HomingCase session now next event)
    (hstate : axis.state = .homing session) : axis.Follows (next, event) := by
  cases h with
  | @fail channels failed fault =>
    unfold failHoming endDestress
    split <;> exact ⟨rfl, rfl, hstate ▸ .fail fault rfl rfl⟩
  | wait | start | depart | seek | find | retreat | release =>
    exact ⟨rfl, rfl, hstate ▸ .search session _⟩
  | zero | settle => exact ⟨rfl, rfl, hstate ▸ .reference session⟩

/-- An update without an event to report takes a step of the state. -/
theorem UpdateCase.follows (h : axis.UpdateCase now next event) (hpending : axis.pending = none) :
    axis.Follows (next, event) := by
  have hsame : axis.sampleEffort.state = axis.state := rfl
  cases h with
  | report hreport =>
    rw [hpending] at hreport
    cases hreport
  | hardware _ hfree =>
    unfold latchHardwareFault endDestress
    split <;> exact ⟨rfl, rfl, .hardware hfree⟩
  | rest _ hidle =>
    refine ⟨rfl, rfl, ?_⟩
    rw [hsame]
    cases hstate : axis.state with
    | standby => exact .rest
    | fault fault => exact .latched fault
    | startingMove | moving | homing =>
      rw [hstate] at hidle
      cases hidle
  | go _ hmoving =>
    refine ⟨rfl, rfl, ?_⟩
    rw [hsame]
    cases hstate : axis.state with
    | startingMove since => exact .wait since
    | moving => exact .travel
    | standby | homing | fault =>
      rw [hstate] at hmoving
      cases hmoving
  | depart _ hstate => exact ⟨rfl, rfl, hstate ▸ .start _⟩
  | giveUp _ hstate => exact ⟨rfl, rfl, hstate ▸ .giveUp _⟩
  | @fail fault _ hmoving =>
    refine ⟨rfl, rfl, .fail fault (AxisState.isBusy_of_isMoving hmoving) ?_⟩
    simp only [failMove]
    split <;> rfl
  | arrive _ hstate _ _ hevent =>
    refine ⟨rfl, rfl, ?_⟩
    rw [hstate, hevent]
    split
    · exact .stop
    · exact .arrive
  | homing _ hstate hcase =>
    obtain ⟨hsettings, hpend, hstep⟩ := hcase.follows hstate
    exact ⟨hsettings, hpend, hstep⟩

/-- **An update without a pending event takes a step** of the state. -/
theorem update_step (now : Nat) (h : axis.pending = none) : axis.Follows (axis.update now) :=
  (axis.update_case now).follows h

/-- No event is pending after an update. -/
theorem update_pending (axis : Axis C) (now : Nat) : (axis.update now).1.pending = none := by
  cases h : axis.pending with
  | none => rw [(update_step now h).pending, h]
  | some event => rw [update_of_pending h]

/-! ## The channels -/

/-- An outcome of an update of `axis` that leaves a reading of the channels alone, and the origins
of the last move. -/
def Keeps {α : Type} (read : C → α) (axis : Axis C) (result : Axis C × Option AxisEvent) : Prop :=
  result.1.channels.map read = axis.channels.map read ∧ result.1.origins = axis.origins

section Readings

variable {α : Type} {read : C → α}

theorem map_stopAll (hread : ∀ c, read (MotorChannel.stopAbrupt c) = read c) :
    axis.stopAll.channels.map read = axis.channels.map read := by
  simp [stopAll, mapChannels, hread]

/-- **Outside of homing an update commands nothing of the channels but a stop.** -/
theorem update_keeps (now : Nat) (hread : ∀ c, read (MotorChannel.stopAbrupt c) = read c)
    (hstate : ∀ session, axis.state ≠ .homing session) :
    axis.Keeps read (axis.update now) := by
  have hstopped : axis.sampleEffort.stopAll.channels.map read = axis.channels.map read :=
    map_stopAll hread
  have hcase := axis.update_case now
  generalize axis.update now = result at hcase ⊢
  obtain ⟨next, event⟩ := result
  cases hcase with
  | report | rest | go | depart | giveUp | arrive => exact ⟨rfl, rfl⟩
  | hardware =>
    have hdestress : axis.sampleEffort.state.isDestress = false := by
      show axis.state.isDestress = false
      cases h : axis.state with
      | homing session => exact absurd h (hstate session)
      | _ => rfl
    simp only [Keeps, endDestress, hdestress]
    exact ⟨hstopped, rfl⟩
  | fail => exact ⟨hstopped, rfl⟩
  | homing _ hhoming => exact absurd hhoming (hstate _)

end Readings

end Axis

end MotionControl
