import MotionControl.Proofs.Axis.Fault

/-!
# Why an operation fails

* `FailureCause`: what an update has found when it reports a fault.
* `free_of_quiet`: an update without an event has found no fault bit, and no event that waits.
* `failureCause_of_fault`: **a fault is reported for a cause**.
-/

namespace MotionControl

variable {C : Type} [MotorChannel C]

namespace Axis

/-- What an update finds when it reports a fault. The efforts are those that it has read. -/
inductive FailureCause (axis : Axis C) (now : Nat) : Fault → Prop where
  | hardware (hbit : axis.anyFault = true) : FailureCause axis now .hardware
  | torque (hstate : axis.state = .moving) (hover : axis.sampleEffort.anyOverLimit = true) :
      FailureCause axis now .motionTorque
  | moveStart {since : Nat} (hstate : axis.state = .startingMove since)
      (hstill : axis.motionStarted = false)
      (hdue : axis.settings.startTimeout.toNat ≤ now - since) :
      FailureCause axis now (.timeout .moveStart)
  | homingSession {session : HomingSession} (hstate : axis.state = .homing session)
      (hdue : session.settings.timeout.toNat ≤ session.elapsed now) :
      FailureCause axis now (.timeout .homingSession)
  | homingStart {session : HomingSession} {leg : Leg} (hstate : axis.state = .homing session)
      (hphase : session.phase = .leg leg .waitStart) (hstill : axis.motionStarted = false)
      (hdue : session.settings.startTimeout.toNat ≤ session.phaseElapsed now) :
      FailureCause axis now (.timeout .homingStart)
  /-- A channel gives the signal of the other way of homing. -/
  | wrongSignal {session : HomingSession} {leg : Leg} {channels : List C} {hits : List Bool}
      {failure : HomingFailure} (hstate : axis.state = .homing session)
      (hphase : session.phase = .leg leg .moving) (hsearch : leg.isSearch = true)
      (hwalk : searchChannels session.settings.mode axis.torqueLimit axis.channels
        axis.sampleEffort.monitor.samples session.hits = (channels, hits, some failure)) :
      FailureCause axis now (.homing failure)
  /-- A search has come to its end without the signal of every channel. -/
  | exhausted {session : HomingSession} {leg : Leg} {channels : List C} {hits : List Bool}
      (hstate : axis.state = .homing session) (hphase : session.phase = .leg leg .moving)
      (hsearch : leg.isSearch = true)
      (hwalk : searchChannels session.settings.mode axis.torqueLimit axis.channels
        axis.sampleEffort.monitor.samples session.hits = (channels, hits, none))
      (hmissing : { session with hits }.allHit channels.length = false)
      (hrest : channels.any MotorChannel.isStepping = false) :
      FailureCause axis now (.homing .stopNotReached)
  /-- A channel stalls on a retreat. -/
  | stall {session : HomingSession} {leg : Leg} (hstate : axis.state = .homing session)
      (hphase : session.phase = .leg leg .moving) (hretreat : leg.isSearch = false)
      (hover : axis.sampleEffort.anyOverLimit = true) :
      FailureCause axis now (.homing .unexpectedStall)
  /-- A channel is still at its endstop after a retreat. -/
  | stuck {session : HomingSession} {leg : Leg} (hstate : axis.state = .homing session)
      (hphase : session.phase = .leg leg .moving) (hretreat : leg.isSearch = false)
      (hmode : session.settings.mode = .sensor) (hendstop : axis.anyEndstop = true) :
      FailureCause axis now (.homing .sensorStuck)

section

variable {axis : Axis C} {now : Nat} {fault : Fault}

/-- An update without an event has found no event that waits, and no fault bit unless the axis is in
a fault already. -/
theorem free_of_quiet (hquiet : (axis.update now).2 = none) :
    axis.pending = none ∧ (axis.state.isFault = false → axis.anyFault = false) := by
  have hpending : axis.pending = none := by
    cases hwaits : axis.pending with
    | none => rfl
    | some event =>
      rw [update_of_pending hwaits] at hquiet
      cases hquiet
  refine ⟨hpending, fun hstate => ?_⟩
  cases hbit : axis.anyFault with
  | false => rfl
  | true =>
    rw [update_of_fault_bit now hpending hstate hbit] at hquiet
    cases hquiet

theorem failureCause_of_starting {since : Nat} (hstate : axis.state = .startingMove since)
    (h : (axis.sampleEffort.updateStarting since now).2 = some (.fault fault)) :
    axis.FailureCause now fault := by
  unfold updateStarting at h
  split at h
  · cases h
  rename_i hstill
  split at h
  · cases h
  split at h
  · rename_i hdue
    cases h
    exact .moveStart hstate (Bool.not_eq_true _ ▸ hstill) hdue
  · cases h

theorem failureCause_of_moving (hstate : axis.state = .moving)
    (h : axis.sampleEffort.updateMoving.2 = some (.fault fault)) : axis.FailureCause now fault := by
  unfold updateMoving at h
  split at h
  · rename_i hover
    cases h
    exact .torque hstate hover
  split at h
  · cases h
  · simp only [finish, Option.some.injEq] at h
    split at h <;> cases h

theorem failureCause_of_search {session : HomingSession} {leg : Leg}
    (hstate : axis.state = .homing session) (hphase : session.phase = .leg leg .moving)
    (hsearch : leg.isSearch = true)
    (h : (axis.sampleEffort.search session leg now).2 = some (.fault fault)) :
    axis.FailureCause now fault := by
  unfold search at h
  generalize hwalk : searchChannels session.settings.mode axis.sampleEffort.torqueLimit
    axis.sampleEffort.channels axis.sampleEffort.monitor.samples session.hits = walk at h
  obtain ⟨channels, hits, failure⟩ := walk
  dsimp only at h
  cases failure with
  | some failure =>
    cases h
    exact .wrongSignal hstate hphase hsearch hwalk
  | none =>
    dsimp only at h
    split at h
    · cases h
    rename_i hmissing
    split at h
    · rename_i hrest
      cases h
      exact .exhausted hstate hphase hsearch hwalk (Bool.not_eq_true _ ▸ hmissing)
        (Bool.not_eq_true' _ ▸ hrest)
    · cases h

theorem failureCause_of_retreat {session : HomingSession} {leg : Leg}
    (hstate : axis.state = .homing session) (hphase : session.phase = .leg leg .moving)
    (hretreat : leg.isSearch = false)
    (h : (axis.sampleEffort.retreat session leg now).2 = some (.fault fault)) :
    axis.FailureCause now fault := by
  unfold retreat at h
  split at h
  · rename_i hover
    cases h
    exact .stall hstate hphase hretreat hover
  split at h
  · cases h
  split at h
  · rename_i hboth
    cases h
    exact .stuck hstate hphase hretreat hboth.1 hboth.2
  · cases h

theorem failureCause_of_homing {session : HomingSession} (hstate : axis.state = .homing session)
    (h : (axis.sampleEffort.updateHoming session now).2 = some (.fault fault)) :
    axis.FailureCause now fault := by
  unfold updateHoming at h
  split at h
  · rename_i hdue
    cases h
    exact .homingSession hstate hdue
  split at h
  · cases h
  · rename_i leg hphase
    unfold awaitLeg at h
    split at h
    · cases h
    rename_i hstill
    split at h
    · rename_i hdue
      cases h
      exact .homingStart hstate hphase (Bool.not_eq_true _ ▸ hstill) hdue
    · cases h
  · rename_i leg hphase
    split at h
    · rename_i hsearch
      exact failureCause_of_search hstate hphase hsearch h
    · rename_i hretreat
      exact failureCause_of_retreat hstate hphase (Bool.not_eq_true _ ▸ hretreat) h
  · -- the zeroing and the release of the drives do not fail
    unfold zeroChannels at h
    dsimp only at h
    split at h <;> cases h
  · unfold updateDestress at h
    split at h <;> cases h

/-- **A fault is reported for a cause**, unless the fault itself was waiting to be reported. -/
theorem failureCause_of_fault (hwaits : axis.pending ≠ some (.fault fault))
    (h : (axis.update now).2 = some (.fault fault)) : axis.FailureCause now fault := by
  cases hpending : axis.pending with
  | some event =>
    rw [update_of_pending hpending] at h
    exact absurd (hpending.trans h) hwaits
  | none =>
    cases hnew : !axis.state.isFault && axis.anyFault with
    | true =>
      rw [Bool.and_eq_true, Bool.not_eq_true'] at hnew
      rw [update_of_fault_bit now hpending hnew.1 hnew.2] at h
      cases h
      exact .hardware hnew.2
    | false =>
      rw [Bool.and_eq_false_iff, Bool.not_eq_false'] at hnew
      rw [update_of_free hpending hnew] at h
      unfold updateState at h
      split at h
      · cases h
      · cases h
      · rename_i hstate
        exact failureCause_of_starting hstate h
      · rename_i hstate
        exact failureCause_of_moving hstate h
      · rename_i hstate
        exact failureCause_of_homing hstate h

end

end Axis

end MotionControl
