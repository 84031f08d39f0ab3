import MotionControl.Proofs.Axis.Fault

/-!
# Nothing moves after a stop

An abort, a release of the drives and a reported fault leave every simulated motor at rest, and
none of them starts, or changes its position, before the next accepted motion.

* `Influence`: what can come to a simulated motor besides the commands of its axis.
* `UpdateCase.of_idle`: what an update commands of an axis that is not busy.
* `IsStill`, `Moment.IsQuiet.isStill`: an axis at rest, and the moments that leave it there.
* `no_residual_motion`: **nothing moves after a stop**, in every run.
-/

namespace MotionControl

/-! ## Motors at rest -/

/-- What can come to a simulated motor besides the commands of its axis. -/
inductive Influence where
  | advance (dt : Nat)
  | setFault (fault : Bool)
  | overrideEffort (reading : Option Single)
  | setEffortInvalid (invalid : Bool)

def Influence.apply (c : SimulatedChannel) : Influence → SimulatedChannel
  | advance dt => c.advance dt
  | setFault fault => { c with fault }
  | overrideEffort reading => { c with effortOverride := reading }
  | setEffortInvalid effortInvalid => { c with effortInvalid }

namespace SimulatedChannel

/-- What of a motor is not to change after a stop. -/
def standing (c : SimulatedChannel) : Single × Single × Motion := (c.steps, c.mechanical, c.motion)

/-- A change of a motor that leaves it where it rests. -/
def LeavesAtRest (f : SimulatedChannel → SimulatedChannel) : Prop :=
  ∀ c, c.motion = .resting → (f c).standing = c.standing

theorem leavesAtRest_stopAbrupt : LeavesAtRest MotorChannel.stopAbrupt := by
  intro c hrest
  show (c.steps, c.mechanical, Motion.resting) = c.standing
  rw [standing, hrest]

theorem leavesAtRest_setEnabled (enabled : Bool) :
    LeavesAtRest (MotorChannel.setEnabled enabled) := by
  intro c hrest
  cases enabled with
  | true => rfl
  | false => exact leavesAtRest_stopAbrupt { c with enabled := false } hrest

theorem standing_apply {c : SimulatedChannel} (hrest : c.motion = .resting)
    (influence : Influence) : (influence.apply c).standing = c.standing := by
  cases influence with
  | advance dt => simp [Influence.apply, advance, hrest, standing]
  | setFault | overrideEffort | setEffortInvalid => rfl

theorem standing_foldl {c : SimulatedChannel} (hrest : c.motion = .resting)
    (influences : List Influence) : (influences.foldl Influence.apply c).standing = c.standing := by
  induction influences generalizing c with
  | nil => rfl
  | cons influence influences ih =>
    have hsame := standing_apply hrest influence
    have hmotion : (influence.apply c).motion = .resting :=
      (congrArg (fun s => s.2.2) hsame).trans hrest
    exact (ih hmotion).trans hsame

end SimulatedChannel

open SimulatedChannel

namespace Axis

section

variable {C : Type} [MotorChannel C] {axis next : Axis C} {now : Nat} {event : Option AxisEvent}

/-- **An update of an axis that is not busy commands nothing but a stop.** -/
theorem UpdateCase.of_idle (h : axis.UpdateCase now next event)
    (hidle : axis.state.isBusy = false) :
    next.state.isBusy = false ∧
      (next.channels = axis.channels ∨
        next.channels = axis.channels.map MotorChannel.stopAbrupt) := by
  cases h with
  | report | rest => exact ⟨hidle, .inl rfl⟩
  | hardware =>
    have hdestress : axis.sampleEffort.state.isDestress = false :=
      AxisState.isDestress_of_idle hidle
    refine ⟨rfl, .inr ?_⟩
    rw [latchHardwareFault, endDestress, hdestress]
    rfl
  | go hpending hstate | fail hpending hstate =>
    rw [AxisState.isBusy_of_isMoving hstate] at hidle
    cases hidle
  | depart hpending hstate | giveUp hpending hstate | arrive hpending hstate
  | homing hpending hstate =>
    rw [hstate] at hidle
    cases hidle

end

/-! ## Axes at rest -/

/-- Every motor of an axis rests. -/
def Rests (axis : Axis SimulatedChannel) : Prop := ∀ c ∈ axis.channels, c.motion = .resting

/-- Nothing goes on, and every motor rests. -/
structure IsStill (axis : Axis SimulatedChannel) : Prop where
  idle : axis.state.isBusy = false
  rests : axis.Rests

/-- What of the motors is not to change after a stop. -/
def standing (axis : Axis SimulatedChannel) : List (Single × Single × Motion) :=
  axis.channels.map SimulatedChannel.standing

section

variable {axis next : Axis SimulatedChannel} {now : Nat} {event : Option AxisEvent}
  {f : SimulatedChannel → SimulatedChannel}

theorem standing_map (hf : LeavesAtRest f) (hrests : axis.Rests)
    (hnext : next.channels = axis.channels.map f) : next.standing = axis.standing := by
  rw [standing, hnext, standing, List.map_map]
  exact List.map_congr_left fun c hc => hf c (hrests c hc)

theorem Rests.of_standing (h : axis.Rests) (hsame : next.standing = axis.standing) :
    next.Rests := by
  have hmotions : next.channels.map (·.motion) = axis.channels.map (·.motion) := by
    have := congrArg (List.map fun s => s.2.2) hsame
    simpa [standing, SimulatedChannel.standing, Function.comp_def] using this
  intro c hc
  have hmem : c.motion ∈ axis.channels.map (·.motion) :=
    hmotions ▸ List.mem_map_of_mem hc
  obtain ⟨c', hc', hsame⟩ := List.mem_map.1 hmem
  rw [← hsame]
  exact h c' hc'

/-! ### Stops -/

theorem rests_stopAll (axis : Axis SimulatedChannel) : axis.stopAll.Rests := by
  intro c hc
  obtain ⟨before, -, rfl⟩ := List.mem_map.1 hc
  rfl

theorem Rests.setAllEnabled (h : axis.Rests) (enabled : Bool) :
    (axis.setAllEnabled enabled).Rests :=
  h.of_standing (standing_map (leavesAtRest_setEnabled enabled) h rfl)

theorem Rests.endDestress (h : axis.Rests) (state : AxisState) :
    (axis.endDestress state).Rests := by
  unfold Axis.endDestress
  split
  · exact h.setAllEnabled true
  · exact h

theorem isStill_abort (axis : Axis SimulatedChannel) : axis.abort.IsStill := by
  have hstopped : Rests { axis.stopAll with stopRequested := false } := rests_stopAll axis
  unfold abort
  dsimp only
  split
  · exact ⟨rfl, hstopped.endDestress axis.state⟩
  · rename_i hidle
    exact ⟨Bool.not_eq_true _ ▸ hidle, hstopped⟩

theorem isStill_disable (axis : Axis SimulatedChannel) : axis.disable.IsStill :=
  ⟨axis.isStill_abort.idle, axis.isStill_abort.rests.setAllEnabled false⟩

/-- **A fault is reported with every motor stopped.** -/
theorem UpdateCase.isStill_of_fault {fault : Fault}
    (h : axis.UpdateCase now next (some (.fault fault)))
    (hpending : ∀ event, axis.pending = some event → event = .done ∨ event = .aborted) :
    next.IsStill := by
  cases h with
  | report hreport => rcases hpending _ hreport with h | h <;> cases h
  | hardware => exact ⟨rfl, (rests_stopAll axis.sampleEffort).endDestress axis.state⟩
  | fail =>
    refine ⟨?_, rests_stopAll axis.sampleEffort⟩
    simp only [failMove]
    split <;> rfl
  | arrive hnone hstate hfree hrest hevent => split at hevent <;> cases hevent
  | homing hnone hstate hcase =>
    cases hcase with
    | @fail channels session =>
      exact ⟨rfl, (rests_stopAll { axis.sampleEffort with channels }).endDestress (.homing session)⟩

/-! ### Acts that start nothing -/

theorem CallCase.standing_eq {call : AxisCall} (h : axis.CallCase call next)
    (hstill : axis.IsStill) (hcall : call.startsMotion = false) :
    next.state.isBusy = false ∧ next.standing = axis.standing := by
  have aborted : axis.abort.standing = axis.standing := by
    refine standing_map leavesAtRest_stopAbrupt hstill.rests ?_
    rw [Axis.abort, hstill.idle]
    rfl
  cases h with
  | move hmove =>
    rw [AxisCall.startsMotion_of_isMove hmove] at hcall
    cases hcall
  | home => cases hcall
  | stop hstate =>
    have hidle := hstill.idle
    rw [AxisState.isBusy_of_isMoving hstate] at hidle
    cases hidle
  | clear => exact ⟨rfl, rfl⟩
  | unfaulted | discard => exact ⟨hstill.idle, rfl⟩
  | abort => exact ⟨axis.isStill_abort.idle, aborted⟩
  | enable => exact ⟨hstill.idle, standing_map (leavesAtRest_setEnabled true) hstill.rests rfl⟩
  | disable =>
    refine ⟨axis.isStill_abort.idle, ?_⟩
    exact (standing_map (leavesAtRest_setEnabled false) axis.isStill_abort.rests rfl).trans aborted

/-- What the motors undergo between the acts leaves them at rest. -/
theorem standing_sense {feedback : Nat → SimulatedChannel → SimulatedChannel}
    (hrests : axis.Rests)
    (hfeedback : ∀ i c, ∃ influences : List Influence,
      feedback i c = influences.foldl Influence.apply c) :
    (axis.sense feedback).standing = axis.standing := by
  refine List.ext_getElem? fun i => ?_
  simp only [standing, sense, List.getElem?_map, List.getElem?_mapIdx, Option.map_map]
  cases hc : axis.channels[i]? with
  | none => rfl
  | some c =>
    obtain ⟨influences, hsame⟩ := hfeedback i c
    have hrest := hrests c (List.mem_of_getElem? hc)
    simp only [Option.map_some, Function.comp_apply, hsame, standing_foldl hrest]

end

end Axis

/-! ## Runs -/

namespace Moment

/-- Every motor is to stop: the call is an abort or a release of the drives, or the update reports
a fault. -/
def Stops (moment : Moment SimulatedChannel) : Prop :=
  moment.act = .call .abort ∨ moment.act = .call .disable ∨
    ∃ fault, moment.event = some (.fault fault)

/-- No motion is accepted, and the motors undergo nothing but influences. -/
structure IsQuiet (moment : Moment SimulatedChannel) : Prop where
  call : ∀ call, moment.accepted? = some call → call.startsMotion = false
  feedback : ∀ feedback, moment.act = .sense feedback →
    ∀ i c, ∃ influences : List Influence, feedback i c = influences.foldl Influence.apply c

theorem Stops.isStill {moment : Moment SimulatedChannel} (h : moment.Stops)
    (hsound : moment.axis.IsSound) : moment.next.IsStill := by
  obtain ⟨axis, act⟩ := moment
  rcases h with hact | hact | ⟨fault, hevent⟩
  · cases hact
    exact axis.isStill_abort
  · cases hact
    exact axis.isStill_disable
  · cases act with
    | sense | call => cases hevent
    | update now =>
      have hcase := axis.update_case now
      rw [show (axis.update now).2 = some (.fault fault) from hevent] at hcase
      exact hcase.isStill_of_fault hsound.pending

/-- **A quiet moment leaves every motor of an axis at rest where it is.** -/
theorem IsQuiet.isStill {moment : Moment SimulatedChannel} (h : moment.IsQuiet)
    (hstill : moment.axis.IsStill) :
    moment.next.IsStill ∧ moment.next.standing = moment.axis.standing := by
  have key : moment.next.state.isBusy = false ∧
      moment.next.standing = moment.axis.standing := by
    obtain ⟨axis, act⟩ := moment
    have hstep := Moment.step ⟨axis, act⟩
    have hcall := h.call
    have hfeedback := h.feedback
    generalize Moment.next ⟨axis, act⟩ = next at hstep ⊢
    generalize Moment.event ⟨axis, act⟩ = event at hstep
    generalize Moment.accepted? ⟨axis, act⟩ = call? at hstep hcall
    cases hstep with
    | sense feedback =>
      exact ⟨hstill.idle, Axis.standing_sense hstill.rests (hfeedback feedback rfl)⟩
    | accept hcase => exact hcase.standing_eq hstill (hcall _ rfl)
    | refuse => exact ⟨hstill.idle, rfl⟩
    | update now =>
      obtain ⟨hidle, hsame | hstop⟩ := (axis.update_case now).of_idle hstill.idle
      · exact ⟨hidle, congrArg (List.map standing) hsame⟩
      · exact ⟨hidle, Axis.standing_map leavesAtRest_stopAbrupt hstill.rests hstop⟩
  exact ⟨⟨key.1, hstill.rests.of_standing key.2⟩, key.2⟩

end Moment

/-- **An axis at rest stays as it is** as long as every moment is quiet. -/
theorem Axis.IsStill.run {stopped : Axis SimulatedChannel} (hstill : stopped.IsStill)
    (later : List (AxisAct SimulatedChannel))
    (hquiet : ∀ m ∈ stopped.moments later, m.IsQuiet) :
    (stopped.run later).IsStill ∧ (stopped.run later).standing = stopped.standing := by
  -- on the moments since the stop: each of them is quiet, and finds the axis as the stop left it
  have hrun : (∀ m ∈ stopped.moments later, m.IsQuiet) →
      (stopped.run later).IsStill ∧ (stopped.run later).standing = stopped.standing := by
    refine Axis.run_induction (fun past axis => (∀ m ∈ past, m.IsQuiet) →
      axis.IsStill ∧ axis.standing = stopped.standing) ?_ later fun _ => ⟨hstill, rfl⟩
    intro past axis act ih hquiet
    obtain ⟨hbefore, hsame⟩ := ih fun m hm => hquiet m (List.mem_append_left _ hm)
    have hlast : Moment.IsQuiet ⟨axis, act⟩ := hquiet _ (by simp)
    obtain ⟨hnext, hstanding⟩ := hlast.isStill hbefore
    exact ⟨hnext, hstanding.trans hsame⟩
  exact hrun hquiet

/-- What a moment leaves of the motors that have been stopped, or are stopped by it. -/
structure LeavesStopped (moment : Moment SimulatedChannel) : Prop where
  /-- After a stop no motor steps or waits to step, and none changes its position, until a motion
  is accepted. -/
  rests : moment.Stops → ∀ later, (∀ m ∈ moment.next.moments later, m.IsQuiet) →
    (∀ c ∈ (moment.next.run later).channels, c.motion = .resting) ∧
      (moment.next.run later).channels.map (fun c => (c.steps, c.mechanical)) =
        moment.next.channels.map fun c => (c.steps, c.mechanical)
  /-- A fault is left only by a call that clears it while no drive reports a fault bit. -/
  fault : ∀ fault, moment.axis.state = .fault fault → moment.next.state ≠ .fault fault →
    moment.accepted? = some .clearFault ∧ moment.axis.anyFault = false
  /-- An update of an axis at rest or in a fault commands nothing but a stop. -/
  update : ∀ now, moment.act = .update now → moment.axis.state.isBusy = false →
    moment.next.channels = moment.axis.channels ∨
      moment.next.channels = moment.axis.channels.map MotorChannel.stopAbrupt

/-- **Nothing moves after a stop**, whatever has come to the axis before and whatever comes to it
until a motion is accepted. -/
theorem no_residual_motion {settings : AxisSettings} {channels : List SimulatedChannel}
    {start : Axis SimulatedChannel} (hstart : Axis.ofChannels settings channels = .ok start)
    (acts : List (AxisAct SimulatedChannel)) (act : AxisAct SimulatedChannel) :
    LeavesStopped ⟨start.run acts, act⟩ := by
  have hsound := Axis.isSound_run hstart acts
  generalize start.run acts = axis at hsound
  refine ⟨?rests, ?fault, ?update⟩
  case rests =>
    intro hstops later hquiet
    obtain ⟨hafter, hstanding⟩ := (hstops.isStill hsound).run later hquiet
    refine ⟨hafter.rests, ?_⟩
    have hplaces := congrArg (List.map fun s => (s.1, s.2.1)) hstanding
    simpa [Axis.standing, SimulatedChannel.standing, Function.comp_def] using hplaces
  case fault =>
    intro fault hstate hleft
    obtain ⟨-, hsame | ⟨hcall, hfree, -⟩⟩ := (Moment.step ⟨axis, act⟩).of_fault hstate
    · exact absurd (hsame.trans hstate) hleft
    · exact ⟨hcall, hfree⟩
  case update =>
    intro now hact hidle
    cases hact
    exact ((axis.update_case now).of_idle hidle).2

/-- An abort while the motor is searching its endstop. -/
theorem no_residual_motion_slide :
    ((slide [0]).run (slideHoming 2)).anyStepping = true ∧
      LeavesStopped ⟨(slide [0]).run (slideHoming 2), .call .abort⟩ :=
  ⟨by decide +kernel, no_residual_motion slide_isBuilt _ _⟩

end MotionControl
