import MotionControl.Motor.Scripted
import MotionControl.Proofs.Dispense.Command
import MotionControl.Proofs.Dispense.Update
import MotionControl.Proofs.Machine.Run

/-!
# The phase of a dispense and the state of its axis never drift apart

A command may leave a dispense and its axis out of step until the update of the same tick, but only
in two ways (`Dispenser.Poised`): a move of no length is already done, or the operation has ended
and its event waits.

* `Machine.InStep`: between two ticks, every dispense is in step with its axis and no event waits.
* `Visit.poised`, `Visit.inStep_next`: what a command and what the updates make of that.
* `phase_never_drifts`: **it holds all along every run**, an ongoing dispense moves its axis on a
  resume only, and no event of the axis is lost on it.
-/

namespace MotionControl

variable {C : Type}

/-- A reading of a channel that no stop changes, and neither does the power: what is left to change
it are the moves that the channel is commanded, with all that belongs to them. -/
structure IgnoresStops [MotorChannel C] {α : Type} (read : C → α) : Prop where
  stopAbrupt : ∀ c, read (MotorChannel.stopAbrupt c) = read c
  stopDecelerated : ∀ c, read (MotorChannel.stopDecelerated c) = read c
  setEnabled : ∀ enabled c, read (MotorChannel.setEnabled enabled c) = read c

/-! ## Commands of the axis -/

namespace Axis

variable {axis axis' : Axis C} {now : Nat} {command : Command}

/-- Between a command and the update an event waits only where the axis is at rest, for a move of
no length or an abort. -/
def IsPoised (axis : Axis C) : Prop :=
  ∀ event, axis.pending = some event → axis.state = .standby ∧ (event = .done ∨ event = .aborted)

theorem isPoised_of_none (h : axis.pending = none) : axis.IsPoised := by
  intro event hevent
  rw [h] at hevent
  cases hevent

variable [MotorChannel C]

theorem abort_isPoised (h : axis.pending = none) : axis.abort.IsPoised := by
  rcases axis.abort_cases with ⟨-, hstate, hpending⟩ | ⟨-, -, hpending⟩
  · intro event hevent
    rw [hpending] at hevent
    cases hevent
    exact ⟨hstate, .inr rfl⟩
  · exact isPoised_of_none (hpending.trans h)

theorem issue_isPoised {increments : Int} {velocity accel torque : Single}
    (hstate : axis.state = .standby) (h : axis.pending = none) :
    (axis.issue increments velocity accel torque now).IsPoised := by
  rcases axis.issue_cases increments velocity accel torque now with ⟨-, hp⟩ | ⟨hs, hp⟩
  · exact isPoised_of_none (hp.trans h)
  · intro event hevent
    rw [hp] at hevent
    cases hevent
    exact ⟨hs.trans hstate, .inl rfl⟩

/-- A command leaves the axis that it names poised. -/
theorem Obeys.isPoised {isDispensing : Bool} (hobeys : Obeys now isDispensing command axis axis')
    (h : axis.pending = none) : axis'.IsPoised := by
  cases hobeys with
  | move hrun =>
    obtain ⟨hstate, -, -, -, -, rfl⟩ := tryMoveTo_ok.1 hrun
    exact issue_isPoised hstate h
  | home hrun =>
    obtain ⟨-, -, -, rfl⟩ := tryHome_ok.1 hrun
    exact isPoised_of_none rfl
  | abort => exact abort_isPoised h
  | enable => exact isPoised_of_none h
  | disable => exact abort_isPoised h
  | clearFault hrun =>
    have hclear := tryClearFault_ok.1 hrun
    split at hclear
    · obtain ⟨-, rfl⟩ := hclear
      exact isPoised_of_none h
    · subst hclear
      exact isPoised_of_none h

/-- The commands that an axis takes during a dispense leave its state alone. -/
theorem Obeys.keeps (hobeys : Obeys now true command axis axis')
    (hfault : axis.state.isFault = false) :
    axis'.state = axis.state ∧ axis'.pending = axis.pending ∧ axis'.origins = axis.origins := by
  cases hobeys with
  | enable => exact ⟨rfl, rfl, rfl⟩
  | clearFault hrun =>
    have hclear := tryClearFault_ok.1 hrun
    rw [hfault, if_neg Bool.false_ne_true] at hclear
    subst hclear
    exact ⟨rfl, rfl, rfl⟩

/-! ### Readings that only motion changes -/

section Readings

variable {α : Type} {read : C → α}

theorem setAllEnabled_readings (hread : IgnoresStops read) {enabled : Bool} :
    (axis.setAllEnabled enabled).channels.map read = axis.channels.map read := by
  simp [setAllEnabled, mapChannels, hread.setEnabled]

theorem abort_readings (hread : IgnoresStops read) :
    axis.abort.channels.map read = axis.channels.map read := by
  have hstop : axis.stopAll.channels.map read = axis.channels.map read :=
    map_stopAll hread.stopAbrupt
  unfold abort endDestress
  dsimp only
  split
  · split
    · exact (setAllEnabled_readings hread).trans hstop
    · exact hstop
  · exact hstop

/-- No command moves an axis during a dispense. -/
theorem Obeys.readings (hobeys : Obeys now true command axis axis') (hread : IgnoresStops read) :
    axis'.channels.map read = axis.channels.map read := by
  cases hobeys with
  | enable => exact setAllEnabled_readings hread
  | clearFault hrun =>
    have hclear := tryClearFault_ok.1 hrun
    split at hclear
    · obtain ⟨-, rfl⟩ := hclear
      rfl
    · subst hclear
      rfl

end Readings

end Axis

/-! ## Commands of the dispense -/

namespace Dispenser

variable {dispenser dispenser' : Dispenser} {axis axis' : Axis C} {now : Nat} {command : Command}

theorem poised_of_finalizeLater (closed : Dispenser) (outcome : DispenseOutcome) (axis : Axis C) :
    (closed.finalizeLater outcome).Poised axis :=
  have h := finalize_idle outcome closed
  .ended h.1 h.2.1 rfl

variable [MotorChannel C]

/-- A dispense whose axis has taken the move of an operation. -/
theorem poised_of_move {increments : Int} {velocity accel torque : Single}
    (hrun : (Axis.tryMoveIncrements increments velocity accel torque now).run axis = .ok () axis')
    (hpending : axis.pending = none) (hsettled : dispenser.pending = none)
    (hphase : dispenser.phase = .starting ∨ dispenser.phase = .resuming)
    (hstored : dispenser.operation?.isSome = true) :
    dispenser.Poised axis' ∧ axis'.IsPoised := by
  obtain ⟨hstate, -, -, -, -, rfl⟩ := Axis.tryMoveIncrements_ok.1 hrun
  refine ⟨?_, Axis.issue_isPoised hstate hpending⟩
  rcases axis.issue_cases increments velocity accel torque now with ⟨hs, hp⟩ | ⟨hs, hp⟩
  -- a move of some length waits for its start, one of none is done
  · refine .inStep ⟨?_, ?_, hsettled⟩ fun _ => hp.trans hpending
    · rcases hphase with h | h <;> rw [h] <;> exact ⟨now, hs⟩
    · rw [hstored, isOngoing]
      rcases hphase with h | h <;> rw [h] <;> rfl
  · exact .done hphase hstored hsettled (hs.trans hstate) hp

/-- A command leaves a dispense and its axis poised. -/
theorem Obeys.poised (hobeys : Obeys now command (dispenser, axis) (dispenser', axis'))
    (h : dispenser.InStep axis) (hpending : axis.pending = none) :
    dispenser'.Poised axis' ∧ axis'.IsPoised := by
  have cancelled {d : Dispenser} {a : Axis C}
      (hrun : tryCancel.run (dispenser, axis) = .ok () (d, a)) :
      d.phase = .idle ∧ d.operation? = none ∧ d.pending.isSome = true ∧ a.pending = none := by
    obtain ⟨-, rfl, rfl⟩ := tryCancel_ok.1 hrun
    obtain ⟨hphase, hstored, -⟩ := finalize_idle .cancelled
      (dispenser.fold axis.abort.discardPending.positionIncrements)
    exact ⟨hphase, hstored, rfl, rfl⟩
  cases hobeys with
  | start hrun =>
    obtain ⟨-, -, -, _, -, hmove, rfl⟩ := tryStart_ok.1 hrun
    exact poised_of_move hmove hpending rfl (.inl rfl) rfl
  | pause hrun =>
    obtain ⟨hphase, hstop, rfl⟩ := tryPause_ok.1 hrun
    obtain ⟨-, rfl⟩ := Axis.tryStopDecelerated_ok.1 hstop
    have hfits := h.fits
    rw [hphase] at hfits
    have hstored := h.stored
    rw [isOngoing, hphase] at hstored
    exact ⟨.inStep ⟨hfits, hstored, h.settled⟩ fun _ => hpending, Axis.isPoised_of_none hpending⟩
  | resume hrun =>
    obtain ⟨-, _, -, ⟨-, rfl, rfl⟩ | ⟨-, hmove, rfl⟩⟩ := tryResume_ok.1 hrun
    · exact ⟨poised_of_finalizeLater _ _ _, Axis.isPoised_of_none hpending⟩
    · exact poised_of_move hmove hpending h.settled (.inr rfl) rfl
  | cancel hrun | abort hrun =>
    obtain ⟨hphase, hstored, hended, hnone⟩ := cancelled hrun
    exact ⟨.ended hphase hstored hended, Axis.isPoised_of_none hnone⟩
  | disable hrun =>
    obtain ⟨hphase, hstored, hended, hnone⟩ := cancelled hrun
    exact ⟨.ended hphase hstored hended, Axis.abort_isPoised hnone⟩

/-- **Of the commands on an ongoing dispense only a resume moves its axis.** -/
theorem Obeys.readings (hobeys : Obeys now command (dispenser, axis) (dispenser', axis'))
    (h : dispenser.InStep axis) (hongoing : dispenser.isOngoing = true)
    (hcommand : command ≠ .resume) {α : Type} {read : C → α} (hread : IgnoresStops read) :
    axis'.channels.map read = axis.channels.map read ∧
      ∀ session, axis'.state ≠ .homing session := by
  have hhoming := (h.fits.cases hongoing).1
  -- an abort leaves the axis at rest or in the state that it had
  have aborted (session : HomingSession) : axis.abort.state ≠ .homing session := by
    rcases axis.abort_cases with ⟨-, hs, -⟩ | ⟨-, hs, -⟩ <;> rw [hs]
    · exact AxisState.noConfusion
    · exact hhoming session
  cases hobeys with
  | start hrun =>
    have hidle := (tryStart_ok.1 hrun).1
    rw [hongoing] at hidle
    cases hidle
  | pause hrun =>
    obtain ⟨-, hstop, -⟩ := tryPause_ok.1 hrun
    obtain ⟨-, rfl⟩ := Axis.tryStopDecelerated_ok.1 hstop
    exact ⟨by simp [Axis.mapChannels, hread.stopDecelerated], hhoming⟩
  | resume => exact absurd rfl hcommand
  | cancel hrun | abort hrun =>
    obtain ⟨-, rfl, -⟩ := tryCancel_ok.1 hrun
    exact ⟨Axis.abort_readings hread, aborted⟩
  | disable hrun =>
    obtain ⟨-, rfl, -⟩ := tryCancel_ok.1 hrun
    have hdisable : axis.abort.discardPending.disable.channels.map read =
        axis.abort.discardPending.channels.map read :=
      (Axis.setAllEnabled_readings hread).trans (Axis.abort_readings hread)
    refine ⟨hdisable.trans (Axis.abort_readings hread), fun session => ?_⟩
    rcases axis.abort.discardPending.abort_cases with ⟨-, hs, -⟩ | ⟨-, hs, -⟩
    · show axis.abort.discardPending.abort.state ≠ _
      rw [hs]
      exact AxisState.noConfusion
    · show axis.abort.discardPending.abort.state ≠ _
      rw [hs]
      exact aborted session

end Dispenser

/-! ## The machine -/

namespace Machine

/-- **A machine between two ticks**: no event waits, and the dispense is in step with its axis. -/
structure InStep (machine : Machine C) : Prop where
  axes : ∀ axis ∈ machine.axes, axis.pending = none
  dispense : ∀ station ∈ machine.dispense, ∃ axis,
    machine.axes[station.axisIndex]? = some axis ∧ station.dispenser.InStep axis

/-- A machine between a command and the updates. -/
structure Poised (machine : Machine C) : Prop where
  axes : ∀ axis ∈ machine.axes, axis.IsPoised
  dispense : ∀ station ∈ machine.dispense, ∃ axis,
    machine.axes[station.axisIndex]? = some axis ∧ station.dispenser.Poised axis

variable {machine machine' : Machine C}

theorem IsFresh.inStep (h : machine.IsFresh) : machine.InStep := by
  refine ⟨fun axis haxis => (h.axes axis haxis).2, fun station hstation => ?_⟩
  obtain ⟨hindex, hphase, hstored, hpending⟩ := h.dispense station hstation
  exact ⟨_, List.getElem?_eq_getElem hindex,
    Dispenser.inStep_of_idle hphase hstored hpending⟩

/-- What the channels do does not matter. -/
theorem InStep.sense (h : machine.InStep) (feedback : Nat → Nat → C → C) :
    (machine.sense feedback).InStep := by
  refine ⟨fun axis haxis => ?_, fun station hstation => ?_⟩
  · obtain ⟨i, hi⟩ := List.mem_iff_getElem?.1 haxis
    rw [getElem?_sense] at hi
    obtain ⟨axis', haxis', rfl⟩ := Option.map_eq_some_iff.1 hi
    exact h.axes axis' (List.mem_of_getElem? haxis')
  · obtain ⟨axis, haxis, hstep⟩ := h.dispense station hstation
    refine ⟨axis.sense (feedback station.axisIndex), ?_, hstep.fits, hstep.stored, hstep.settled⟩
    rw [getElem?_sense, haxis]
    rfl

theorem InStep.poised (h : machine.InStep) : machine.Poised := by
  refine ⟨fun axis haxis => Axis.isPoised_of_none (h.axes axis haxis), fun station hstation => ?_⟩
  obtain ⟨axis, haxis, hstep⟩ := h.dispense station hstation
  exact ⟨axis, haxis, .inStep hstep fun _ => h.axes axis (List.mem_of_getElem? haxis)⟩

/-- The axes of a machine of which one has been changed. -/
theorem forall_modifyAxis {P : Axis C → Prop} {index : Nat} {axis : Axis C}
    (h : ∀ a ∈ machine.axes, P a) (haxis : P axis) :
    ∀ a ∈ (machine.modifyAxis index fun _ => axis).axes, P a := by
  intro a ha
  obtain ⟨i, hi⟩ := List.mem_iff_getElem?.1 ha
  rw [getElem?_modifyAxis] at hi
  split at hi
  · obtain ⟨_, -, rfl⟩ := Option.map_eq_some_iff.1 hi
    exact haxis
  · exact h a (List.mem_of_getElem? hi)

variable [MotorChannel C] {now : Nat} {command : Command}

/-- **A command leaves a machine poised.** -/
theorem Carries.poised (hcarries : machine.Carries now command machine') (h : machine.InStep) :
    machine'.Poised := by
  have hpoised := h.poised
  cases hcarries with
  | @axis _ name index axis axis' hname hfind haxis hobeys =>
    have hnone := h.axes axis (List.mem_of_getElem? haxis)
    refine ⟨forall_modifyAxis hpoised.axes (hobeys.isPoised hnone), fun station hstation => ?_⟩
    rw [dispense_modifyAxis] at hstation
    by_cases hindex : index = station.axisIndex
    · subst hindex
      obtain ⟨_, haxis₁, hstep⟩ := h.dispense station hstation
      cases haxis.symm.trans haxis₁
      refine ⟨axis', getElem?_modifyAxis_self axis' haxis, ?_⟩
      -- an idle dispense goes with every state, and an ongoing one has kept its axis as it was
      cases hongoing : station.dispenser.isOngoing with
      | false =>
        have hphase := Dispenser.isOngoing_eq_false.1 hongoing
        have hstored := hstep.stored
        rw [hongoing] at hstored
        refine .inStep (Dispenser.inStep_of_idle hphase (by simpa using hstored) hstep.settled) ?_
        rw [hongoing]
        nofun
      | true =>
        have hdispensing : machine.isDispensingOn station.axisIndex = true :=
          isDispensingOn_eq_true.2 ⟨station, hstation, rfl, hongoing⟩
        rw [hdispensing] at hobeys
        obtain ⟨hs, hp, -⟩ := hobeys.keeps (hstep.fits.cases hongoing).2
        exact .inStep ⟨hs ▸ hstep.fits, hstep.stored, hstep.settled⟩ fun _ => hp.trans hnone
    · obtain ⟨axis₁, haxis₁, hstep⟩ := hpoised.dispense station hstation
      exact ⟨axis₁, by rw [getElem?_modifyAxis, if_neg hindex, haxis₁], hstep⟩
  | @dispense _ station axis axis' dispenser hstation haxis hobeys =>
    obtain ⟨_, haxis₁, hstep⟩ := h.dispense station hstation
    cases haxis.symm.trans haxis₁
    obtain ⟨hdispenser, haxis'⟩ := hobeys.poised hstep (h.axes axis (List.mem_of_getElem? haxis))
    refine ⟨forall_modifyAxis hpoised.axes haxis', fun station' hstation' => ?_⟩
    cases hstation'
    exact ⟨axis', getElem?_store_self dispenser axis' haxis, hdispenser⟩
  | status => exact ⟨hpoised.axes, hpoised.dispense⟩

/-- **The updates bring a machine in step again.** -/
theorem Poised.update_inStep (h : machine.Poised) (now : Nat) :
    (machine.update now).1.InStep := by
  refine ⟨fun axis haxis => ?_, fun station hstation => ?_⟩
  · rw [axes_update] at haxis
    obtain ⟨axis', -, rfl⟩ := List.mem_map.1 haxis
    exact axis'.update_pending now
  · -- the dispense is updated right after its axis, with the event of that update
    cases hd : machine.dispense with
    | none =>
      rw [dispense_update_none hd] at hstation
      cases hstation
    | some station' =>
      obtain ⟨axis, haxis, hpoised⟩ := h.dispense station' hd
      rw [dispense_update hd haxis] at hstation
      cases hstation
      exact ⟨_, by rw [axes_update, List.getElem?_map, haxis]; rfl, hpoised.update_inStep now⟩

/-- **Of the commands during a dispense only a resume moves its axis.** -/
theorem Carries.readings (hcarries : machine.Carries now command machine') (h : machine.InStep)
    {station : DispenseStation} (hstation : machine.dispense = some station)
    (hongoing : station.dispenser.isOngoing = true) (hcommand : command ≠ .resume) {α : Type}
    {read : C → α} (hread : IgnoresStops read) :
    ∃ axis axis', machine.axes[station.axisIndex]? = some axis ∧
      machine'.axes[station.axisIndex]? = some axis' ∧
      axis'.channels.map read = axis.channels.map read ∧
      ∀ session, axis'.state ≠ .homing session := by
  obtain ⟨axis, haxis, hstep⟩ := h.dispense station hstation
  have hfits := hstep.fits.cases hongoing
  obtain ⟨dispenser, axis', -, haxis', hobeys | ⟨-, -, hkept⟩⟩ := hcarries.station hstation haxis
  · exact ⟨axis, axis', haxis, haxis', hobeys.readings hstep hongoing hcommand hread⟩
  · rcases hkept with rfl | hobeys
    · exact ⟨axis', axis', haxis, haxis', rfl, hfits.1⟩
    · rw [hongoing] at hobeys
      refine ⟨axis, axis', haxis, haxis', hobeys.readings hread, fun session => ?_⟩
      rw [(hobeys.keeps hfits.2).1]
      exact hfits.1 session

theorem Carries.length_eq (hcarries : machine.Carries now command machine') :
    machine'.axes.length = machine.axes.length := by
  cases hcarries with
  | axis => exact length_modifyAxis ..
  | dispense => exact length_store ..
  | status => rfl

end Machine

/-! ## Turns and runs -/

namespace Visit

variable [MotorChannel C] {visit : Visit C}

theorem poised (h : visit.machine.InStep) : visit.handled.Poised := by
  have hsensed := h.sense visit.turn.feedback
  rcases visit.handled_cases with ⟨command, -, hcarries⟩ | ⟨-, hsame⟩
  · exact hcarries.poised hsensed
  · rw [hsame]
    exact hsensed.poised

/-- **A turn keeps a machine in step.** -/
theorem inStep_next (h : visit.machine.InStep) : visit.next.InStep := by
  have hupdate := (poised h).update_inStep visit.turn.now
  exact ⟨visit.axes_next ▸ hupdate.axes,
    visit.axes_next ▸ visit.dispense_next ▸ hupdate.dispense⟩

theorem length_handled : visit.handled.axes.length = visit.machine.axes.length := by
  have hsensed : visit.sensed.axes.length = visit.machine.axes.length := List.length_mapIdx
  rcases visit.handled_cases with ⟨command, -, hcarries⟩ | ⟨-, hsame⟩
  · rw [hcarries.length_eq, hsensed]
  · rw [hsame, hsensed]

theorem length_next : visit.next.axes.length = visit.machine.axes.length := by
  rw [axes_next, Machine.axes_update, List.length_map, length_handled]

/-- What a turn makes of the channels of an axis with an ongoing dispense. -/
theorem readings (h : visit.machine.InStep) {station : DispenseStation}
    (hstation : visit.machine.dispense = some station)
    (hongoing : station.dispenser.isOngoing = true) (hresume : visit.accepted? ≠ some .resume)
    {α : Type} {read : C → α} (hread : IgnoresStops read) :
    (visit.next.axes[station.axisIndex]?.map fun axis => axis.channels.map read) =
      visit.sensed.axes[station.axisIndex]?.map fun axis => axis.channels.map read := by
  have hsensed := h.sense visit.turn.feedback
  obtain ⟨axis, axis', haxis, haxis', hsame, hhoming⟩ :
      ∃ axis axis', visit.sensed.axes[station.axisIndex]? = some axis ∧
        visit.handled.axes[station.axisIndex]? = some axis' ∧
        axis'.channels.map read = axis.channels.map read ∧
        ∀ session, axis'.state ≠ .homing session := by
    rcases visit.handled_cases with ⟨command, haccept, hcarries⟩ | ⟨-, hsame⟩
    · refine hcarries.readings hsensed hstation hongoing (fun hc => hresume ?_) hread
      rw [haccept, hc]
    · obtain ⟨axis, haxis, hstep⟩ := hsensed.dispense station hstation
      exact ⟨axis, axis, haxis, hsame ▸ haxis, rfl, (hstep.fits.cases hongoing).1⟩
  have hkeeps := Axis.update_keeps visit.turn.now hread.stopAbrupt hhoming
  rw [axes_next, Machine.axes_update, List.getElem?_map, haxis', haxis]
  exact congrArg some (hkeeps.1.trans hsame)

/-- What becomes of an event of an axis with an ongoing dispense. -/
theorem taken (h : visit.machine.InStep) (hlength : visit.machine.axes.length ≤ maxAxes)
    {station : DispenseStation} (hstation : visit.handled.dispense = some station)
    (hongoing : station.dispenser.isOngoing = true) {axis : Axis C}
    (haxis : visit.handled.axes[station.axisIndex]? = some axis)
    (hevent : (axis.update visit.turn.now).2.isSome = true) :
    (∃ ended, MachineEvent.dispense ended ∈ visit.output.events) ∨
      ∃ dispenser, visit.next.dispense = some { station with dispenser } ∧
        dispenser.phase = .paused ∧ station.dispenser.phase ≠ .paused := by
  obtain ⟨_, haxis₁, hpoised⟩ := (poised h).dispense station hstation
  cases haxis.symm.trans haxis₁
  rcases (hpoised.takes hongoing visit.turn.now).taken hevent with hended | ⟨hpaused, hnot⟩
  · obtain ⟨ended, hended⟩ := Option.isSome_iff_exists.1 hended
    refine .inl ⟨ended, mem_dispenseEvents.1 ?_⟩
    have hroom : visit.handled.axes.length ≤ maxAxes := by
      rw [length_handled]
      exact hlength
    rw [dispenseEvents_eq hroom hstation haxis, hended]
    exact .head _
  · refine .inr ⟨_, ?_, hpaused, hnot⟩
    rw [dispense_next, Machine.dispense_update hstation haxis]

end Visit

/-- A machine that was built from settings is in step at every visit of a run, and after it. -/
theorem Machine.IsBuilt.run_inStep [MotorChannel C] {machine : Machine C} (h : machine.IsBuilt)
    (turns : List (Turn C)) :
    (∀ visit ∈ machine.visits turns,
        visit.machine.InStep ∧ visit.machine.axes.length ≤ maxAxes) ∧
      (machine.run turns).InStep ∧ (machine.run turns).axes.length ≤ maxAxes := by
  have hfresh := h.isFresh
  exact run_invariant (fun machine => machine.InStep ∧ machine.axes.length ≤ maxAxes)
    ⟨hfresh.inStep, hfresh.length_le⟩
    fun visit _ hinv => ⟨visit.inStep_next hinv.1, visit.length_next ▸ hinv.2⟩

/-- **The phase of a dispense and the state of its axis never drift apart.** After every tick of
every run of a machine that was built from settings, no event waits, an operation is stored exactly
if one is going on, and the phase fits the state of the axis. During a dispense the axis takes no
motion but on an accepted resume, and every event that the axis has for it ends or pauses it. -/
theorem phase_never_drifts [MotorChannel C] {machine : Machine C} (h : machine.IsBuilt)
    (turns : List (Turn C)) :
    (machine.run turns).InStep ∧
      ∀ visit ∈ machine.visits turns,
        (∀ station, visit.machine.dispense = some station → station.dispenser.isOngoing = true →
            visit.accepted? ≠ some .resume → ∀ (α : Type) (read : C → α), IgnoresStops read →
              (visit.next.axes[station.axisIndex]?.map fun axis => axis.channels.map read) =
                visit.sensed.axes[station.axisIndex]?.map fun axis => axis.channels.map read) ∧
          ∀ station, visit.handled.dispense = some station →
            station.dispenser.isOngoing = true → ∀ axis,
              visit.handled.axes[station.axisIndex]? = some axis →
                (axis.update visit.turn.now).2.isSome = true →
                  (∃ ended, MachineEvent.dispense ended ∈ visit.output.events) ∨
                    ∃ dispenser, visit.next.dispense = some { station with dispenser } ∧
                      dispenser.phase = .paused ∧ station.dispenser.phase ≠ .paused := by
  obtain ⟨hvisits, hrun⟩ := h.run_inStep turns
  refine ⟨hrun.1, fun visit hvisit => ⟨?_, ?_⟩⟩
  · intro station hstation hongoing hresume α read hread
    exact visit.readings (hvisits visit hvisit).1 hstation hongoing hresume hread
  · intro station hstation hongoing axis haxis hevent
    exact visit.taken (hvisits visit hvisit).1 (hvisits visit hvisit).2 hstation hongoing haxis
      hevent

/-- The dispense pauses when its axis has come to rest. -/
theorem phase_never_drifts_paused :
    plunger.IsBuilt ∧
      (plunger.run (plungerHoming ++ plungerPause)).dispense.map (·.dispenser.phase) =
        some .paused ∧
      (plunger.run (plungerHoming ++ plungerPause)).InStep :=
  ⟨plunger_isBuilt, by decide +kernel,
    (phase_never_drifts plunger_isBuilt (plungerHoming ++ plungerPause)).1⟩

end MotionControl
