import MotionControl.Proofs.Lockstep
import Mathlib.Algebra.BigOperators.Group.List.Basic
import Mathlib.Algebra.Order.Ring.Nat

/-!
# Every accepted operation is reported once

An axis owes a report while it is busy or an event waits, and so does a dispense while it is going
on or its event waits. A command that starts an operation adds one report to what is owed and an
event takes one away; what an axis owes passes to the dispense that has it. Only a drive's fault
bit is reported without an operation.

* `Machine.run_ledger`: a balance that every turn keeps is kept by a run.
* `Visit.axis_ledger`, `Visit.dispense_ledger`: the balances of one turn.
* `reported_once`: **the balance of a whole run.**
-/

namespace MotionControl

variable {C : Type}

/-! ## What is owed -/

/-- The reports that an axis owes: one if it is busy or an event waits. -/
def Axis.owed (axis : Axis C) : Nat := (axis.state.isBusy || axis.pending.isSome).toNat

/-- The reports that a dispense owes: one if it is going on, and one if an event waits. -/
def Dispenser.owed (dispenser : Dispenser) : Nat :=
  dispenser.isOngoing.toNat + dispenser.pending.isSome.toNat

namespace Machine

/-- The reports that the axis at a place owes; none while a dispense is going on there. -/
def owedBy (place : Nat) (machine : Machine C) : Nat :=
  if machine.isDispensingOn place then 0 else machine.axes[place]?.elim 0 Axis.owed

/-- The reports that the dispense owes. -/
def owedByDispense (machine : Machine C) : Nat :=
  machine.dispense.elim 0 (·.dispenser.owed)

/-- Whether a command starts an operation of the axis at a place. -/
def startsOn (place : Nat) (machine : Machine C) (command : Command) : Bool :=
  match command with
  | .move name _ | .home name _ _ =>
    machine.axes.findIdx? (·.settings.name.text == name.text) == some place
  | _ => false

end Machine

/-- Whether a command starts a dispense. -/
def Command.startsDispense : Command → Bool
  | dispense _ => true
  | _ => false

/-! ## Commands -/

namespace Axis

variable [MotorChannel C] {axis axis' : Axis C} {now : Nat} {command : Command}

theorem owed_issue {increments : Int} {velocity accel torque : Single} :
    (axis.issue increments velocity accel torque now).owed = 1 := by
  rcases axis.issue_cases increments velocity accel torque now with ⟨hs, -⟩ | ⟨-, hp⟩
  · simp [owed, hs, AxisState.isBusy]
  · simp [owed, hp]

/-- An abort keeps what is owed: it is to be reported as aborted. -/
theorem owed_abort : axis.abort.owed = axis.owed := by
  rcases axis.abort_cases with ⟨hbusy, -, hp⟩ | ⟨-, hs, hp⟩
  · simp [owed, hbusy, hp]
  · simp [owed, hs, hp]

/-- A command adds the report of the operation that it starts. -/
theorem Obeys.owed (hobeys : Obeys now false command axis axis') (h : axis.pending = none) :
    axis'.owed = axis.owed + command.startsOperation.toNat := by
  have hidle (hstate : axis.state = .standby) : axis.owed = 0 := by
    simp [Axis.owed, hstate, h, AxisState.isBusy]
  cases hobeys with
  | move hrun =>
    obtain ⟨hstate, -, -, -, -, rfl⟩ := tryMoveTo_ok.1 hrun
    rw [owed_issue, hidle hstate]
    rfl
  | home hrun =>
    obtain ⟨hstate, -, -, rfl⟩ := tryHome_ok.1 hrun
    rw [hidle hstate]
    rfl
  | abort => exact owed_abort
  | enable => rfl
  | disable => exact owed_abort
  | clearFault hrun =>
    have hclear := tryClearFault_ok.1 hrun
    split at hclear
    · rename_i hfault
      obtain ⟨-, rfl⟩ := hclear
      cases hs : axis.state <;> simp_all [Axis.owed, AxisState.isFault, AxisState.isBusy,
        Command.startsOperation]
    · subst hclear
      rfl

end Axis

namespace Dispenser

variable [MotorChannel C] {dispenser dispenser' : Dispenser} {axis axis' : Axis C} {now : Nat}
  {command : Command}

theorem owed_finalizeLater {outcome : DispenseOutcome} {closed : Dispenser} :
    (closed.finalizeLater outcome).owed = 1 ∧ (closed.finalizeLater outcome).isOngoing = false := by
  have hphase : (closed.finalizeLater outcome).phase = .idle := (finalize_idle outcome closed).1
  have hidle := isOngoing_eq_false.2 hphase
  refine ⟨?_, hidle⟩
  rw [owed, hidle]
  rfl

/-- A command on the dispense adds the report of the operation that it starts. -/
theorem Obeys.owed (hobeys : Obeys now command (dispenser, axis) (dispenser', axis'))
    (h : dispenser.InStep axis) :
    dispenser'.owed = dispenser.owed + command.startsDispense.toNat := by
  have hongoing (hon : dispenser.isOngoing = true) : dispenser.owed = 1 := by
    rw [Dispenser.owed, hon, h.settled]
    rfl
  cases hobeys with
  | start hrun =>
    obtain ⟨hidle, -, -, _, -, -, rfl⟩ := tryStart_ok.1 hrun
    have hzero : dispenser.owed = 0 := by rw [Dispenser.owed, hidle, h.settled]; rfl
    rw [hzero]
    rfl
  | pause hrun =>
    obtain ⟨hphase, -, rfl⟩ := tryPause_ok.1 hrun
    rw [hongoing (by rw [isOngoing, hphase]; rfl), Dispenser.owed, h.settled]
    rfl
  | resume hrun =>
    obtain ⟨hphase, _, -, ⟨-, rfl, -⟩ | ⟨-, -, rfl⟩⟩ := tryResume_ok.1 hrun
    · rw [hongoing (by rw [isOngoing, hphase]; rfl), owed_finalizeLater.1]
      rfl
    · rw [hongoing (by rw [isOngoing, hphase]; rfl), Dispenser.owed, h.settled]
      rfl
  | cancel hrun | abort hrun | disable hrun =>
    obtain ⟨hon, -, rfl⟩ := tryCancel_ok.1 hrun
    rw [hongoing hon, owed_finalizeLater.1]
    rfl

/-- An axis owes nothing that its dispense does not, before and after a command on the two. -/
theorem Obeys.owed_axis (hobeys : Obeys now command (dispenser, axis) (dispenser', axis'))
    (h : dispenser.InStep axis) (hpending : axis.pending = none) :
    (dispenser.isOngoing = true ∨ axis.owed = 0) ∧
      (dispenser'.isOngoing = true ∨ axis'.owed = 0) := by
  have cancelled : axis.abort.discardPending.owed = 0 := by
    rcases axis.abort_cases with ⟨-, hs, -⟩ | ⟨hrest, hs, -⟩
    · show (axis.abort.state.isBusy || false).toNat = 0
      rw [hs]
      rfl
    · show (axis.abort.state.isBusy || false).toNat = 0
      rw [hs, hrest]
      rfl
  cases hobeys with
  | start hrun =>
    obtain ⟨-, -, -, _, -, hmove, rfl⟩ := tryStart_ok.1 hrun
    obtain ⟨hstate, -⟩ := Axis.tryMoveIncrements_ok.1 hmove
    exact ⟨.inr (by simp [Axis.owed, hstate, hpending, AxisState.isBusy]), .inl rfl⟩
  | pause hrun =>
    obtain ⟨hphase, -, rfl⟩ := tryPause_ok.1 hrun
    exact ⟨.inl (by rw [isOngoing, hphase]; rfl), .inl rfl⟩
  | resume hrun =>
    obtain ⟨hphase, _, -, ⟨-, rfl, rfl⟩ | ⟨-, -, rfl⟩⟩ := tryResume_ok.1 hrun
    · have hstate := h.fits
      rw [hphase] at hstate
      have hnone : axis.owed = 0 := by
        rw [Axis.owed, show axis.state = _ from hstate, hpending]
        rfl
      exact ⟨.inr hnone, .inr hnone⟩
    · exact ⟨.inl (by rw [isOngoing, hphase]; rfl), .inl rfl⟩
  | cancel hrun | abort hrun =>
    obtain ⟨hon, rfl, -⟩ := tryCancel_ok.1 hrun
    exact ⟨.inl hon, .inr cancelled⟩
  | disable hrun =>
    obtain ⟨hon, rfl, -⟩ := tryCancel_ok.1 hrun
    exact ⟨.inl hon, .inr (Axis.owed_abort.trans cancelled)⟩

end Dispenser

namespace Machine

variable {machine machine' : Machine C} {place : Nat}

theorem isDispensingOn_of_dispense {station : DispenseStation}
    (h : machine.dispense = some station) :
    machine.isDispensingOn place =
      (station.axisIndex == place && station.dispenser.isOngoing) := by
  simp [isDispensingOn, h]

/-- What is owed at the place of a dispense. -/
theorem owedBy_station (station : DispenseStation) {axis : Axis C}
    (hstation : machine.dispense = some station)
    (haxis : machine.axes[station.axisIndex]? = some axis) :
    machine.owedBy station.axisIndex = if station.dispenser.isOngoing then 0 else axis.owed := by
  rw [owedBy, isDispensingOn_of_dispense hstation, haxis]
  simp

theorem owedBy_congr (hdispensing : machine'.isDispensingOn place = machine.isDispensingOn place)
    (haxes : machine'.axes[place]? = machine.axes[place]?) :
    machine'.owedBy place = machine.owedBy place := by
  rw [owedBy, owedBy, hdispensing, haxes]

theorem owedBy_sense (feedback : Nat → Nat → C → C) (machine : Machine C) :
    (machine.sense feedback).owedBy place = machine.owedBy place := by
  rw [owedBy, owedBy, getElem?_sense]
  cases machine.axes[place]? <;> rfl

/-- Between two ticks an axis owes a report if it is busy without a dispense. -/
theorem InStep.owedBy_eq (h : machine.InStep) :
    machine.owedBy place =
      if machine.axes[place]?.any (·.state.isBusy) = true ∧ machine.isDispensingOn place = false
      then 1 else 0 := by
  rw [owedBy]
  cases haxis : machine.axes[place]? with
  | none => simp
  | some axis =>
    have hnone := h.axes axis (List.mem_of_getElem? haxis)
    -- no event waits, so that only an operation is owed for
    cases machine.isDispensingOn place <;> cases hbusy : axis.state.isBusy <;>
      simp [Axis.owed, hnone, hbusy]

/-- Between two ticks the dispense owes a report if it is going on. -/
theorem InStep.owedByDispense_eq (h : machine.InStep) :
    machine.owedByDispense =
      if machine.dispense.any (·.dispenser.isOngoing) = true then 1 else 0 := by
  rw [owedByDispense]
  cases hd : machine.dispense with
  | none => rfl
  | some station =>
    obtain ⟨axis, -, hstep⟩ := h.dispense station hd
    cases hongoing : station.dispenser.isOngoing <;>
      simp [Dispenser.owed, hstep.settled, hongoing]

/-- A machine that has just been built owes nothing. -/
theorem IsFresh.owed_eq_zero (h : machine.IsFresh) (place : Nat) :
    machine.owedBy place = 0 ∧ machine.owedByDispense = 0 := by
  constructor
  · rw [owedBy]
    cases haxis : machine.axes[place]? with
    | none => simp
    | some axis =>
      obtain ⟨hstate, hpending⟩ := h.axes axis (List.mem_of_getElem? haxis)
      simp [Axis.owed, hstate, hpending, AxisState.isBusy]
  · rw [owedByDispense]
    cases hd : machine.dispense with
    | none => rfl
    | some station =>
      obtain ⟨-, hphase, -, hpending⟩ := h.dispense station hd
      simp [Dispenser.owed, hpending, Dispenser.isOngoing_eq_false.2 hphase]

/-- Only a command that names an axis starts an operation of one. -/
theorem startsOn_eq_false {command : Command}
    (h : command.axis? = none ∨ command.startsOperation = false) :
    machine.startsOn place command = false := by
  cases command <;> simp_all [startsOn, Command.axis?, Command.startsOperation]

variable [MotorChannel C] {now : Nat} {command : Command}

/-- **A command adds to what an axis owes the report of the operation that it starts there.** -/
theorem Carries.owedBy (hcarries : machine.Carries now command machine') (h : machine.InStep) :
    machine'.owedBy place = machine.owedBy place + (machine.startsOn place command).toNat := by
  cases hcarries with
  | @axis _ name index axis axis' hname hfind haxis hobeys =>
    have hdispensing : (machine.modifyAxis index fun _ => axis').isDispensingOn place =
      machine.isDispensingOn place := rfl
    by_cases hindex : index = place
    · subst hindex
      have hstarts : machine.startsOn index command = command.startsOperation := by
        generalize machine.isDispensingOn index = busy at hobeys
        cases hobeys <;> cases hname <;> simp [startsOn, Command.startsOperation, hfind]
      rw [hstarts, Machine.owedBy, Machine.owedBy, hdispensing, getElem?_modifyAxis, if_pos rfl,
        haxis]
      cases hbusy : machine.isDispensingOn index with
      | true =>
        -- the commands that are left then start nothing, and the dispense owes for the axis
        rw [hbusy] at hobeys
        cases hobeys <;> rfl
      | false =>
        rw [hbusy] at hobeys
        exact hobeys.owed (h.axes axis (List.mem_of_getElem? haxis))
    · have hstarts : machine.startsOn place command = false := by
        generalize machine.isDispensingOn index = busy at hobeys
        cases hobeys <;> cases hname <;> simp [startsOn, hfind, hindex]
      rw [hstarts]
      exact owedBy_congr hdispensing (by rw [getElem?_modifyAxis, if_neg hindex])
  | @dispense _ station axis axis' dispenser hstation haxis hobeys =>
    have hstarts : machine.startsOn place command = false := by
      cases hobeys <;> exact startsOn_eq_false (by simp [Command.axis?, Command.startsOperation])
    rw [hstarts]
    by_cases hindex : station.axisIndex = place
    · subst hindex
      obtain ⟨_, haxis₁, hstep⟩ := h.dispense station hstation
      cases haxis.symm.trans haxis₁
      have hafter : (machine.store station dispenser axis').owedBy station.axisIndex =
          if dispenser.isOngoing then 0 else axis'.owed :=
        owedBy_station { station with dispenser } rfl (getElem?_store_self dispenser axis' haxis)
      rw [owedBy_station station hstation haxis, hafter]
      obtain ⟨hb, ha⟩ := hobeys.owed_axis hstep (h.axes axis (List.mem_of_getElem? haxis))
      have hzero {d : Dispenser} {a : Axis C} (hd : d.isOngoing = true ∨ a.owed = 0) :
          (if d.isOngoing then 0 else a.owed) = 0 := by
        rcases hd with hd | hd <;> simp [hd]
      rw [hzero hb, hzero ha]
      rfl
    · refine owedBy_congr ?_ (by rw [getElem?_store, if_neg hindex])
      have hne : (station.axisIndex == place) = false := by simpa using hindex
      rw [isDispensingOn_of_dispense hstation, hne, Bool.false_and]
      show (station.axisIndex == place && dispenser.isOngoing) = false
      rw [hne, Bool.false_and]
  | status => rfl

/-- **A command adds to what the dispense owes the report of the operation that it starts.** -/
theorem Carries.owedByDispense (hcarries : machine.Carries now command machine')
    (h : machine.InStep) :
    machine'.owedByDispense = machine.owedByDispense + command.startsDispense.toNat := by
  cases hcarries with
  | @axis _ name index axis axis' hname hfind haxis hobeys =>
    generalize machine.isDispensingOn index = busy at hobeys
    cases hobeys <;> rfl
  | @dispense _ station axis axis' dispenser hstation haxis hobeys =>
    obtain ⟨_, haxis₁, hstep⟩ := h.dispense station hstation
    cases haxis.symm.trans haxis₁
    show dispenser.owed = _
    rw [Machine.owedByDispense, hstation]
    exact hobeys.owed hstep
  | status => rfl

end Machine

/-! ## Updates -/

/-- Whether an event has no operation: a drive reports a fault bit of an axis that was at rest. -/
def AxisState.isSpontaneous (state : AxisState) (event : AxisEvent) : Bool :=
  state = .standby && event = .fault .hardware

/-- A step of the state reports what it settles, and a spontaneous event besides. -/
theorem AxisState.Step.balance {before after : AxisState} {event : Option AxisEvent}
    (h : before.Step event after) :
    after.isBusy.toNat + event.toList.length =
      before.isBusy.toNat + (event.toList.filter before.isSpontaneous).length := by
  cases h with
  | fail fault hbefore hafter =>
    cases before <;> simp_all [isBusy, isSpontaneous]
  | hardware hbefore =>
    cases before <;> simp_all [isBusy, isSpontaneous, isFault]
  | _ => simp [isBusy, isSpontaneous]

namespace Axis

variable [MotorChannel C] {axis : Axis C} {now : Nat}

/-- An update reports what it settles, and a spontaneous event besides. -/
theorem update_owed (h : axis.IsPoised) (now : Nat) :
    (axis.update now).1.owed + (axis.update now).2.toList.length =
      axis.owed + ((axis.update now).2.toList.filter axis.state.isSpontaneous).length := by
  cases hp : axis.pending with
  | none =>
    have hstep := (update_step now hp).step.balance
    simpa [owed, update_pending, hp] using hstep
  | some event =>
    obtain ⟨hstate, hevent⟩ := h event hp
    rw [update_of_pending hp]
    rcases hevent with rfl | rfl <;> simp [owed, sampleEffort, hstate, hp, AxisState.isBusy,
      AxisState.isSpontaneous]

end Axis

/-- An update of a dispense reports what it settles. -/
theorem Dispenser.Poised.update_owed [MotorChannel C] {dispenser : Dispenser} {axis : Axis C}
    (h : dispenser.Poised axis) (now : Nat) :
    (dispenser.update (axis.update now).1 (axis.update now).2).1.owed +
        (dispenser.update (axis.update now).1 (axis.update now).2).2.toList.length =
      dispenser.owed := by
  have hlen (o : Option DispenseEvent) : o.toList.length = o.isSome.toNat := by cases o <;> rfl
  cases hongoing : dispenser.isOngoing with
  | true =>
    have htakes := h.takes hongoing now
    obtain ⟨hstored, hsettled⟩ := h.of_ongoing hongoing
    rw [hlen, htakes.reported hongoing, owed, owed,
      (htakes.inStep hongoing hstored hsettled).settled, hsettled, hongoing]
    cases (dispenser.update (axis.update now).1 (axis.update now).2).1.isOngoing <;> rfl
  | false =>
    have hphase := isOngoing_eq_false.1 hongoing
    cases hp : dispenser.pending with
    | none =>
      rw [update_of_idle hp hphase]
      rfl
    | some done =>
      rw [update_of_pending hp, owed, owed, hongoing, hp]
      show (DispensePhase.isOngoing dispenser.phase).toNat + 0 + 1 = _
      rw [hphase]
      rfl

namespace Visit

variable [MotorChannel C] {visit : Visit C} {place : Nat}

/-- The events of the axis at a place that the tick reports. -/
def axisEvents (place : Nat) (visit : Visit C) : List AxisEvent :=
  visit.output.events.filterMap (MachineEvent.ofAxis? place)

/-- The events of the axis at a place that no operation has. -/
def spontaneousEvents (place : Nat) (visit : Visit C) : List AxisEvent :=
  (visit.axisEvents place).filter fun event =>
    visit.handled.axes[place]?.any (·.state.isSpontaneous event)

/-- Whether the tick has accepted a command that starts an operation of the axis at a place. -/
def startsOn (place : Nat) (visit : Visit C) : Bool :=
  visit.accepted?.any (visit.sensed.startsOn place)

/-- Whether the tick has accepted a command that starts a dispense. -/
def startsDispense (visit : Visit C) : Bool := visit.accepted?.any Command.startsDispense

/-- The events of an axis in a tick: none while a dispense is going on there. -/
theorem axisEvents_eq (place : Nat) (hlength : visit.handled.axes.length ≤ maxAxes) :
    visit.axisEvents place =
      if visit.handled.isDispensingOn place = false then
        (visit.handled.axes[place]?.bind fun axis => (axis.update visit.turn.now).2).toList
      else [] := by
  rw [axisEvents, events_output, Machine.events_update hlength, Machine.axisEvents_updateAxes]
  rw [← Machine.isDispensingOn_eq_claims]
  split <;> simp_all

/-- An idle dispense takes no axis. -/
theorem isDispensingOn_next (h : visit.handled.Poised)
    (hfree : visit.handled.isDispensingOn place = false) :
    visit.next.isDispensingOn place = false := by
  cases hd : visit.handled.dispense with
  | none =>
    have hnext : visit.next.dispense = none := by
      rw [dispense_next, Machine.dispense_update_none hd]
    rw [Machine.isDispensingOn, hnext]
    rfl
  | some station =>
    obtain ⟨axis, haxis, -⟩ := h.dispense station hd
    have hnext : visit.next.dispense = _ :=
      visit.dispense_next.trans (Machine.dispense_update hd haxis)
    rw [Machine.isDispensingOn_of_dispense hd] at hfree
    rw [Machine.isDispensingOn_of_dispense hnext]
    cases hplace : station.axisIndex == place with
    | false => rfl
    | true =>
      rw [hplace, Bool.true_and] at hfree
      exact Dispenser.isOngoing_update hfree

/-- The updates report what they settle on an axis, and spontaneous events besides. -/
theorem next_owedBy (place : Nat) (h : visit.handled.Poised)
    (hlength : visit.handled.axes.length ≤ maxAxes) :
    visit.next.owedBy place + (visit.axisEvents place).length =
      visit.handled.owedBy place + (visit.spontaneousEvents place).length := by
  have hnext : visit.next.axes[place]? =
      visit.handled.axes[place]?.map fun axis => (axis.update visit.turn.now).1 := by
    rw [axes_next, Machine.axes_update, List.getElem?_map]
  have hevents := visit.axisEvents_eq place hlength
  cases haxis : visit.handled.axes[place]? with
  | none =>
    rw [haxis] at hevents hnext
    have hnil : visit.axisEvents place = [] := by simpa using hevents
    simp [spontaneousEvents, hnil, Machine.owedBy, haxis, hnext]
  | some axis =>
    rw [haxis] at hevents hnext
    cases hfree : visit.handled.isDispensingOn place with
    | false =>
      have hbalance := Axis.update_owed (h.axes axis (List.mem_of_getElem? haxis)) visit.turn.now
      have hevents : visit.axisEvents place = (axis.update visit.turn.now).2.toList := by
        simpa [hfree] using hevents
      simpa [spontaneousEvents, hevents, Machine.owedBy, haxis, hnext, hfree,
        isDispensingOn_next h hfree] using hbalance
    | true =>
      obtain ⟨station, hstation, rfl, hongoing⟩ := Machine.isDispensingOn_eq_true.1 hfree
      obtain ⟨_, haxis₁, hpoised⟩ := h.dispense station hstation
      cases haxis.symm.trans haxis₁
      have hnil : visit.axisEvents station.axisIndex = [] := by simpa [hfree] using hevents
      have hdispense : visit.next.dispense = _ :=
        visit.dispense_next.trans (Machine.dispense_update hstation haxis)
      have htakes := hpoised.takes hongoing visit.turn.now
      have hafter := Machine.owedBy_station _ hdispense hnext
      -- while the operation goes on the dispense owes its report, and afterwards the axis rests
      have hzero : visit.next.owedBy station.axisIndex = 0 := by
        refine hafter.trans ?_
        split
        · rfl
        · rename_i hended
          rw [Axis.owed, htakes.atRest hongoing (by simpa using hended), Axis.update_pending]
          rfl
      have hbefore : visit.handled.owedBy station.axisIndex = 0 := by
        simp [Machine.owedBy, hfree]
      rw [hzero, hbefore]
      simp [spontaneousEvents, hnil]

theorem next_owedByDispense (h : visit.handled.Poised)
    (hlength : visit.handled.axes.length ≤ maxAxes) :
    visit.next.owedByDispense + visit.dispenseEvents.length = visit.handled.owedByDispense := by
  cases hd : visit.handled.dispense with
  | none =>
    have hnext : visit.next.dispense = none := by
      rw [dispense_next, Machine.dispense_update_none hd]
    rw [dispenseEvents_eq_nil hlength hd, Machine.owedByDispense, Machine.owedByDispense, hnext, hd]
    rfl
  | some station =>
    obtain ⟨axis, haxis, hpoised⟩ := h.dispense station hd
    have hnext : visit.next.dispense = _ :=
      visit.dispense_next.trans (Machine.dispense_update hd haxis)
    rw [dispenseEvents_eq hlength hd haxis, Machine.owedByDispense, Machine.owedByDispense, hnext,
      hd]
    exact hpoised.update_owed visit.turn.now

/-! ## The balance of a turn -/

theorem handled_owedBy (place : Nat) (h : visit.machine.InStep) :
    visit.handled.owedBy place = visit.machine.owedBy place + (visit.startsOn place).toNat := by
  rw [← Machine.owedBy_sense visit.turn.feedback visit.machine]
  rcases visit.handled_cases with ⟨command, haccept, hcarries⟩ | ⟨haccept, hsame⟩
  · rw [hcarries.owedBy (h.sense visit.turn.feedback), startsOn, haccept]
    rfl
  · rw [hsame, startsOn, haccept]
    rfl

theorem handled_owedByDispense (h : visit.machine.InStep) :
    visit.handled.owedByDispense =
      visit.machine.owedByDispense + visit.startsDispense.toNat := by
  rcases visit.handled_cases with ⟨command, haccept, hcarries⟩ | ⟨haccept, hsame⟩
  · rw [hcarries.owedByDispense (h.sense visit.turn.feedback), startsDispense, haccept]
    rfl
  · rw [hsame, startsDispense, haccept]
    rfl

/-- **The balance of an axis in one turn.** -/
theorem axis_ledger (place : Nat) (h : visit.machine.InStep)
    (hlength : visit.machine.axes.length ≤ maxAxes) :
    visit.machine.owedBy place + (visit.startsOn place).toNat +
        (visit.spontaneousEvents place).length =
      (visit.axisEvents place).length + visit.next.owedBy place := by
  have hroom : visit.handled.axes.length ≤ maxAxes := by rw [length_handled]; exact hlength
  have hupdate := next_owedBy place (poised h) hroom
  have hcommand := handled_owedBy place h
  omega

/-- **The balance of the dispense in one turn.** -/
theorem dispense_ledger (h : visit.machine.InStep)
    (hlength : visit.machine.axes.length ≤ maxAxes) :
    visit.machine.owedByDispense + visit.startsDispense.toNat =
      visit.dispenseEvents.length + visit.next.owedByDispense := by
  have hroom : visit.handled.axes.length ≤ maxAxes := by rw [length_handled]; exact hlength
  have hupdate := next_owedByDispense (poised h) hroom
  have hcommand := handled_owedByDispense h
  omega

end Visit

/-! ## The balance of a run -/

namespace Machine

theorem sum_toNat_eq_countP (p : Visit C → Bool) (visits : List (Visit C)) :
    (visits.map fun visit => (p visit).toNat).sum = visits.countP p := by
  induction visits with
  | nil => rfl
  | cons visit visits ih =>
    rw [List.map_cons, List.sum_cons, ih, List.countP_cons]
    cases p visit <;> simp [Nat.add_comm]

variable [MotorChannel C] {machine : Machine C} {turns : List (Turn C)}

/-- **A balance that every turn keeps is kept by a run.** -/
theorem run_ledger (balance : Machine C → Nat) (credit debit : Visit C → Nat)
    (hturn : ∀ visit ∈ machine.visits turns,
      balance visit.machine + credit visit = debit visit + balance visit.next) :
    balance machine + ((machine.visits turns).map credit).sum =
      ((machine.visits turns).map debit).sum + balance (machine.run turns) := by
  -- the balance after the first turn is the one that the rest of the run starts with
  induction turns generalizing machine with
  | nil => simp [visits, run]
  | cons turn turns ih =>
    have hfirst := hturn ⟨machine, turn⟩ (.head _)
    have hrest := ih fun visit h => hturn visit (.tail _ h)
    simp only [visits, run, List.map_cons, List.sum_cons] at hfirst hrest ⊢
    omega

end Machine

/-- **Every accepted operation is reported once.** In every run of a machine that was built from
settings, an axis has had as many moves and homing runs accepted as it has had events reported, the
spontaneous ones apart, and one more while it is busy without a dispense; the dispense has had as
many operations accepted as it has had events reported, and one more while it is going on. No event
is lost for want of room. -/
theorem reported_once [MotorChannel C] {machine : Machine C} (h : machine.IsBuilt)
    (turns : List (Turn C)) :
    (∀ place,
        (machine.visits turns).countP (·.startsOn place) +
            ((machine.visits turns).flatMap (·.spontaneousEvents place)).length =
          ((machine.visits turns).flatMap (·.axisEvents place)).length +
            if (machine.run turns).axes[place]?.any (·.state.isBusy) = true ∧
                (machine.run turns).isDispensingOn place = false then 1 else 0) ∧
      (machine.visits turns).countP (·.startsDispense) =
        ((machine.visits turns).flatMap (·.dispenseEvents)).length +
          (if (machine.run turns).dispense.any (·.dispenser.isOngoing) = true then 1 else 0) ∧
      ∀ visit ∈ machine.visits turns,
        visit.output.events =
          (Machine.updateAxes visit.turn.now 0 visit.handled.axes visit.handled.dispense).2.2 := by
  obtain ⟨hvisits, hrun, -⟩ := h.run_inStep turns
  refine ⟨fun place => ?_, ?_, fun visit hvisit => ?_⟩
  · have hledger := Machine.run_ledger (·.owedBy place)
      (fun visit => (visit.startsOn place).toNat + (visit.spontaneousEvents place).length)
      (fun visit => (visit.axisEvents place).length) fun visit hvisit =>
        (Nat.add_assoc ..).symm.trans <|
          visit.axis_ledger place (hvisits visit hvisit).1 (hvisits visit hvisit).2
    rw [(h.isFresh.owed_eq_zero place).1, Nat.zero_add, hrun.owedBy_eq, List.sum_map_add,
      Machine.sum_toNat_eq_countP] at hledger
    simpa only [List.length_flatMap] using hledger
  · have hledger := Machine.run_ledger Machine.owedByDispense
      (fun visit => visit.startsDispense.toNat) (fun visit => visit.dispenseEvents.length)
      fun visit hvisit =>
        visit.dispense_ledger (hvisits visit hvisit).1 (hvisits visit hvisit).2
    rw [(h.isFresh.owed_eq_zero 0).2, Nat.zero_add, hrun.owedByDispense_eq,
      Machine.sum_toNat_eq_countP] at hledger
    simpa only [List.length_flatMap] using hledger
  · have hroom : visit.handled.axes.length ≤ maxAxes := by
      rw [visit.length_handled]
      exact (hvisits visit hvisit).2
    exact Machine.events_update hroom

/-- After a homing run a drive reports a fault bit: two events, and one operation. -/
def plungerFault : List (Turn ScriptedChannel) :=
  plungerHoming ++ [.of 14 (fun c => { c with fault := true }) none]

theorem reported_once_fault :
    plunger.IsBuilt ∧ (plunger.visits plungerFault).countP (·.startsOn 0) = 1 ∧
      (plunger.visits plungerFault).flatMap (·.axisEvents 0) = [.homed, .fault .hardware] ∧
      ((plunger.visits plungerFault).flatMap (·.spontaneousEvents 0)).length = 1 := by
  have hstarts : (plunger.visits plungerFault).countP (·.startsOn 0) = 1 := by decide +kernel
  have hevents : (plunger.visits plungerFault).flatMap (·.axisEvents 0) =
      [.homed, .fault .hardware] := by decide +kernel
  have hrest : ((plunger.run plungerFault).axes[0]?.any (·.state.isBusy)) = false := by
    decide +kernel
  have hbalance := (reported_once plunger_isBuilt plungerFault).1 0
  rw [hstarts, hevents, hrest, if_neg fun h => Bool.false_ne_true h.1] at hbalance
  exact ⟨plunger_isBuilt, hstarts, hevents, Nat.add_left_cancel hbalance⟩

end MotionControl
