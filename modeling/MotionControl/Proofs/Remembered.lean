import MotionControl.Proofs.Ledger
import MotionControl.Proofs.Machine.Layout
import MotionControl.Proofs.Target

/-!
# What a dispense remembers

A dispense remembers how its last operation ended, the volume of the last one that did not fail,
and a record of the last one if that has failed. It writes all of this down when an operation ends,
which may be before the end is reported; an operation that starts clears the record only.

* `reported`, `HasFailed`, `FailedAs`: what the visits of a run tell about the operations.
* `Visit.KeepsBooks`, `Visit.Settles`, `Visit.settles`: what one tick writes down.
* `Dispenser.Remembers`: the memory agrees with the visits; `IsCurrent.follows` is the step.
* `dispense_remembers`: **it agrees with them after every tick of every run**.
-/

namespace MotionControl

variable {C : Type}

/-! ## What the past tells -/

/-- The volume of the last operation that did not fail, or none. -/
def lastVolume (events : List DispenseEvent) : Single :=
  (events.filter fun ended => !ended.outcome.isFault).getLast?.elim 0 (·.volume)

theorem lastVolume_concat (events : List DispenseEvent) (ended : DispenseEvent) :
    lastVolume (events ++ [ended]) =
      if ended.outcome.isFault = true then lastVolume events else ended.volume := by
  cases hfault : ended.outcome.isFault <;> simp [lastVolume, List.filter_append, hfault]

section

variable [MotorChannel C]

/-- The events of the dispense that the ticks have reported. -/
def reported (past : List (Visit C)) : List DispenseEvent := past.flatMap (·.dispenseEvents)

theorem reported_concat (past : List (Visit C)) (visit : Visit C) :
    reported (past ++ [visit]) = reported past ++ visit.dispenseEvents := by
  rw [reported, reported, List.flatMap_append, List.flatMap_singleton]

namespace Visit

/-- Nothing is reported of the dispense, and no operation is started. -/
def IsUneventful (visit : Visit C) : Prop :=
  visit.dispenseEvents = [] ∧ visit.startsDispense = false

/-- What the tick reports of an operation that it finds cancelled: no volume, or the volume that is
dispensed up to where the abort leaves the axis. -/
def CancelsBy (accounting : CancelAccounting) (visit : Visit C) : Prop :=
  ∀ ended ∈ visit.dispenseEvents, ended.outcome = .cancelled →
    ∃ operation axis, visit.sensed.operation? = some operation ∧
      visit.sensed.dispenseAxis? = some axis ∧ ended.kind = operation.kind ∧
      ended.volume =
        match accounting with
        | .reportZero => 0
        | .reportDispensed =>
          (operation.foldSegment axis.abort.positionIncrements).dispensedVolume

end Visit

/-- The latest operation began at a position. -/
def BeganAt (position : Int) (past : List (Visit C)) : Prop :=
  Latest
    (fun _ visit => visit.startsDispense = true ∧ visit.sensed.dispensePosition = position)
    (fun visit => visit.startsDispense = false) past

/-- The latest event of the dispense is a fault, and no operation has been started since. -/
def HasFailed (past : List (Visit C)) : Prop :=
  Latest
    (fun _ visit =>
      ∃ ended, visit.dispenseEvents.getLast? = some ended ∧ ended.outcome.isFault = true)
    Visit.IsUneventful past

/-- The record is of the operation that the latest event of the dispense has told to have failed:
it has the kind, the fault and the volume of the event, the position at which the operation began
and the position at which the tick has left the axis. -/
def FailedAs (record : DispenseFault) (past : List (Visit C)) : Prop :=
  Latest
    (fun earlier visit =>
      visit.dispenseEvents.getLast? =
          some ⟨record.kind, .faulted record.fault, record.volume⟩ ∧
        BeganAt record.startPosition (earlier ++ [visit]) ∧
        visit.next.dispensePosition = record.stopPosition)
    Visit.IsUneventful past

/-- **The memory of a dispense agrees with what the past tells.** -/
structure Dispenser.Remembers (past : List (Visit C)) (dispenser : Dispenser) : Prop where
  outcome : dispenser.lastOutcome = (reported past).getLast?.map (·.outcome)
  completed : dispenser.lastCompleted = lastVolume (reported past)
  fault : dispenser.lastFault.isSome = true ↔ HasFailed past
  record : ∀ record, dispenser.lastFault = some record → FailedAs record past

end

/-! ## The end of an operation -/

namespace Dispenser

variable {closed : Dispenser} {outcome : DispenseOutcome}

theorem settings_finalize : (closed.finalize outcome).1.settings = closed.settings := by
  cases outcome <;> rfl

theorem lastOutcome_finalize : (closed.finalize outcome).1.lastOutcome = some outcome := by
  cases outcome <;> rfl

/-- A fault leaves the volume as it is. -/
theorem lastCompleted_finalize :
    (closed.finalize outcome).1.lastCompleted =
      if outcome.isFault = true then closed.lastCompleted
      else (closed.finalize outcome).2.volume := by
  cases outcome <;> rfl

/-- Only a fault leaves a record. -/
theorem lastFault_finalize (hclear : closed.lastFault = none) {record : DispenseFault} :
    (closed.finalize outcome).1.lastFault = some record ↔
      ∃ fault operation, outcome = .faulted fault ∧ closed.operation? = some operation ∧
        operation.faultRecord fault = record := by
  cases outcome with
  | completed | cancelled => simp [finalize, hclear]
  | faulted fault => simp [finalize]

theorem operation?_fold {dispenser : Dispenser} {operation : DispenseOperation}
    (h : dispenser.operation? = some operation) (position : Int) :
    (dispenser.fold position).operation? = some (operation.foldSegment position) := by
  rw [fold_of_stored h]

/-- An end that waits is reported by the update as if it had not waited. -/
theorem update_finalizeLater [MotorChannel C] {axis : Axis C} {event : Option AxisEvent}
    (hsettled : closed.pending = none) :
    (closed.finalizeLater outcome).update axis event = closed.finalizeNow outcome := by
  have hpending : (closed.finalizeLater outcome).pending = some (closed.finalize outcome).2 := rfl
  have hclosed : (closed.finalize outcome).1.pending = none :=
    (finalize_idle outcome closed).2.2.trans hsettled
  rw [update_of_pending hpending]
  show ({ (closed.finalize outcome).1 with pending := none }, _) = ((closed.finalize outcome).1, _)
  rw [← hclosed]
  rfl

end Dispenser

/-! ## One tick -/

variable [MotorChannel C]

namespace Visit

/-- The books as they stand in a tick until an operation ends: nothing is written in them. A start
clears the record, and its operation begins where the tick finds the axis. -/
structure KeepsBooks (visit : Visit C) (before after : Dispenser) : Prop where
  settings : after.settings = before.settings
  outcome : after.lastOutcome = before.lastOutcome
  completed : after.lastCompleted = before.lastCompleted
  record : after.lastFault = if visit.startsDispense = true then none else before.lastFault
  operation : ∀ operation, after.operation? = some operation →
    if visit.startsDispense = true then
      operation.startPosition = visit.sensed.dispensePosition
    else
      ∃ earlier, before.operation? = some earlier ∧
        operation.startPosition = earlier.startPosition

/-- How far the operation has been counted that a tick ends: a cancelled one to where the abort
leaves the axis, and a failed one to where the tick leaves it. -/
def EndsBy (visit : Visit C) (operation : DispenseOperation) : DispenseOutcome → Prop
  | .completed => True
  | .cancelled =>
    ∃ earlier axis, visit.sensed.operation? = some earlier ∧
      visit.sensed.dispenseAxis? = some axis ∧
      operation = earlier.foldSegment axis.abort.positionIncrements
  | .faulted _ => operation.segmentStart = visit.next.dispensePosition

/-- What the command of a tick makes of a dispense: the books are kept, or the end of the operation
is in them and waits to be reported. -/
inductive Opens (visit : Visit C) (before : Dispenser) : Dispenser → Prop where
  | kept {after : Dispenser} (hkeeps : visit.KeepsBooks before after)
      (hsettled : after.pending = none) : Opens visit before after
  | ended {closed : Dispenser} {operation : DispenseOperation} {outcome : DispenseOutcome}
      (hkeeps : visit.KeepsBooks before closed) (hsettled : closed.pending = none)
      (hstored : closed.operation? = some operation) (hends : visit.EndsBy operation outcome) :
      Opens visit before (closed.finalizeLater outcome)

/-- What a tick makes of a dispense: it reports nothing and keeps the books, or it reports the end
of the operation, which is in the books by then. -/
inductive Settles (visit : Visit C) (before : Dispenser) : Dispenser → Prop where
  | goesOn {after : Dispenser} (hkeeps : visit.KeepsBooks before after)
      (hsilent : visit.dispenseEvents = []) : Settles visit before after
  | ends {closed : Dispenser} {operation : DispenseOperation} {outcome : DispenseOutcome}
      (hkeeps : visit.KeepsBooks before closed)
      (hstored : closed.operation? = some operation) (hends : visit.EndsBy operation outcome)
      (hevents : visit.dispenseEvents = [(closed.finalize outcome).2]) :
      Settles visit before (closed.finalize outcome).1

variable {visit : Visit C} {before after : Dispenser} {station : DispenseStation}
  {axis axis' : Axis C} {command : Command}

theorem startsDispense_of_accepted (haccept : visit.accepted? = some command) :
    visit.startsDispense = command.startsDispense := by
  rw [startsDispense, haccept]
  rfl

theorem keepsBooks_of_unstarted (hnot : visit.startsDispense = false) (before : Dispenser) :
    visit.KeepsBooks before before := by
  refine ⟨rfl, rfl, rfl, ?_, fun operation hstored => ?_⟩
  · simp [hnot]
  · rw [if_neg (by simp [hnot])]
    exact ⟨operation, hstored, rfl⟩

/-- The books are not about the phase, nor about how far an operation is. -/
theorem KeepsBooks.goOn (h : visit.KeepsBooks before after) (phase : DispensePhase)
    {f : DispenseOperation → DispenseOperation}
    (hf : ∀ operation, (f operation).startPosition = operation.startPosition) :
    visit.KeepsBooks before { after with operation? := after.operation?.map f, phase } := by
  refine ⟨h.settings, h.outcome, h.completed, h.record, fun operation hstored => ?_⟩
  obtain ⟨counted, hcounted, rfl⟩ := Option.map_eq_some_iff.1 hstored
  rw [hf]
  exact h.operation counted hcounted

/-- **What a command on the dispense makes of its books.** -/
theorem opens_of_obeys (hstation : visit.sensed.dispense = some station)
    (haxis : visit.sensed.axes[station.axisIndex]? = some axis)
    (hstep : station.dispenser.InStep axis) (haccept : visit.accepted? = some command)
    (hobeys : Dispenser.Obeys visit.turn.now command (station.dispenser, axis) (after, axis')) :
    visit.Opens station.dispenser after := by
  have hstarts := startsDispense_of_accepted haccept
  have unstarted (hnot : command.startsDispense = false) :
      visit.KeepsBooks station.dispenser station.dispenser :=
    keepsBooks_of_unstarted (hstarts.trans hnot) _
  have cancelled (hnot : command.startsDispense = false)
      (hongoing : station.dispenser.isOngoing = true) :
      visit.Opens station.dispenser
        ((station.dispenser.fold axis.abort.discardPending.positionIncrements).finalizeLater
          .cancelled) := by
    obtain ⟨operation, hstored⟩ := Option.isSome_iff_exists.1 (hstep.stored.trans hongoing)
    have hoperation : visit.sensed.operation? = some operation :=
      (Machine.operation?_eq hstation).trans hstored
    have hfold := Dispenser.operation?_fold hstored axis.abort.positionIncrements
    exact .ended ((unstarted hnot).goOn _ fun _ => rfl) hstep.settled hfold
      ⟨operation, axis, hoperation, Machine.dispenseAxis?_eq hstation haxis, rfl⟩
  cases hobeys with
  | start hrun =>
    obtain ⟨-, -, -, operation, rfl, -, rfl⟩ := Dispenser.tryStart_ok.1 hrun
    have hstart : visit.startsDispense = true := hstarts
    refine .kept ⟨rfl, rfl, rfl, (if_pos hstart).symm, fun operation hstored => ?_⟩ rfl
    cases hstored
    rw [if_pos hstart, Machine.dispensePosition_eq hstation haxis]
    rfl
  | pause hrun =>
    obtain ⟨-, -, rfl⟩ := Dispenser.tryPause_ok.1 hrun
    have hkeeps := (unstarted rfl).goOn .pausing (f := id) fun _ => rfl
    rw [Option.map_id_fun, id] at hkeeps
    exact .kept hkeeps hstep.settled
  | resume hrun =>
    obtain ⟨-, operation, hstored, ⟨-, rfl, -⟩ | ⟨-, -, rfl⟩⟩ := Dispenser.tryResume_ok.1 hrun
    · -- nothing is left, so that the operation ends as it stands
      exact .ended (unstarted rfl) hstep.settled hstored trivial
    · have hkeeps := (unstarted rfl).goOn .resuming
        (f := ({ · with segmentStart := axis.positionIncrements })) fun _ => rfl
      rw [hstored] at hkeeps
      exact .kept hkeeps hstep.settled
  | cancel hrun | abort hrun | disable hrun =>
    obtain ⟨hongoing, rfl, rfl⟩ := Dispenser.tryCancel_ok.1 hrun
    exact cancelled rfl hongoing

/-- **What the command of a tick makes of the books.** -/
theorem opens_handled (h : visit.machine.InStep) (hstation : visit.sensed.dispense = some station) :
    ∃ dispenser axis, visit.handled.dispense = some { station with dispenser } ∧
      visit.handled.axes[station.axisIndex]? = some axis ∧
      visit.Opens station.dispenser dispenser := by
  obtain ⟨axis, haxis, hstep⟩ := (h.sense visit.turn.feedback).dispense station hstation
  obtain ⟨dispenser, axis', hstation', haxis', hchange⟩ := handled_station hstation haxis
  refine ⟨dispenser, axis', hstation', haxis', ?_⟩
  rcases hchange with ⟨command, haccept, hobeys⟩ | ⟨rfl, hcommand, -⟩
  · exact opens_of_obeys hstation haxis hstep haccept hobeys
  · have hnot : visit.startsDispense = false := by
      rw [startsDispense]
      cases haccept : visit.accepted? with
      | none => rfl
      | some command =>
        cases command with
        | dispense => cases hcommand _ haccept rfl
        | _ => rfl
    exact .kept (keepsBooks_of_unstarted hnot _) hstep.settled

/-- The updates of a tick go on from there. -/
theorem Opens.settles (hopens : visit.Opens before after) (hpoised : after.Poised axis)
    (hposition :
      visit.next.dispensePosition = (axis.update visit.turn.now).1.positionIncrements)
    (hevents : visit.dispenseEvents =
      (after.update (axis.update visit.turn.now).1 (axis.update visit.turn.now).2).2.toList) :
    visit.Settles before
      (after.update (axis.update visit.turn.now).1 (axis.update visit.turn.now).2).1 := by
  cases hopens with
  | ended hkeeps hsettled hstored hends =>
    rw [Dispenser.update_finalizeLater hsettled] at hevents ⊢
    exact .ends hkeeps hstored hends hevents
  | kept hkeeps hsettled =>
    cases hongoing : after.isOngoing with
    | false =>
      rw [Dispenser.update_of_idle hsettled (Dispenser.isOngoing_eq_false.1 hongoing)]
        at hevents ⊢
      exact .goesOn hkeeps hevents
    | true =>
      obtain ⟨operation, hstored⟩ :=
        Option.isSome_iff_exists.1 (hpoised.of_ongoing hongoing).1
      have htakes := hpoised.takes hongoing visit.turn.now
      have hcommanded : ∀ ended, (after.update (axis.update visit.turn.now).1
          (axis.update visit.turn.now).2).2 = some ended → ended.outcome ≠ .cancelled :=
        fun _ => hpoised.not_cancelled hongoing visit.turn.now
      generalize after.update (axis.update visit.turn.now).1 (axis.update visit.turn.now).2 =
        result at htakes hevents hcommanded ⊢
      generalize (axis.update visit.turn.now).2 = event at htakes
      cases htakes with
      | stay => exact .goesOn hkeeps hevents
      | begin => exact .goesOn (hkeeps.goOn _ fun _ => rfl) hevents
      | pause => exact .goesOn (hkeeps.goOn _ fun _ => rfl) hevents
      | @finish _ outcome =>
        have hfold := Dispenser.operation?_fold hstored
          (axis.update visit.turn.now).1.positionIncrements
        refine .ends (hkeeps.goOn _ fun _ => rfl) hfold ?_ hevents
        cases outcome with
        | completed => trivial
        | cancelled => exact (hcommanded _ rfl rfl).elim
        | faulted fault => exact hposition.symm

/-- **What a tick makes of the books.** -/
theorem settles (h : visit.machine.InStep) (hlength : visit.machine.axes.length ≤ maxAxes)
    (hstation : visit.machine.dispense = some station) :
    ∃ dispenser, visit.next.dispense = some { station with dispenser } ∧
      visit.Settles station.dispenser dispenser := by
  obtain ⟨dispenser, axis, hstation', haxis', hopens⟩ := opens_handled h hstation
  obtain ⟨_, haxis, hpoised⟩ := (visit.poised h).dispense _ hstation'
  cases haxis.symm.trans haxis'
  have hnext : visit.next.dispense = _ :=
    visit.dispense_next.trans (Machine.dispense_update hstation' haxis)
  have hnextAxis : visit.next.axes[station.axisIndex]? = some (axis.update visit.turn.now).1 := by
    rw [axes_next, Machine.axes_update, List.getElem?_map, haxis']
    rfl
  have hposition := Machine.dispensePosition_eq hnext hnextAxis
  have hevents := dispenseEvents_eq (visit.length_handled ▸ hlength) hstation' haxis
  exact ⟨_, hnext, hopens.settles hpoised hposition hevents⟩

end Visit

/-! ## The memory and the past -/

/-- **What holds of a dispense all along a run**: it remembers what the past tells, and during an
operation, which is the latest one, the record is clear. -/
structure Dispenser.IsCurrent (wanted : DispenseSettings) (past : List (Visit C))
    (dispenser : Dispenser) : Prop extends dispenser.Remembers past where
  settings : dispenser.settings = wanted
  ongoing : ∀ operation, dispenser.operation? = some operation →
    dispenser.lastFault = none ∧ BeganAt operation.startPosition past

section

variable {wanted : DispenseSettings} {past : List (Visit C)} {visit : Visit C}
  {before after closed : Dispenser} {operation : DispenseOperation} {outcome : DispenseOutcome}

/-- An operation that is stored while the books are kept has begun where the past says, and finds
the record clear. -/
theorem Visit.KeepsBooks.ongoing (hkeeps : visit.KeepsBooks before after)
    (h : before.IsCurrent wanted past) (hstored : after.operation? = some operation) :
    after.lastFault = none ∧ BeganAt operation.startPosition (past ++ [visit]) := by
  have hoperation := hkeeps.operation operation hstored
  rw [hkeeps.record]
  by_cases hstart : visit.startsDispense = true
  · rw [if_pos hstart] at hoperation ⊢
    exact ⟨rfl, latest_concat.2 (.inl ⟨hstart, hoperation.symm⟩)⟩
  · rw [if_neg hstart] at hoperation ⊢
    obtain ⟨earlier, hearlier, hsame⟩ := hoperation
    obtain ⟨hclear, hbegan⟩ := h.ongoing earlier hearlier
    refine ⟨hclear, latest_concat.2 (.inr ⟨?_, by simpa using hstart⟩)⟩
    rw [hsame]
    exact hbegan

/-- A tick that reports nothing leaves the memory as it is, but for the record that a start
clears. -/
theorem Dispenser.IsCurrent.goesOn (h : before.IsCurrent wanted past)
    (hkeeps : visit.KeepsBooks before after) (hsilent : visit.dispenseEvents = []) :
    after.IsCurrent wanted (past ++ [visit]) := by
  have hreported : reported (past ++ [visit]) = reported past := by
    rw [reported_concat, hsilent, List.append_nil]
  have hfailed : HasFailed (past ++ [visit]) ↔ HasFailed past ∧ visit.startsDispense = false := by
    rw [HasFailed, latest_concat]
    simp [Visit.IsUneventful, hsilent, HasFailed]
  refine ⟨⟨?_, ?_, ?_, fun record hrecord => ?_⟩, hkeeps.settings.trans h.settings,
    fun _ => hkeeps.ongoing h⟩
  · rw [hreported, hkeeps.outcome, h.outcome]
  · rw [hreported, hkeeps.completed, h.completed]
  · rw [hfailed, hkeeps.record, ← h.fault]
    cases visit.startsDispense <;> simp
  · rw [hkeeps.record] at hrecord
    cases hstart : visit.startsDispense with
    | true => simp [hstart] at hrecord
    | false =>
      rw [hstart, if_neg Bool.false_ne_true] at hrecord
      exact latest_concat.2 (.inr ⟨h.record record hrecord, hsilent, hstart⟩)

/-- A tick that reports the end of an operation has it in the books. -/
theorem Dispenser.IsCurrent.ends (h : before.IsCurrent wanted past)
    (hkeeps : visit.KeepsBooks before closed) (hstored : closed.operation? = some operation)
    (hends : visit.EndsBy operation outcome)
    (hevents : visit.dispenseEvents = [(closed.finalize outcome).2]) :
    (closed.finalize outcome).1.IsCurrent wanted (past ++ [visit]) := by
  obtain ⟨hclear, hbegan⟩ := hkeeps.ongoing h hstored
  have hreported : reported (past ++ [visit]) = reported past ++ [(closed.finalize outcome).2] := by
    rw [reported_concat, hevents]
  have houtcome : (closed.finalize outcome).2.outcome = outcome := rfl
  have hfailed : HasFailed (past ++ [visit]) ↔ outcome.isFault = true := by
    rw [HasFailed, latest_concat]
    simp [Visit.IsUneventful, hevents, houtcome]
  refine ⟨⟨?_, ?_, ?_, fun record hrecord => ?_⟩, ?_, fun operation hoperation => ?_⟩
  · rw [hreported, lastOutcome_finalize, List.getLast?_concat]
    rfl
  · rw [hreported, lastCompleted_finalize, lastVolume_concat, houtcome, hkeeps.completed,
      h.completed]
  · rw [hfailed]
    cases outcome with
    | completed | cancelled => simp [finalize, hclear, DispenseOutcome.isFault]
    | faulted fault => simp [finalize, hstored, DispenseOutcome.isFault]
  · obtain ⟨fault, failed, rfl, hfailed, rfl⟩ := (lastFault_finalize hclear).1 hrecord
    cases hstored.symm.trans hfailed
    refine latest_concat.2 (.inl ⟨?_, hbegan, hends.symm⟩)
    rw [hevents]
    simp [finalize, endEvent, reportedVolume, dispensedVolume, hstored,
      DispenseOperation.faultRecord]
  · rw [settings_finalize, hkeeps.settings, h.settings]
  · rw [(finalize_idle outcome closed).2.1] at hoperation
    cases hoperation

/-- **A tick keeps the memory in agreement with the past.** -/
theorem Dispenser.IsCurrent.follows (h : before.IsCurrent wanted past)
    (hsettles : visit.Settles before after) : after.IsCurrent wanted (past ++ [visit]) := by
  cases hsettles with
  | goesOn hkeeps hsilent => exact h.goesOn hkeeps hsilent
  | ends hkeeps hstored hends hevents => exact h.ends hkeeps hstored hends hevents

/-- **A tick reports a cancelled operation as the settings want it.** -/
theorem Visit.Settles.cancelsBy (hsettles : visit.Settles before after)
    (h : before.settings = wanted) : visit.CancelsBy wanted.cancelAccounting := by
  intro ended hended hcancelled
  cases hsettles with
  | goesOn hkeeps hsilent =>
    rw [hsilent] at hended
    cases hended
  | @ends closed operation outcome hkeeps hstored hends hevents =>
    rw [hevents, List.mem_singleton] at hended
    subst hended
    cases (show outcome = .cancelled from hcancelled)
    obtain ⟨earlier, axis, hearlier, haxis, rfl⟩ := hends
    refine ⟨earlier, axis, hearlier, haxis, ?_, ?_⟩
    · simp [Dispenser.finalize, Dispenser.endEvent, hstored, DispenseOperation.foldSegment]
    · have hsettings : closed.settings = wanted := hkeeps.settings.trans h
      show closed.reportedVolume .cancelled = _
      rw [Dispenser.reportedVolume, Dispenser.dispensedVolume, hstored, hsettings]
      rfl

end

namespace Machine

/-- **The invariant of a run**: the dispense is current, and every tick of the past has reported
cancelled operations as the settings want it. -/
structure IsCurrent (wanted : DispenseSettings) (past : List (Visit C)) (machine : Machine C) :
    Prop where
  inStep : machine.InStep
  length_le : machine.axes.length ≤ maxAxes
  dispense : ∃ station, machine.dispense = some station ∧
    station.dispenser.IsCurrent wanted past
  cancels : ∀ visit ∈ past, visit.CancelsBy wanted.cancelAccounting

variable {wanted : DispenseSettings} {past : List (Visit C)} {machine : Machine C}

/-- A tick keeps a machine current. -/
theorem IsCurrent.follows {visit : Visit C} (h : visit.machine.IsCurrent wanted past) :
    visit.next.IsCurrent wanted (past ++ [visit]) := by
  obtain ⟨station, hstation, hcurrent⟩ := h.dispense
  obtain ⟨dispenser, hnext, hsettles⟩ := Visit.settles h.inStep h.length_le hstation
  refine ⟨Visit.inStep_next h.inStep, Visit.length_next.trans_le h.length_le,
    ⟨_, hnext, hcurrent.follows hsettles⟩, fun visited hvisited => ?_⟩
  rcases List.mem_append.1 hvisited with hvisited | hvisited
  · exact h.cancels visited hvisited
  · cases List.mem_singleton.1 hvisited
    exact hsettles.cancelsBy hcurrent.settings

/-- A machine that has just been built remembers nothing. -/
theorem IsBuiltFrom.isCurrent {settings : MachineSettings} (h : machine.IsBuiltFrom settings)
    (hwanted : settings.dispense = some wanted) : machine.IsCurrent wanted [] := by
  have hbuilt : machine.IsBuilt := by
    obtain ⟨σ, makeChannel, s, h⟩ := h
    exact ⟨σ, makeChannel, settings, s, h⟩
  have hfresh := hbuilt.isFresh
  have hcurrent : Dispenser.IsCurrent wanted ([] : List (Visit C)) { settings := wanted } := by
    refine ⟨⟨rfl, rfl, ?_, nofun⟩, rfl, nofun⟩
    exact iff_of_false Bool.false_ne_true not_latest_nil
  have hdispense := h.taken.2.2
  rw [stationOf, hwanted] at hdispense
  dsimp only at hdispense
  split at hdispense
  · cases hdispense
  · have hstation := (Except.ok.inj hdispense).symm
    exact ⟨hfresh.inStep, hfresh.length_le, ⟨_, hstation, hcurrent⟩,
      fun visit hvisit => (List.not_mem_nil hvisit).elim⟩

end Machine

/-- **A dispense remembers what has been reported of it.** After every tick of every run of a
machine that was built from settings with a dispense: the outcome that it remembers is that of the
last event, and the volume is that of the last event that is not a fault. There is a record exactly
if the last event is a fault and no operation has been started since; it has the kind, the fault
and the volume of that event, the position at which the operation began and the one at which it was
ended. A cancelled operation has been reported with no volume or with what was dispensed when it
was cancelled, as the settings want it. -/
theorem dispense_remembers {settings : MachineSettings} {wanted : DispenseSettings}
    {machine : Machine C} (h : machine.IsBuiltFrom settings)
    (hwanted : settings.dispense = some wanted) (turns : List (Turn C)) :
    (∃ station, (machine.run turns).dispense = some station ∧
        station.dispenser.Remembers (machine.visits turns)) ∧
      ∀ visit ∈ machine.visits turns, visit.CancelsBy wanted.cancelAccounting := by
  have hrun := Machine.run_induction (Machine.IsCurrent wanted)
    (fun _ _ hcurrent => hcurrent.follows) turns (h.isCurrent hwanted)
  obtain ⟨station, hstation, hcurrent⟩ := hrun.dispense
  exact ⟨⟨station, hstation, hcurrent.toRemembers⟩, hrun.cancels⟩

/-! ### A dispense that counts what it cancels -/

/-- The settings of a machine whose dispense reports what a cancelled operation has dispensed. -/
def meteredSettings : MachineSettings :=
  { plungerSettings with
    dispense := some { axis := plungerName, cancelAccounting := .reportDispensed } }

/-- That machine, with one motor. -/
def meteredPlunger : Machine ScriptedChannel :=
  { plunger with
    dispense := meteredSettings.dispense.map fun settings =>
      { axisIndex := 0, dispenser := { settings } } }

theorem meteredPlunger_isBuilt : meteredPlunger.IsBuiltFrom meteredSettings :=
  ⟨Unit, fun _ _ => pure {}, (), rfl⟩

/-- An operation is cancelled after 300 of its 800 increments, and the drive fails 200 increments
into the next one. -/
def meteredFault : List (Turn ScriptedChannel) :=
  plungerHoming ++ plungerPause ++
    [.of 17 id (some .cancel), .of 18 id (some (.dispense ⟨.purge, 1, 1, 1, 50⟩)),
      .of 19 (ScriptedChannel.advance 200) none, .of 20 (fun c => { c with fault := true }) none,
      .of 21 id none]

/-- The dispense keeps the volume of the first operation and a record of the second one. -/
theorem dispense_remembers_fault :
    meteredPlunger.IsBuiltFrom meteredSettings ∧
      reported (meteredPlunger.visits meteredFault) =
        [⟨.inject, .cancelled, 0.375⟩, ⟨.purge, .faulted .hardware, 0.25⟩] ∧
      FailedAs ⟨.purge, .hardware, 0.25, 300, 500⟩ (meteredPlunger.visits meteredFault) ∧
      ∀ visit ∈ meteredPlunger.visits meteredFault, visit.CancelsBy .reportDispensed := by
  have hrecord : (meteredPlunger.run meteredFault).dispense.map (·.dispenser.lastFault) =
      some (some ⟨.purge, .hardware, 0.25, 300, 500⟩) := by decide +kernel
  obtain ⟨⟨station, hstation, hremembers⟩, hcancels⟩ :=
    dispense_remembers meteredPlunger_isBuilt rfl meteredFault
  rw [hstation] at hrecord
  have hsome : station.dispenser.lastFault = _ := Option.some.inj hrecord
  exact ⟨meteredPlunger_isBuilt, by decide +kernel, hremembers.record _ hsome, hcancels⟩

end MotionControl
