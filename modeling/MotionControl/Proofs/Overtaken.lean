import MotionControl.Proofs.Axis.Run
import MotionControl.Proofs.Dispense.Update

/-!
# Events that come too late

An event tells that an operation is over. One that waits for the next update can be overtaken: a
move that starts before that update goes on when the event is reported, and whoever gets the event
takes the move for finished. A homing run drops the event that waits; a move leaves it.

* `Moment.Overtakes`, `Moment.Leaves`: a move starts while an event waits, and goes on with it.
* `overtaken_iff`: **an event waits during an operation exactly if it has been overtaken**.
* `UpdateCase.atRest`: an event that has not waited finds the axis at rest.
* `event_ends_operation`: **an event ends the operation, unless it has been overtaken**.
* `event_overtaken`: a dispense is reported as completed before its axis has moved.
-/

namespace MotionControl

variable {C : Type} [MotorChannel C]

/-! ## Events that wait -/

/-- Whether a call drops the event that waits, or ends the operation that goes on. -/
def AxisCall.settles : AxisCall → Bool
  | .abort | .disable | .discardPending => true
  | _ => false

namespace Moment

/-- A move starts while the event of an earlier operation waits to be reported. -/
def Overtakes (moment : Moment C) : Prop :=
  (∃ call, moment.accepted? = some call ∧ call.isMove = true) ∧
    moment.axis.pending ≠ none ∧ moment.next.state.isBusy = true

/-- The event is not reported or dropped, and the move is not ended. -/
def Leaves (moment : Moment C) : Prop :=
  (∀ now, moment.act ≠ .update now) ∧ ∀ call, moment.accepted? = some call → call.settles = false

end Moment

/-- A move has started while an event was waiting, and nothing has settled either of them. -/
def IsOvertaken (past : List (Moment C)) : Prop := Since Moment.Overtakes Moment.Leaves past

namespace Axis

/-- An event waits while an operation goes on. -/
def WaitsBusy (axis : Axis C) : Prop := axis.pending ≠ none ∧ axis.state.isBusy = true

section

variable {axis next : Axis C} {call : AxisCall} {event : Option AxisEvent} {now : Nat}

omit [MotorChannel C] in
theorem not_waitsBusy_of_idle (h : axis.state.isBusy = false) : ¬ axis.WaitsBusy := by
  rintro ⟨-, hbusy⟩
  rw [h] at hbusy
  cases hbusy

/-- After an abort nothing goes on. -/
theorem isBusy_abort (axis : Axis C) : axis.abort.state.isBusy = false := by
  rcases axis.abort_cases with ⟨-, hstate, -⟩ | ⟨hidle, hstate, -⟩
  · rw [hstate]
    rfl
  · rw [hstate, hidle]

/-- **A call makes an event wait during an operation** only as a move that overtakes it; a call that
settles neither leaves the two as they are. -/
theorem CallCase.waitsBusy_iff (h : axis.CallCase call next) :
    next.WaitsBusy ↔
      (call.isMove = true ∧ axis.pending ≠ none ∧ next.state.isBusy = true) ∨
        axis.WaitsBusy ∧ call.settles = false := by
  have settled (hmove : call.isMove = false) (hsettles : call.settles = true)
      (hnot : ¬ next.WaitsBusy) :
      next.WaitsBusy ↔ (call.isMove = true ∧ axis.pending ≠ none ∧ next.state.isBusy = true) ∨
        axis.WaitsBusy ∧ call.settles = false := by
    simp [hmove, hsettles, hnot]
  cases h with
  | @move _ increments velocity accel torque now hcall hstandby =>
    have hidle : axis.state.isBusy = false := by rw [hstandby]; rfl
    have hbefore : ¬ axis.WaitsBusy := not_waitsBusy_of_idle hidle
    rcases axis.issue_cases increments velocity accel torque now with
      ⟨hstate, hpending⟩ | ⟨hstate, -⟩
    · simp [WaitsBusy, hcall, hstate, hpending, hidle]
    · -- a move of no length is over at once
      simp [WaitsBusy, hstate, hidle]
  | home hstandby =>
    have hidle : axis.state.isBusy = false := by rw [hstandby]; rfl
    simp [WaitsBusy, hidle, AxisCall.isMove]
  | clear hfault =>
    have hidle : axis.state.isBusy = false := by
      cases hstate : axis.state <;> simp_all [AxisState.isFault, AxisState.isBusy]
    have hafter : AxisState.standby.isBusy = false := rfl
    simp [WaitsBusy, hidle, hafter]
  | stop | unfaulted | enable =>
    simp [WaitsBusy, AxisCall.isMove, AxisCall.settles, mapChannels, Axis.enable, setAllEnabled]
  | abort => exact settled rfl rfl (not_waitsBusy_of_idle axis.isBusy_abort)
  | disable => exact settled rfl rfl (not_waitsBusy_of_idle axis.isBusy_abort)
  | discard => exact settled rfl rfl fun hwaits => hwaits.1 rfl

/-- An act makes an event wait during an operation by overtaking it, or leaves the two alone. -/
theorem waitsBusy_next_iff (axis : Axis C) (act : AxisAct C) :
    (Moment.next ⟨axis, act⟩).WaitsBusy ↔
      Moment.Overtakes ⟨axis, act⟩ ∨ axis.WaitsBusy ∧ Moment.Leaves ⟨axis, act⟩ := by
  have hstep := Moment.step ⟨axis, act⟩
  unfold Moment.Overtakes Moment.Leaves
  generalize Moment.next ⟨axis, act⟩ = next at hstep ⊢
  generalize Moment.event ⟨axis, act⟩ = event at hstep
  generalize Moment.accepted? ⟨axis, act⟩ = accepted at hstep ⊢
  cases hstep with
  | sense feedback => simp [WaitsBusy, Axis.sense]
  | refuse => simp
  | accept hcase => simpa using hcase.waitsBusy_iff
  | update now => simp [WaitsBusy, axis.update_pending now]

/-- **An event waits during an operation exactly if it has been overtaken**, all along a run that
begins with an axis at rest. -/
theorem overtaken_iff {start : Axis C} (hstart : start.state.isBusy = false)
    (acts : List (AxisAct C)) :
    (start.run acts).WaitsBusy ↔ IsOvertaken (start.moments acts) := by
  have hfirst : start.WaitsBusy ↔ IsOvertaken ([] : List (Moment C)) :=
    iff_of_false (not_waitsBusy_of_idle hstart) not_since_nil
  refine run_induction (fun past axis => axis.WaitsBusy ↔ IsOvertaken past) ?_ acts hfirst
  intro past axis act ih
  rw [waitsBusy_next_iff, ih]
  exact since_concat.symm

/-! ## Updates -/

/-- An event that has not waited finds the axis at rest. -/
theorem UpdateCase.atRest {event : AxisEvent} (h : axis.UpdateCase now next (some event))
    (hpending : axis.pending = none) : next.state.isBusy = false := by
  obtain ⟨-, -, hstep⟩ := h.follows hpending
  generalize axis.state = before at hstep
  generalize next.state = after at hstep ⊢
  cases hstep with
  | giveUp | arrive | stop | reference | hardware => rfl
  | fail _ _ hafter => exact hafter

/-- **The axis is still busy after an event exactly if the event has waited during an
operation.** -/
theorem isBusy_update_iff {event : AxisEvent} (hevent : (axis.update now).2 = some event) :
    (axis.update now).1.state.isBusy = true ↔ axis.WaitsBusy := by
  cases hpending : axis.pending with
  | none =>
    have hcase := axis.update_case now
    rw [hevent] at hcase
    rw [hcase.atRest hpending]
    simp [WaitsBusy, hpending]
  | some waiting =>
    have hstate : (axis.update now).1.state = axis.state := by
      rw [update_of_pending hpending]
      rfl
    simp [WaitsBusy, hpending, hstate]

end

end Axis

/-- An ongoing dispense is completed by the end of a move only. -/
theorem Dispenser.event_of_completed {dispenser dispenser' : Dispenser} {axis : Axis C}
    {event : Option AxisEvent} {ended : DispenseEvent} (hpending : dispenser.pending = none)
    (hended : dispenser.update axis event = (dispenser', some ended))
    (hcompleted : ended.outcome = .completed) : event = some .done := by
  obtain ⟨cause, rfl, hending⟩ := ending_of_update hpending (congrArg Prod.snd hended)
  rw [hcompleted] at hending
  cases cause <;> first | rfl | cases hending

/-- **An event ends the operation, unless it has been overtaken.** Whatever comes to an axis, and
with however many calls between two updates: when an update reports an event, the axis is still busy
exactly if a move has overtaken the event. Without that, a dispense that is completed by the event
finds its axis at rest. -/
theorem event_ends_operation {settings : AxisSettings} {channels : List C} {start : Axis C}
    (hstart : Axis.ofChannels settings channels = .ok start) (acts : List (AxisAct C)) (now : Nat)
    {event : AxisEvent} (hevent : ((start.run acts).update now).2 = some event) :
    (((start.run acts).update now).1.state.isBusy = true ↔ IsOvertaken (start.moments acts)) ∧
      (¬ IsOvertaken (start.moments acts) →
        ∀ (dispenser dispenser' : Dispenser) (ended : DispenseEvent),
          dispenser.pending = none →
          dispenser.update ((start.run acts).update now).1 (some event) =
            (dispenser', some ended) →
          ended.outcome = .completed →
            event = .done ∧ ((start.run acts).update now).1.state.isBusy = false) := by
  have hidle : start.state.isBusy = false := by
    rw [(Axis.atRest_of_ofChannels hstart).1]
    rfl
  have hbusy : ((start.run acts).update now).1.state.isBusy = true ↔
      IsOvertaken (start.moments acts) :=
    (Axis.isBusy_update_iff hevent).trans (Axis.overtaken_iff hidle acts)
  refine ⟨hbusy, fun hnot dispenser dispenser' ended hpending hended hcompleted => ⟨?_, ?_⟩⟩
  · have hdone := Dispenser.event_of_completed hpending hended hcompleted
    exact Option.some.inj hdone
  · exact Bool.not_eq_true _ ▸ fun hstill => hnot (hbusy.1 hstill)

/-- Two aborts, of which the first one leaves an event, and a move after the update. -/
def spindleAborted : List (AxisAct ScriptedChannel) :=
  spindleHoming ++
    [.call (.moveIncrements 100 100 100 50 13), .call .abort, .call .abort, .update 14,
      .call (.moveIncrements 200 100 100 50 14), .update 15] ++
    [.sense fun _ => ScriptedChannel.finish]

/-- The event of the aborted move has been reported in time, and so the next one ends its move. -/
theorem event_ends_operation_spindle :
    ((spindle.run spindleAborted).update 16).2 = some .done ∧
      ¬ IsOvertaken (spindle.moments spindleAborted) ∧
      ∀ (dispenser dispenser' : Dispenser) (ended : DispenseEvent), dispenser.pending = none →
        dispenser.update ((spindle.run spindleAborted).update 16).1 (some .done) =
          (dispenser', some ended) →
        ended.outcome = .completed →
          ((spindle.run spindleAborted).update 16).1.state.isBusy = false := by
  have hevent : ((spindle.run spindleAborted).update 16).2 = some .done := by decide +kernel
  have hidle : ((spindle.run spindleAborted).update 16).1.state.isBusy = false := by
    decide +kernel
  obtain ⟨hbusy, hcompleted⟩ := event_ends_operation spindle_isBuilt spindleAborted 16 hevent
  have hnot : ¬ IsOvertaken (spindle.moments spindleAborted) := by
    rw [← hbusy, hidle]
    exact Bool.false_ne_true
  refine ⟨hevent, hnot, fun dispenser dispenser' ended hpending hended houtcome => ?_⟩
  exact (hcompleted hnot dispenser dispenser' ended hpending hended houtcome).2

/-- A move of no length is done, which waits to be reported. -/
def spindleWaiting : List (AxisAct ScriptedChannel) :=
  spindleHoming ++ [.call (.moveIncrements 0 100 100 50 13)]

/-- **An event may be overtaken.** The end of a move of no length waits to be reported when another
move starts, and is reported while that one has not even begun to step. A dispense that starts such
a move takes the event for the end of its own move, and is completed. -/
theorem event_overtaken :
    ((spindle.run (spindleWaiting ++ [.call (.moveIncrements 100 100 100 50 13)])).update 14).2 =
        some .done ∧
      ((spindle.run (spindleWaiting ++ [.call (.moveIncrements 100 100 100 50 13)])).update
        14).1.state = .startingMove 13 ∧
      (Dispenser.start ⟨.inject, 1, 1, 1, 50⟩ 13 { settings := {} }
        (spindle.run spindleWaiting)).toOption.map (fun (dispenser, axis) =>
          ((axis.update 14).1.state,
            (dispenser.update (axis.update 14).1 (axis.update 14).2).2.map (·.outcome))) =
        some (.startingMove 13, some .completed) := by
  decide +kernel

end MotionControl
