import MotionControl.Proofs.Axis.Fault

/-!
# A move ends as it was asked to

A move ends in `stopped` if a stop of it was requested, and in `done` otherwise. The request is a
flag of the axis. Some ends of a move reset it and others leave it; the next move resets it when it
is accepted, so that a request left over from an earlier move decides nothing.

* `Moment.IsOrderly`: no motion begins over an event that waits, and no event is dropped.
* `HasAccepted`: what the axis has been asked for.
* `MoveEnd`: how a move can end, after all that has come to the axis since it was accepted.
* `IsUnderWay`, `IsUnderWay.next`: what every act keeps between the acceptance of a move and the
  event that ends it.
* `IsUnderWay.ends`: that event.
* `next_of_leftOver`: a request from before a move is gone when the move has been accepted.
* `move_ends_as_requested`: **a move ends in `stopped` exactly if a stop of it was requested**.
-/

namespace MotionControl

variable {C : Type} [MotorChannel C]

/-! ## What the axis has been asked for -/

/-- No motion begins while an event waits to be reported, and no event is dropped. -/
def Moment.IsOrderly (moment : Moment C) : Prop :=
  ∀ call, moment.accepted? = some call →
    call ≠ .discardPending ∧ (call.startsMotion = true → moment.axis.pending = none)

instance (moment : Moment C) : Decidable moment.IsOrderly :=
  match h : moment.accepted? with
  | none => isTrue (by simp [Moment.IsOrderly, h])
  | some call =>
    decidable_of_iff
      (call ≠ .discardPending ∧ (call.startsMotion = true → moment.axis.pending = none))
      (by simp [Moment.IsOrderly, h])

/-- The axis has accepted a call. -/
def HasAccepted (call : AxisCall) (past : List (Moment C)) : Prop :=
  ∃ moment ∈ past, moment.accepted? = some call

section

variable {call : AxisCall} {past : List (Moment C)} {moment : Moment C}

theorem hasAccepted_concat :
    HasAccepted call (past ++ [moment]) ↔
      HasAccepted call past ∨ moment.accepted? = some call := by
  simp [HasAccepted, or_and_right, exists_or]

theorem hasAccepted_concat_of_ne (h : moment.accepted? ≠ some call) :
    HasAccepted call (past ++ [moment]) ↔ HasAccepted call past := by
  rw [hasAccepted_concat, or_iff_left h]

end

/-! ## The end of a move -/

/-- How a move can end, after what has come to the axis since the move was accepted. -/
inductive MoveEnd (since : List (Moment C)) : AxisEvent → Prop where
  | done (hnone : ¬ HasAccepted .stopDecelerated since) : MoveEnd since .done
  | stopped (hstop : HasAccepted .stopDecelerated since) : MoveEnd since .stopped
  | aborted (habort : HasAccepted .abort since ∨ HasAccepted .disable since) :
      MoveEnd since .aborted
  | fault (fault : Fault) : MoveEnd since (.fault fault)

/-- An end that waits to be reported stays right, as no stop is accepted any more. -/
theorem MoveEnd.concat {since : List (Moment C)} {event : AxisEvent} {moment : Moment C}
    (h : MoveEnd since event) (hcalm : moment.accepted? ≠ some .stopDecelerated) :
    MoveEnd (since ++ [moment]) event := by
  cases h with
  | done hnone => exact .done (mt (hasAccepted_concat_of_ne hcalm).1 hnone)
  | stopped hstop => exact .stopped (hasAccepted_concat.2 (.inl hstop))
  | aborted habort =>
    refine .aborted (habort.imp ?_ ?_)
    · exact fun h => hasAccepted_concat.2 (.inl h)
    · exact fun h => hasAccepted_concat.2 (.inl h)
  | fault fault => exact .fault fault

namespace Axis

/-- From the acceptance of a move to the event that ends it: the move goes on and the flag tells
whether a stop of it was requested, or its end waits to be reported. -/
inductive IsUnderWay (since : List (Moment C)) (axis : Axis C) : Prop where
  | moving (hstate : axis.state.isMoving = true) (hpending : axis.pending = none)
      (hrequest : axis.stopRequested = true ↔ HasAccepted .stopDecelerated since)
  | waiting {event : AxisEvent} (hstate : axis.state = .standby)
      (hpending : axis.pending = some event) (hend : MoveEnd since event)

section

variable {since : List (Moment C)} {axis : Axis C}

/-- A move that has just been accepted is under way, and nobody has requested a stop of it. -/
theorem isUnderWay_of_move {act : AxisAct C} {call : AxisCall}
    (hcall : Moment.accepted? ⟨axis, act⟩ = some call) (hmove : call.isMove = true)
    (hpending : axis.pending = none) :
    (Moment.next ⟨axis, act⟩).IsUnderWay [⟨axis, act⟩] := by
  have hunasked : ¬ HasAccepted .stopDecelerated [⟨axis, act⟩] := by
    rintro ⟨moment, hmem, hstop⟩
    rw [List.mem_singleton.1 hmem, hcall, Option.some.injEq] at hstop
    rw [hstop] at hmove
    cases hmove
  have hstep := Moment.step ⟨axis, act⟩
  rw [hcall] at hstep
  generalize Moment.next ⟨axis, act⟩ = next at hstep ⊢
  generalize Moment.event ⟨axis, act⟩ = event at hstep
  generalize [(⟨axis, act⟩ : Moment C)] = since at hunasked ⊢
  cases hstep with
  | accept hcase =>
    cases hcase with
    | @move _ increments velocity accel torque now _ hstandby =>
      have hreset : (axis.issue increments velocity accel torque now).stopRequested = false := by
        unfold issue
        dsimp only
        split <;> rfl
      rcases axis.issue_cases increments velocity accel torque now with ⟨hs, hp⟩ | ⟨hs, hp⟩
      · refine .moving (by rw [hs]; rfl) (hp.trans hpending) ?_
        rw [hreset]
        exact iff_of_false Bool.false_ne_true hunasked
      · -- a move of no length: it is done at once
        exact .waiting (hs.trans hstandby) hp (.done hunasked)
    | _ => cases hmove

/-- A call that ends what is going on. -/
theorem IsUnderWay.abort {call : AxisCall} {moment : Moment C} {next : Axis C}
    (h : axis.IsUnderWay since) (hcall : moment.accepted? = some call)
    (habort : call = .abort ∨ call = .disable) (hstate : next.state = axis.abort.state)
    (hpending : next.pending = axis.abort.pending) : next.IsUnderWay (since ++ [moment]) := by
  have hcalm : moment.accepted? ≠ some .stopDecelerated := by
    rcases habort with rfl | rfl <;> simp [hcall]
  rcases axis.abort_cases with ⟨hbusy, hs, hp⟩ | ⟨hidle, hs, hp⟩
  · refine .waiting (hstate.trans hs) (hpending.trans hp) (.aborted ?_)
    rcases habort with rfl | rfl
    · exact .inl (hasAccepted_concat.2 (.inr hcall))
    · exact .inr (hasAccepted_concat.2 (.inr hcall))
  · cases h with
    | moving hmoving =>
      rw [AxisState.isBusy_of_isMoving hmoving] at hidle
      cases hidle
    | waiting hstandby hwaits hend =>
      exact .waiting (hstate.trans (hs.trans hstandby)) (hpending.trans (hp.trans hwaits))
        (hend.concat hcalm)

/-- An act that leaves the state, the request and the event that waits as they are. -/
theorem IsUnderWay.congr {moment : Moment C} {next : Axis C} (h : axis.IsUnderWay since)
    (hcalm : moment.accepted? ≠ some .stopDecelerated) (hstate : next.state = axis.state)
    (hpending : next.pending = axis.pending) (hrequest : next.stopRequested = axis.stopRequested) :
    next.IsUnderWay (since ++ [moment]) := by
  cases h with
  | moving hmoving hnone hflag =>
    refine .moving (hstate ▸ hmoving) (hpending.trans hnone) ?_
    rw [hrequest, hflag, hasAccepted_concat_of_ne hcalm]
  | waiting hstandby hwaits hend =>
    exact .waiting (hstate.trans hstandby) (hpending.trans hwaits) (hend.concat hcalm)

/-- A call that is accepted while a move is under way: a stop, an abort, or one that leaves the move
alone. -/
theorem IsUnderWay.accept {call : AxisCall} {moment : Moment C} {next : Axis C}
    (h : axis.IsUnderWay since) (hcase : axis.CallCase call next)
    (hcall : moment.accepted? = some call) (hmoment : moment.axis = axis)
    (horderly : moment.IsOrderly) : next.IsUnderWay (since ++ [moment]) := by
  obtain ⟨hkept, hfree⟩ := horderly call hcall
  rw [hmoment] at hfree
  -- nothing new begins: the move goes on, or its end waits
  have hbegins (hstandby : axis.state = .standby) (hmotion : call.startsMotion = true) : False := by
    cases h with
    | moving hmoving =>
      rw [hstandby] at hmoving
      cases hmoving
    | waiting _ hwaits =>
      rw [hfree hmotion] at hwaits
      cases hwaits
  cases hcase with
  | move hmove hstandby =>
    exact (hbegins hstandby (AxisCall.startsMotion_of_isMove hmove)).elim
  | home hstandby => exact (hbegins hstandby rfl).elim
  | stop hmoving =>
    cases h with
    | moving _ hnone =>
      exact .moving hmoving hnone (iff_of_true rfl (hasAccepted_concat.2 (.inr hcall)))
    | waiting hstandby =>
      rw [hstandby] at hmoving
      cases hmoving
  | clear hfault =>
    cases h with
    | moving hmoving =>
      cases hstate : axis.state <;> rw [hstate] at hmoving hfault <;> cases hmoving <;> cases hfault
    | waiting hstandby =>
      rw [hstandby] at hfault
      cases hfault
  | unfaulted | enable => exact h.congr (by simp [hcall]) rfl rfl rfl
  | discard => exact absurd rfl hkept
  | abort => exact h.abort hcall (.inl rfl) rfl rfl
  | disable => exact h.abort hcall (.inr rfl) rfl rfl

/-- An update without an event leaves a move under way. -/
theorem IsUnderWay.update {now : Nat} {next : Axis C} {moment : Moment C}
    (h : axis.IsUnderWay since) (hcase : axis.UpdateCase now next none)
    (hcall : moment.accepted? = none) : next.IsUnderWay (since ++ [moment]) := by
  have hcalm : moment.accepted? ≠ some .stopDecelerated := by simp [hcall]
  cases h with
  | waiting _ hwaits =>
    -- an event that waits is reported by the next update
    have hnone : axis.pending = none := by cases hcase <;> assumption
    rw [hwaits] at hnone
    cases hnone
  | moving hmoving hnone hflag =>
    have hkept : axis.sampleEffort.stopRequested = true ↔
        HasAccepted .stopDecelerated (since ++ [moment]) :=
      hflag.trans (hasAccepted_concat_of_ne hcalm).symm
    cases hcase with
    | go => exact .moving hmoving hnone hkept
    | depart => exact .moving rfl hnone hkept
    | rest _ hidle =>
      rw [AxisState.isBusy_of_isMoving hmoving] at hidle
      cases hidle
    | homing _ hhoming =>
      rw [hhoming] at hmoving
      cases hmoving

/-- **Every act without an event leaves a move under way**, if it is orderly. -/
theorem IsUnderWay.next {act : AxisAct C} (h : axis.IsUnderWay since)
    (horderly : Moment.IsOrderly ⟨axis, act⟩) (hquiet : Moment.event ⟨axis, act⟩ = none) :
    (Moment.next ⟨axis, act⟩).IsUnderWay (since ++ [⟨axis, act⟩]) := by
  obtain ⟨moment, hmoment⟩ : ∃ moment : Moment C, moment = ⟨axis, act⟩ := ⟨_, rfl⟩
  have hstep := moment.step
  have haxis : moment.axis = axis := by rw [hmoment]
  have hact : moment.act = act := by rw [hmoment]
  rw [← hmoment] at horderly hquiet ⊢
  rw [hquiet, haxis, hact] at hstep
  generalize moment.next = next at hstep ⊢
  generalize hcall : moment.accepted? = call? at hstep
  generalize hevent : (none : Option AxisEvent) = event at hstep
  cases hstep with
  | sense feedback => exact h.congr (by simp [hcall]) rfl rfl rfl
  | refuse => exact h.congr (by simp [hcall]) rfl rfl rfl
  | accept hcase => exact h.accept hcase hcall haxis horderly
  | update now =>
    have hcase := axis.update_case now
    rw [← hevent] at hcase
    exact h.update hcase hcall

/-- A move that gives up its start has been asked to stop. -/
theorem stopRequested_of_giveUp {now start : Nat} (hpending : axis.pending = none)
    (hstate : axis.state = .startingMove start) (hevent : (axis.update now).2 = some .stopped) :
    axis.stopRequested = true := by
  cases hbit : axis.anyFault with
  | true =>
    rw [update_of_fault_bit now hpending (by rw [hstate]; rfl) hbit] at hevent
    cases hevent
  | false =>
    rw [update_of_starting hpending hstate hbit, updateStarting] at hevent
    split at hevent
    · cases hevent
    split at hevent
    · assumption
    split at hevent <;> cases hevent

/-- **The event that ends a move under way.** -/
theorem IsUnderWay.ends {now : Nat} {event : AxisEvent} (h : axis.IsUnderWay since)
    (hevent : (axis.update now).2 = some event) :
    MoveEnd since event ∧ (axis.update now).1.state.isBusy = false := by
  cases h with
  | waiting hstandby hwaits hend =>
    rw [update_of_pending hwaits] at hevent ⊢
    cases hevent
    have hrest : axis.sampleEffort.state = .standby := hstandby
    exact ⟨hend, by rw [hrest]; rfl⟩
  | moving hmoving hnone hflag =>
    have hcase := axis.update_case now
    rw [hevent] at hcase
    generalize (axis.update now).1 = next at hcase ⊢
    cases hcase with
    | report hwaits =>
      rw [hnone] at hwaits
      cases hwaits
    | hardware => exact ⟨.fault .hardware, rfl⟩
    | giveUp _ hstate =>
      exact ⟨.stopped (hflag.1 (stopRequested_of_giveUp hnone hstate hevent)), rfl⟩
    | @fail fault =>
      refine ⟨.fault fault, ?_⟩
      simp only [failMove]
      split <;> rfl
    | arrive _ _ _ _ hend =>
      refine ⟨?_, rfl⟩
      rw [hend]
      split
      · rename_i hasked
        exact .stopped (hflag.1 hasked)
      · rename_i hunasked
        exact .done (mt hflag.2 hunasked)
    | homing _ hhoming =>
      rw [hhoming] at hmoving
      cases hmoving

/-! ## A request from before the move -/

/-- **A request from before a move is gone when the move has been accepted**: the axis is then the
same with and without it. -/
theorem next_of_leftOver {call : AxisCall} (hmove : call.isMove = true)
    (hcall : Moment.accepted? ⟨axis, .call call⟩ = some call) (leftOver : Bool) :
    Moment.accepted? ⟨{ axis with stopRequested := leftOver }, .call call⟩ = some call ∧
      Moment.next ⟨{ axis with stopRequested := leftOver }, .call call⟩ =
        Moment.next ⟨axis, .call call⟩ := by
  obtain ⟨-, next, hrun⟩ := Moment.run_of_accepted hcall
  have hflagged : call.attempt.run { axis with stopRequested := leftOver } = .ok () next := by
    -- no test of a move reads the request, and the move itself resets it
    cases call with
    | moveTo request now =>
      have haccepted := tryMoveTo_ok.1 hrun
      exact tryMoveTo_ok.2 haccepted
    | moveIncrements increments velocity accel torque now =>
      have haccepted := tryMoveIncrements_ok.1 hrun
      exact tryMoveIncrements_ok.2 haccepted
    | _ => cases hmove
  simp only [Moment.accepted?, Moment.next, hflagged, hrun, and_self]

end

end Axis

/-! ## Every move -/

/-- What becomes of a move that an axis accepts, with the acts that come after it. -/
structure EndsAsRequested (axis : Axis C) (call : AxisCall) (during : List (AxisAct C)) : Prop where
  /-- The move goes on, or its end waits to be reported. -/
  lasts : (axis.run (.call call :: during)).state.isMoving = true ∨
    (axis.run (.call call :: during)).pending.isSome = true
  /-- The next event is the end of the move. -/
  ends : ∀ now event,
    Moment.event ⟨axis.run (.call call :: during), .update now⟩ = some event →
      MoveEnd (axis.moments (.call call :: during)) event ∧
        (Moment.next ⟨axis.run (.call call :: during), .update now⟩).state.isBusy = false
  /-- It makes no difference whether a request was left over when the move came. -/
  ignores : ∀ leftOver acts, Axis.run { axis with stopRequested := leftOver } (.call call :: acts) =
    axis.run (.call call :: acts)

/-- **A move ends in `stopped` exactly if a stop of it was requested.** It is accepted after any run
of any axis, no motion begins since then over an event that waits, no event is dropped, and none has
been reported yet. -/
theorem move_ends_as_requested {start : Axis C} {before during : List (AxisAct C)}
    {call : AxisCall} (hcall : Moment.accepted? ⟨start.run before, .call call⟩ = some call)
    (hmove : call.isMove = true)
    (horderly : ∀ moment ∈ (start.run before).moments (.call call :: during), moment.IsOrderly)
    (hquiet : ∀ moment ∈ (start.run before).moments (.call call :: during), moment.event = none) :
    EndsAsRequested (start.run before) call during := by
  generalize start.run before = axis at *
  have hbegun : (Moment.next ⟨axis, .call call⟩).IsUnderWay [⟨axis, .call call⟩] := by
    have hfirst := (horderly ⟨axis, .call call⟩ (.head _) call hcall).2
    exact Axis.isUnderWay_of_move hcall hmove (hfirst (AxisCall.startsMotion_of_isMove hmove))
  -- the invariant counts from the acceptance on, so that moment stands before all the others
  have hunderWay : (axis.run (.call call :: during)).IsUnderWay
      (axis.moments (.call call :: during)) := by
    refine Axis.run_induction (fun past axis' =>
      (∀ moment ∈ past, moment.IsOrderly ∧ moment.event = none) →
        axis'.IsUnderWay (⟨axis, .call call⟩ :: past)) ?step during (fun _ => hbegun) ?all
    case step =>
      intro past axis' act ih hpast
      obtain ⟨hlast, hsilent⟩ := hpast ⟨axis', act⟩ (by simp)
      exact (ih fun moment hmem => hpast moment (by simp [hmem])).next hlast hsilent
    case all =>
      intro moment hmem
      exact ⟨horderly moment (.tail _ hmem), hquiet moment (.tail _ hmem)⟩
  refine ⟨?lasts, fun now event hevent => hunderWay.ends hevent, ?ignores⟩
  case lasts =>
    cases hunderWay with
    | moving hmoving => exact .inl hmoving
    | waiting _ hwaits => exact .inr (by rw [hwaits]; rfl)
  case ignores =>
    intro leftOver acts
    exact congrArg (Axis.run · acts) (Axis.next_of_leftOver hmove hcall leftOver).2

/-- A stop comes before a move has started, and its request is left over. -/
def spindleGivenUp : List (AxisAct ScriptedChannel) :=
  spindleHoming ++ [.call (.moveIncrements 10 1 1 50 14), .sense fun _ => ScriptedChannel.halt,
    .call .stopDecelerated, .update 15]

/-- The next move arrives, and one that is stopped ends so. -/
theorem move_ends_as_requested_spindle :
    let call : AxisCall := .moveIncrements 10 1 1 50 16
    let arrive := [.update 17, .sense fun _ => ScriptedChannel.finish]
    let stop := [.update 17, .call .stopDecelerated, .sense fun _ => ScriptedChannel.halt]
    (spindle.run spindleGivenUp).stopRequested = true ∧
      Moment.event ⟨(spindle.run spindleGivenUp).run (.call call :: arrive), .update 18⟩ =
        some .done ∧
      EndsAsRequested (spindle.run spindleGivenUp) call arrive ∧
      Moment.event ⟨(spindle.run spindleGivenUp).run (.call call :: stop), .update 18⟩ =
        some .stopped ∧
      EndsAsRequested (spindle.run spindleGivenUp) call stop :=
  ⟨by decide +kernel, by decide +kernel,
    move_ends_as_requested (by decide +kernel) rfl (by decide +kernel) (by decide +kernel),
    by decide +kernel,
    move_ends_as_requested (by decide +kernel) rfl (by decide +kernel) (by decide +kernel)⟩

end MotionControl
