import MotionControl.Proofs.Axis.Run
import MotionControl.Proofs.Recording

/-!
# The moves that an act commands

An act comes to an axis whose channels have a recorder each, and the recorders tell what the act
has commanded of the channels.

* `Moment.received`: what an act commands of each channel; `Moment.next_recorded`: the recording
  does not disturb the act.
* `RecordedChannel.moves`, `Axis.moves`: the moves among the commands.
* `CallCase.moves`, `UpdateCase.moves`: a call that is not for a move commands none, and an update
  none but the one that starts a leg of a homing run.
* `Moment.Commands`, `Moment.commands_of_received`: **where the moves come from**; `Moment.adds`: an
  act commands one of them at most.
-/

namespace MotionControl

open Attempt

variable {C : Type} [MotorChannel C]

/-! ## Recording an act -/

/-- The axis with a recorder for each channel. -/
def Axis.recorded {C : Type} (axis : Axis C) : Axis (RecordedChannel C) :=
  axis.convert RecordedChannel.ofChannel

/-- The act as it comes to channels with recorders. What a channel does on its own is no command. -/
def AxisAct.recorded {C : Type} : AxisAct C → AxisAct (RecordedChannel C)
  | .sense feedback =>
    .sense fun i recorded => { recorded with channel := feedback i recorded.channel }
  | .call asked => .call asked
  | .update now => .update now

namespace Moment

/-- The moment with a recorder for each channel. -/
def recorded {C : Type} (moment : Moment C) : Moment (RecordedChannel C) :=
  ⟨moment.axis.recorded, moment.act.recorded⟩

/-- What the act commands of the channels, in the order of the channels. -/
def received (moment : Moment C) : List (List ChannelCommand) :=
  moment.recorded.next.channels.map (·.commands)

end Moment

omit [MotorChannel C] in
theorem Axis.forget_recorded (axis : Axis C) :
    axis.recorded.convert RecordedChannel.channel = axis :=
  (axis.convert_convert RecordedChannel.ofChannel RecordedChannel.channel).trans axis.convert_id

/-- A call takes no notice of the make of the channels. -/
theorem AxisCall.simulates {D : Type} [MotorChannel D] {f : ChannelMap C D} (call : AxisCall) :
    Simulates (Axis.Converts f) Eq (call.attempt : Attempt (Axis C) Unit) call.attempt := by
  cases call with
  | moveTo => exact Axis.simulates_tryMoveTo
  | moveIncrements => exact Axis.simulates_tryMoveIncrements
  | home => exact Axis.simulates_tryHome
  | stopDecelerated => exact Axis.simulates_tryStopDecelerated
  | clearFault => exact Axis.simulates_tryClearFault
  | abort => exact Axis.simulates_abort
  | discardPending => exact Axis.Converts.modify fun _ => rfl
  | enable => exact Axis.simulates_enable
  | disable => exact Axis.simulates_disable

/-- **The recording does not disturb the act.** -/
theorem Moment.next_recorded (moment : Moment C) :
    moment.recorded.next.convert (RecordedChannel.forget (C := C)) = moment.next ∧
      moment.recorded.event = moment.event ∧ moment.recorded.accepted? = moment.accepted? := by
  obtain ⟨axis, act⟩ := moment
  have hforget : axis.recorded.convert (RecordedChannel.forget (C := C)) = axis :=
    axis.forget_recorded
  cases act with
  | sense feedback =>
    refine ⟨?_, rfl, rfl⟩
    have hchannels : ((axis.channels.map RecordedChannel.ofChannel).mapIdx fun i recorded =>
        ({ recorded with channel := feedback i recorded.channel } : RecordedChannel C)).map
          RecordedChannel.channel = axis.channels.mapIdx feedback := by
      refine List.ext_getElem? fun i => ?_
      simp only [List.getElem?_map, List.getElem?_mapIdx, Option.map_map]
      rfl
    simp only [recorded, AxisAct.recorded, Moment.next, Axis.sense, Axis.convert, Axis.recorded,
      RecordedChannel.forget, hchannels]
  | update now =>
    have hupdate := axis.recorded.update_convert (RecordedChannel.forget (C := C)) now
    rw [hforget] at hupdate
    simp only [recorded, AxisAct.recorded, Moment.next, Moment.event, Moment.accepted?, hupdate]
    exact ⟨rfl, rfl, trivial⟩
  | call call =>
    have hagree := call.simulates (f := RecordedChannel.forget (C := C)) axis.recorded axis
      hforget.symm
    simp only [recorded, AxisAct.recorded, Moment.next, Moment.event, Moment.accepted?]
    generalize call.attempt.run axis.recorded = result at hagree ⊢
    generalize call.attempt.run axis = result' at hagree ⊢
    cases hagree with
    | ok hvalue hstate =>
      cases hstate
      exact ⟨rfl, trivial, rfl⟩
    | error hstate =>
      cases hstate
      exact ⟨rfl, trivial, rfl⟩

/-! ## Moves -/

/-- The increments, speed and acceleration of a command for a move. -/
def ChannelCommand.move? : ChannelCommand → Option (Int × Single × Single)
  | .moveIncrements increments velocity accel => some (increments, velocity, accel)
  | _ => none

namespace RecordedChannel

/-- The moves that a channel has been commanded. -/
def moves {C : Type} (recorded : RecordedChannel C) : List (Int × Single × Single) :=
  recorded.commands.filterMap ChannelCommand.move?

open MotorChannel

variable (recorded : RecordedChannel C)

theorem moves_moveIncrements (increments : Int) (velocity accel : Single) :
    (moveIncrements increments velocity accel recorded).moves =
      recorded.moves ++ [(increments, velocity, accel)] := by
  show List.filterMap _ (recorded.commands ++ [_]) = _
  rw [List.filterMap_append]
  rfl

omit [MotorChannel C] in
/-- Any other command is no move. -/
theorem moves_note {command : ChannelCommand} (hother : command.move? = none) (carryOut : C → C) :
    (note command carryOut recorded).moves = recorded.moves := by
  show List.filterMap _ (recorded.commands ++ [command]) = _
  rw [List.filterMap_append, List.filterMap_cons_none hother, List.filterMap_nil, List.append_nil]
  rfl

end RecordedChannel

namespace Axis

/-- The moves that the channels have been commanded. -/
def moves {C : Type} (axis : Axis (RecordedChannel C)) : List (List (Int × Single × Single)) :=
  axis.channels.map RecordedChannel.moves

variable {axis next : Axis (RecordedChannel C)} {now : Nat} {event : Option AxisEvent}

omit [MotorChannel C] in
theorem moves_mapChannels {f : RecordedChannel C → RecordedChannel C}
    (h : ∀ c, (f c).moves = c.moves) : (axis.mapChannels f).moves = axis.moves := by
  simp [moves, mapChannels, h]

theorem moves_stopAll (axis : Axis (RecordedChannel C)) : axis.stopAll.moves = axis.moves :=
  moves_mapChannels fun c => c.moves_note rfl _

theorem moves_setAllEnabled (enabled : Bool) (axis : Axis (RecordedChannel C)) :
    (axis.setAllEnabled enabled).moves = axis.moves :=
  moves_mapChannels fun c => c.moves_note rfl _

theorem moves_applyTorqueLimit (percent : Single) (axis : Axis (RecordedChannel C)) :
    (axis.applyTorqueLimit percent).moves = axis.moves :=
  moves_mapChannels fun c => c.moves_note rfl _

theorem moves_endDestress (state : AxisState) (axis : Axis (RecordedChannel C)) :
    (axis.endDestress state).moves = axis.moves := by
  unfold endDestress
  split
  · exact moves_setAllEnabled true axis
  · rfl

theorem moves_abort (axis : Axis (RecordedChannel C)) : axis.abort.moves = axis.moves := by
  unfold abort
  dsimp only
  split
  · exact (moves_endDestress axis.state { axis.stopAll with stopRequested := false }).trans
      axis.moves_stopAll
  · exact axis.moves_stopAll

theorem moves_moveIncrements (increments : Int) (velocity accel : Single)
    (axis : Axis (RecordedChannel C)) :
    (axis.mapChannels (MotorChannel.moveIncrements increments velocity accel)).moves =
      axis.moves.map (· ++ [(increments, velocity, accel)]) := by
  simp [moves, mapChannels, RecordedChannel.moves_moveIncrements]

/-- What a move commands. -/
theorem moves_issue (axis : Axis (RecordedChannel C)) (increments : Int)
    (velocity accel torque : Single) (now : Nat) :
    (axis.issue increments velocity accel torque now).moves =
      if increments = 0 then axis.moves
      else axis.moves.map (· ++ [(increments, velocity, accel)]) := by
  unfold issue
  dsimp only
  split
  · exact moves_applyTorqueLimit torque axis
  · let ready := { (axis.applyTorqueLimit torque).recordOrigins with stopRequested := false }
    have hready : ready.moves = axis.moves := moves_applyTorqueLimit torque axis
    rw [← hready]
    exact ready.moves_moveIncrements increments velocity accel

/-- A search commands no move. -/
theorem moves_walked {channels : List (RecordedChannel C)}
    (hwalked : List.Forall₂ IsWalked axis.channels channels) :
    channels.map RecordedChannel.moves = axis.moves := by
  unfold moves
  generalize axis.channels = before at hwalked
  induction hwalked with
  | nil => rfl
  | cons hfirst _ ih =>
    rw [List.map_cons, List.map_cons, ih]
    rcases hfirst with hsame | hstopped
    · rw [hsame]
    · rw [hstopped]
      exact congrArg (· :: _) (RecordedChannel.moves_note _ rfl _)

/-- **A call that is not for a move commands none.** -/
theorem CallCase.moves {call : AxisCall} (h : axis.CallCase call next)
    (hmove : call.isMove = false) : next.moves = axis.moves := by
  cases h with
  | move hcall =>
    rw [hmove] at hcall
    cases hcall
  | home => exact moves_applyTorqueLimit _ axis
  | stop => exact moves_mapChannels fun c => c.moves_note rfl _
  | clear | unfaulted | discard => rfl
  | abort => exact axis.moves_abort
  | enable => exact moves_setAllEnabled true axis
  | disable => exact (moves_setAllEnabled false axis.abort).trans axis.moves_abort

/-- A homing run commands a move where it starts a leg. -/
theorem HomingCase.moves {session : HomingSession} (h : axis.HomingCase session now next event) :
    next.moves = axis.moves ∨ ∃ leg, session.phase = .leg leg .start ∧
      next.moves = axis.moves.map
        (· ++ [(axis.legIncrements session leg,
          leg.speed session.settings * axis.settings.stepsPerUnit,
          session.settings.accel * axis.settings.stepsPerUnit)]) := by
  cases h with
  | @fail channels failed fault hwalked =>
    have hstopped : ({ axis with channels }.stopAll).moves = axis.moves :=
      ({ axis with channels }.moves_stopAll).trans (moves_walked hwalked)
    exact .inl ((moves_endDestress (.homing failed) _).trans hstopped)
  | wait | depart | retreat => exact .inl rfl
  | @start leg hphase =>
    let ready := (axis.applyTorqueLimit session.torque).recordOrigins
    have hready : ready.moves = axis.moves := moves_applyTorqueLimit session.torque axis
    refine .inr ⟨leg, hphase, ?_⟩
    rw [← hready]
    exact ready.moves_moveIncrements _ _ _
  | seek hphase hwalk | find hphase hwalk => exact .inl (moves_walked (walked_of_walk hwalk))
  | zero => exact .inl (moves_mapChannels fun c => c.moves_note rfl _)
  | release =>
    have hzeroed : (axis.mapChannels MotorChannel.setZero).moves = axis.moves :=
      moves_mapChannels fun c => c.moves_note rfl _
    exact .inl ((moves_setAllEnabled false (axis.mapChannels MotorChannel.setZero)).trans hzeroed)
  | settle => exact .inl (moves_setAllEnabled true axis)

/-- **An update commands a move where a homing run starts a leg**, and nowhere else. -/
theorem UpdateCase.moves (h : axis.UpdateCase now next event) :
    next.moves = axis.moves ∨ ∃ session leg, axis.state = .homing session ∧
      session.phase = .leg leg .start ∧
      next.moves = axis.moves.map
        (· ++ [(axis.legIncrements session leg,
          leg.speed session.settings * axis.settings.stepsPerUnit,
          session.settings.accel * axis.settings.stepsPerUnit)]) := by
  cases h with
  | report | rest | go | depart | giveUp | arrive => exact .inl rfl
  | hardware =>
    exact .inl ((moves_endDestress axis.state axis.sampleEffort.stopAll).trans
      axis.sampleEffort.moves_stopAll)
  | fail => exact .inl axis.sampleEffort.moves_stopAll
  | homing hpending hstate hcase =>
    rcases hcase.moves with hnone | ⟨leg, hphase, hmoves⟩
    · exact .inl hnone
    · exact .inr ⟨_, leg, hstate, hphase, hmoves⟩

end Axis

/-! ## Where the moves come from -/

/-- The act commands this move of the channels. -/
inductive Moment.Commands (moment : Moment C) : Int → Single → Single → Prop where
  | moveTo {request : MoveRequest} {now : Nat}
      (hcall : moment.accepted? = some (.moveTo request now))
      (hsome : moment.axis.requestedIncrements request ≠ 0) :
      Commands moment (moment.axis.requestedIncrements request)
        (request.velocity * moment.axis.settings.stepsPerUnit)
        (request.accel * moment.axis.settings.stepsPerUnit)
  | moveIncrements {increments : Int} {velocity accel torque : Single} {now : Nat}
      (hcall : moment.accepted? = some (.moveIncrements increments velocity accel torque now))
      (hsome : increments ≠ 0) :
      Commands moment increments velocity accel
  | leg {session : HomingSession} {leg : Leg} {now : Nat} (hact : moment.act = .update now)
      (hstate : moment.axis.state = .homing session) (hphase : session.phase = .leg leg .start) :
      Commands moment (moment.axis.legIncrements session leg)
        (leg.speed session.settings * moment.axis.settings.stepsPerUnit)
        (session.settings.accel * moment.axis.settings.stepsPerUnit)

/-- What an act adds to the moves that the channels have been commanded: one that it commands, or
nothing. -/
def Moment.Adds (moment : Moment C) : Prop :=
  moment.recorded.next.moves = moment.axis.recorded.moves ∨
    ∃ increments velocity accel, moment.Commands increments velocity accel ∧
      moment.recorded.next.moves =
        moment.axis.recorded.moves.map (· ++ [(increments, velocity, accel)])

/-- A call adds the move that it asks for, if it is accepted and has some length. -/
theorem Moment.adds_call (axis : Axis C) (call : AxisCall) : Adds ⟨axis, .call call⟩ := by
  obtain ⟨-, -, haccepted⟩ := Moment.next_recorded ⟨axis, .call call⟩
  unfold Adds
  simp only [recorded, AxisAct.recorded, Moment.next, Moment.accepted?] at haccepted ⊢
  cases hrun : call.attempt.run axis.recorded with
  | error refusal refused =>
    have hsame : refused = axis.recorded := call.attempt_atomic _ _ _ hrun
    exact .inl (congrArg Axis.moves hsame)
  | ok u next =>
    rw [hrun] at haccepted
    cases call with
    | moveTo request now =>
      obtain ⟨-, -, -, -, -, hissue⟩ := Axis.tryMoveTo_ok.1 hrun
      -- the increments depend on a position, which the recorders do not change
      have hsame := axis.recorded.requestedIncrements_convert
        (RecordedChannel.forget (C := C)) request
      rw [show axis.recorded.convert (RecordedChannel.forget (C := C)) = axis from
        axis.forget_recorded] at hsame
      have hmoved := axis.recorded.moves_issue (axis.recorded.requestedIncrements request)
        (request.velocity * axis.recorded.settings.stepsPerUnit)
        (request.accel * axis.recorded.settings.stepsPerUnit) request.torque now
      rw [hissue, ← hsame] at hmoved
      by_cases hsome : axis.requestedIncrements request = 0
      · exact .inl (hmoved.trans (if_pos hsome))
      · exact .inr ⟨_, _, _, .moveTo haccepted.symm hsome, hmoved.trans (if_neg hsome)⟩
    | moveIncrements increments velocity accel torque now =>
      obtain ⟨-, -, -, -, -, hissue⟩ := Axis.tryMoveIncrements_ok.1 hrun
      have hmoved := axis.recorded.moves_issue increments velocity accel torque now
      rw [hissue] at hmoved
      by_cases hsome : increments = 0
      · exact .inl (hmoved.trans (if_pos hsome))
      · exact .inr ⟨_, _, _, .moveIncrements haccepted.symm hsome, hmoved.trans (if_neg hsome)⟩
    | _ => exact .inl ((Axis.callCase_of_run hrun).moves rfl)

/-- **What any act adds to the moves.** -/
theorem Moment.adds (moment : Moment C) : moment.Adds := by
  obtain ⟨axis, act⟩ := moment
  cases act with
  | sense feedback =>
    refine .inl (List.ext_getElem? fun i => ?_)
    simp only [recorded, AxisAct.recorded, Moment.next, Axis.sense, Axis.moves, List.getElem?_map,
      List.getElem?_mapIdx, Option.map_map]
    rfl
  | call call => exact adds_call axis call
  | update now =>
    rcases (axis.recorded.update_case now).moves with hsame | ⟨session, leg, hstate, hphase, hnext⟩
    · exact .inl hsame
    · exact .inr ⟨_, _, _, .leg rfl hstate hphase, hnext⟩

omit [MotorChannel C] in
/-- Nothing has been commanded of an axis that has just got its recorders. -/
theorem Axis.moves_recorded {axis : Axis C} {moves : List (Int × Single × Single)}
    (h : moves ∈ axis.recorded.moves) : moves = [] := by
  simp only [Axis.moves, Axis.recorded, Axis.convert, List.map_map, List.mem_map] at h
  obtain ⟨c, -, rfl⟩ := h
  rfl

/-- **Every move that a channel receives** is one that the act commands. -/
theorem Moment.commands_of_received {moment : Moment C} {commands : List ChannelCommand}
    {increments : Int} {velocity accel : Single} (hcommands : commands ∈ moment.received)
    (hmove : .moveIncrements increments velocity accel ∈ commands) :
    moment.Commands increments velocity accel := by
  -- the moves of the channel whose commands these are
  obtain ⟨moves, hmoves, hmem⟩ : ∃ moves ∈ moment.recorded.next.moves,
      (increments, velocity, accel) ∈ moves := by
    obtain ⟨c, hc, rfl⟩ := List.mem_map.1 hcommands
    exact ⟨c.moves, List.mem_map_of_mem hc, List.mem_filterMap.2 ⟨_, hmove, rfl⟩⟩
  rcases moment.adds with hsame | ⟨_, _, _, hcommanded, hnext⟩
  · rw [hsame] at hmoves
    rw [Axis.moves_recorded hmoves] at hmem
    cases hmem
  · rw [hnext] at hmoves
    obtain ⟨before, hbefore, rfl⟩ := List.mem_map.1 hmoves
    rw [Axis.moves_recorded hbefore] at hmem
    cases List.mem_singleton.1 hmem
    exact hcommanded

end MotionControl
