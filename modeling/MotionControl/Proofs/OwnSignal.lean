import MotionControl.Proofs.Axis.Recording
import MotionControl.Proofs.Axis.Search
import MotionControl.Proofs.Deadlines
import Mathlib.Algebra.BigOperators.Group.List.Basic
import Mathlib.Algebra.Order.Ring.Nat

/-!
# Each channel is stopped by its own signal

In a search the channels come to the reference one by one. Each of them is stopped when it is there
itself, and the leg is over when the last of them is.

* `Moment.stopsOf`: how often an act stops a channel at once.
* `Moment.Finds`, `HasFound`, `Moment.FindsFirst`: an update finds a channel at the reference, has
  found it before, or finds it for the first time.
* `Takes`, `HasTaken`: a homing run is in a leg, or has just completed it.
* `IsSearching`, `IsSearching.next`: what every act keeps in a search leg.
* `SearchFailure`: why a search leg fails.
* `channel_stopped_by_own_signal`: **each channel is stopped once, by its own signal, and the leg is
  over when all channels have signaled**; a leg that fails stops all channels.
-/

namespace MotionControl

/-! ## Stops -/

namespace RecordedChannel

/-- How often a channel has been stopped at once. -/
def stops {C : Type} (recorded : RecordedChannel C) : Nat := recorded.commands.count .stopAbrupt

variable {C : Type}

theorem stops_stopAbrupt [MotorChannel C] (recorded : RecordedChannel C) :
    (MotorChannel.stopAbrupt recorded).stops = recorded.stops + 1 := by
  show List.count _ (recorded.commands ++ [.stopAbrupt]) = _
  rw [List.count_append, List.count_singleton_self]
  rfl

/-- Any other command is no stop. -/
theorem stops_note {command : ChannelCommand} (hother : command ≠ .stopAbrupt) (carryOut : C → C)
    (recorded : RecordedChannel C) : (note command carryOut recorded).stops = recorded.stops := by
  show List.count _ (recorded.commands ++ [command]) = _
  rw [List.count_append, List.count_singleton, beq_eq_false_iff_ne.2 hother]
  rfl

end RecordedChannel

variable {C : Type} [MotorChannel C]

/-- How often an act stops a channel at once. -/
def Moment.stopsOf (i : Nat) (moment : Moment C) : Nat :=
  (moment.received[i]?).elim 0 (List.count .stopAbrupt)

theorem Moment.stopsOf_eq {moment : Moment C} {i : Nat} {c : RecordedChannel C}
    (h : moment.recorded.next.channels[i]? = some c) : moment.stopsOf i = c.stops := by
  simp [stopsOf, received, h, RecordedChannel.stops]

namespace Axis

/-- How often each channel has been stopped at once. -/
def stops {C : Type} (axis : Axis (RecordedChannel C)) : List Nat :=
  axis.channels.map RecordedChannel.stops

section

variable {axis next : Axis (RecordedChannel C)} {now : Nat} {event : Option AxisEvent}
  {session : HomingSession}

omit [MotorChannel C] in
theorem stops_mapChannels {f : RecordedChannel C → RecordedChannel C}
    (h : ∀ c, (f c).stops = c.stops) : (axis.mapChannels f).stops = axis.stops := by
  simp [stops, mapChannels, h]

theorem stops_setAllEnabled (enabled : Bool) (axis : Axis (RecordedChannel C)) :
    (axis.setAllEnabled enabled).stops = axis.stops :=
  stops_mapChannels fun c => c.stops_note (by nofun) _

/-- A homing run that goes on stops no channel, except in a leg that travels. -/
theorem HomingCase.stops_eq (h : axis.HomingCase session now next none)
    (hphase : ∀ leg, session.phase ≠ .leg leg .moving) : next.stops = axis.stops := by
  cases h with
  | wait | depart | retreat => rfl
  | start =>
    have hlimit : ((axis.applyTorqueLimit session.torque).recordOrigins).stops = axis.stops :=
      stops_mapChannels fun c => c.stops_note (by nofun) _
    rw [← hlimit]
    exact stops_mapChannels fun c => c.stops_note (by nofun) _
  | seek hmoving | find hmoving => exact absurd hmoving (hphase _)
  | release =>
    have hzeroed : (axis.mapChannels MotorChannel.setZero).stops = axis.stops :=
      stops_mapChannels fun c => c.stops_note (by nofun) _
    exact (stops_setAllEnabled false (axis.mapChannels MotorChannel.setZero)).trans hzeroed

/-- Every channel has been stopped. -/
def AllStopped {C : Type} (axis : Axis (RecordedChannel C)) : Prop :=
  ∀ c ∈ axis.channels, 1 ≤ c.stops

theorem allStopped_stopAll (axis : Axis (RecordedChannel C)) : axis.stopAll.AllStopped := by
  intro c hc
  obtain ⟨before, -, rfl⟩ := List.mem_map.1 hc
  rw [before.stops_stopAbrupt]
  omega

theorem AllStopped.endDestress (h : axis.AllStopped) (state : AxisState) :
    (axis.endDestress state).AllStopped := by
  unfold Axis.endDestress
  split
  · intro c hc
    obtain ⟨before, hbefore, rfl⟩ := List.mem_map.1 hc
    have hsame : (MotorChannel.setEnabled true before).stops = before.stops :=
      before.stops_note (by nofun) _
    rw [hsame]
    exact h before hbefore
  · exact h

/-- **An operation that fails has every channel stopped**, in the update that reports it. -/
theorem UpdateCase.allStopped {fault : Fault} (h : axis.UpdateCase now next (some (.fault fault)))
    (hpending : axis.pending = none) : next.AllStopped := by
  cases h with
  | report hwaits =>
    rw [hpending] at hwaits
    cases hwaits
  | hardware => exact axis.sampleEffort.allStopped_stopAll.endDestress axis.state
  | fail => exact axis.sampleEffort.allStopped_stopAll
  | arrive _ _ _ _ hevent => split at hevent <;> cases hevent
  | homing _ _ hcase =>
    cases hcase with
    | @fail channels failed =>
      exact ({ axis.sampleEffort with channels }.allStopped_stopAll).endDestress (.homing failed)

end

/-! ## A leg -/

/-- A homing run is in a leg. -/
def Takes {C : Type} (leg : Leg) (axis : Axis C) : Prop :=
  ∃ session stage, axis.state = .homing session ∧ session.phase = .leg leg stage

/-- The leg that a homing run is in. -/
def leg? {C : Type} (axis : Axis C) : Option Leg :=
  match axis.state with
  | .homing session =>
    match session.phase with
    | .leg leg _ => some leg
    | .setZero | .destress _ => none
  | _ => none

omit [MotorChannel C] in
theorem takes_iff {leg : Leg} {axis : Axis C} : axis.Takes leg ↔ axis.leg? = some leg := by
  unfold Takes leg?
  cases axis.state with
  | homing session => cases session with
    | mk phase => cases phase <;> simp
  | _ => simp

instance {C : Type} (leg : Leg) (axis : Axis C) : Decidable (axis.Takes leg) :=
  decidable_of_iff _ takes_iff.symm

/-- A homing run has just completed a leg. -/
def HasTaken {C : Type} (leg : Leg) (axis : Axis C) : Prop :=
  ∃ session, axis.state = .homing session ∧ session.phase = .after leg

omit [MotorChannel C] in
theorem Takes.not_hasTaken {leg : Leg} {axis : Axis C} (h : axis.Takes leg) :
    ¬ axis.HasTaken leg := by
  obtain ⟨session, stage, hstate, hphase⟩ := h
  rintro ⟨session', hstate', hafter⟩
  cases AxisState.homing.inj (hstate.symm.trans hstate')
  have hsame := hphase.symm.trans hafter
  cases leg <;> cases hsame

/-- No event waits while a homing run goes on. -/
def HomesAlone {C : Type} (axis : Axis C) : Prop :=
  ∀ session, axis.state = .homing session → axis.pending = none

theorem HomesAlone.next {axis : Axis C} (h : axis.HomesAlone) (act : AxisAct C) :
    (Moment.next ⟨axis, act⟩).HomesAlone := by
  intro session hnext
  have hstep := Moment.step ⟨axis, act⟩
  generalize Moment.next ⟨axis, act⟩ = next at hstep hnext ⊢
  generalize Moment.event ⟨axis, act⟩ = event at hstep
  generalize Moment.accepted? ⟨axis, act⟩ = call? at hstep
  cases hstep with
  | sense | refuse => exact h session hnext
  | update now => exact axis.update_pending now
  | accept hcase =>
    rcases hcase.homing hnext with ⟨-, _, _, _, rfl, -⟩ | ⟨hsame, -⟩
    · cases hcase with
      | home => rfl
      | move hmove => cases hmove
    have hnone := h session hsame
    cases hcase with
    | move _ hstandby =>
      rw [hsame] at hstandby
      cases hstandby
    | home | discard => rfl
    | stop | clear | unfaulted | enable => exact hnone
    | abort | disable =>
      rcases axis.abort_cases with ⟨-, hstandby, -⟩ | ⟨-, -, hpending⟩
      · have hstate : axis.abort.state = .homing session := hnext
        rw [hstandby] at hstate
        cases hstate
      · exact hpending.trans hnone

end Axis

/-- What an act other than an update of the travelling leg makes of a homing run in the leg. -/
inductive Leg.Approaches (leg : Leg) : HomingSession → HomingSession → Prop where
  | stay {session : HomingSession} : Approaches leg session session
  | start {session session' : HomingSession} (hphase : session.phase = .leg leg .start)
      (hnext : session'.phase = .leg leg .waitStart)
      (hhits : session'.hits = HomingSession.noHits) :
      Approaches leg session session'
  | depart {session session' : HomingSession} (hphase : session.phase = .leg leg .waitStart)
      (hnext : session'.phase = .leg leg .moving) (hhits : session'.hits = session.hits) :
      Approaches leg session session'

namespace Axis

section

variable {axis : Axis C} {act : AxisAct C} {leg : Leg} {session session' : HomingSession}
  {stage : Stage} {now : Nat}

/-- An update after which a homing run goes on reports nothing. -/
theorem quiet_of_homing (hpending : axis.pending = none)
    (hnext : (axis.update now).1.state = .homing session') : (axis.update now).2 = none := by
  have hcase := axis.update_case now
  generalize axis.update now = result at hcase hnext ⊢
  obtain ⟨next, event⟩ := result
  cases hcase with
  | report hwaits =>
    rw [hpending] at hwaits
    cases hwaits
  | rest | go | depart => rfl
  | hardware | giveUp | arrive => cases hnext
  | @fail fault =>
    dsimp only at hnext
    split at hnext <;> cases hnext
  | homing _ _ hcase =>
    cases hcase with
    | fail | zero | settle => cases hnext
    | wait | start | depart | seek | find | retreat | release => rfl

/-- **What an act makes of a search leg** that neither fails nor is aborted: an update of the
travelling leg is a step of the search, and everything else approaches it. -/
theorem legCase (hsound : axis.IsSound) (hpending : axis.pending = none)
    (hstate : axis.state = .homing session) (hphase : session.phase = .leg leg stage)
    (hsearch : leg.isSearch = true)
    (hnext : (Moment.next ⟨axis, act⟩).state = .homing session') :
    (∃ now, act = .update now ∧ stage = .moving ∧
        ∃ found, axis.SearchStep session leg (Moment.next ⟨axis, act⟩) found) ∨
      leg.Approaches session session' ∧ (stage = .moving → ∀ now, act ≠ .update now) := by
  cases act with
  | sense feedback =>
    cases AxisState.homing.inj (hstate.symm.trans hnext)
    exact .inr ⟨.stay, nofun⟩
  | call call =>
    rcases homing_before hnext with hsame | ⟨hstandby, -⟩ | ⟨_, _, hact, -⟩
    · cases AxisState.homing.inj (hstate.symm.trans hsame)
      exact .inr ⟨.stay, nofun⟩
    · rw [hstate] at hstandby
      cases hstandby
    · cases hact
  | update now =>
    have hquiet := quiet_of_homing hpending hnext
    obtain ⟨-, hfree⟩ := free_of_quiet hquiet
    have hstep : axis.sampleEffort.updateHoming session now = ((axis.update now).1, none) := by
      rw [← update_of_homing hpending hstate (hfree (by rw [hstate]; rfl))]
      exact Prod.ext rfl hquiet
    have hnext : (axis.update now).1.state = .homing session' := hnext
    show (∃ now', _ ∧ _ ∧ ∃ found, axis.SearchStep session leg (axis.update now).1 found) ∨ _
    generalize (axis.update now).1 = next at hstep hnext ⊢
    unfold updateHoming at hstep
    split at hstep
    · cases hstep
    rw [hphase] at hstep
    cases stage with
    | start =>
      cases hstep
      cases hnext
      exact .inr ⟨.start hphase rfl rfl, nofun⟩
    | waitStart =>
      dsimp only at hstep
      unfold awaitLeg at hstep
      split at hstep
      · cases hstep
        cases hnext
        exact .inr ⟨.depart hphase rfl rfl, nofun⟩
      split at hstep
      · cases hstep
      · cases hstep
        cases hnext
        exact .inr ⟨.stay, nofun⟩
    | moving =>
      simp only [hsearch, if_true] at hstep
      have hfits := hsound.session session hstate
      exact .inl ⟨now, rfl, rfl, searchStep_of_search hsound hfits hphase hstep⟩

/-! ### The channels with their recorders -/

omit [MotorChannel C] in
theorem isSound_recorded (h : axis.IsSound) : axis.recorded.IsSound := by
  refine ⟨?channels, ?samples, h.pending, ?session⟩
  case channels =>
    rw [recorded, convert, List.length_map]
    exact h.channels_le
  case samples =>
    rw [recorded, convert, List.length_map]
    exact h.samples
  case session =>
    intro session hstate
    have hfits := h.session session hstate
    exact ⟨hfits.settings, hfits.torque, hfits.limit, hfits.hits⟩

omit [MotorChannel C] in
/-- A channel with a new recorder. -/
theorem getElem?_recorded {i : Nat} {c : C} (hc : axis.channels[i]? = some c) :
    axis.recorded.channels[i]? = some (.ofChannel c) := by
  simp only [recorded, convert, List.getElem?_map, hc, Option.map_some]

/-- The recorders do not change where the homing run stands. -/
theorem state_recorded (axis : Axis C) (act : AxisAct C) :
    (Moment.recorded ⟨axis, act⟩).next.state = (Moment.next ⟨axis, act⟩).state :=
  congrArg Axis.state (Moment.next_recorded ⟨axis, act⟩).1

/-- An act that stops none of the recorded channels. -/
theorem stopsOf_eq_zero {i : Nat}
    (h : (Moment.recorded ⟨axis, act⟩).next.stops = axis.recorded.stops) :
    Moment.stopsOf i ⟨axis, act⟩ = 0 := by
  cases hc : (Moment.recorded ⟨axis, act⟩).next.channels[i]? with
  | none => simp [Moment.stopsOf, Moment.received, hc]
  | some c =>
    have hstops : axis.recorded.stops[i]? = some c.stops := by
      rw [← h, stops, List.getElem?_map, hc, Option.map_some]
    rw [Moment.stopsOf_eq hc]
    simp only [stops, recorded, convert, List.getElem?_map, Option.map_map,
      Option.map_eq_some_iff] at hstops
    obtain ⟨before, -, hnew⟩ := hstops
    exact hnew.symm

/-- **Everything but an update of a travelling leg leaves the channels running.** -/
theorem stopsOf_of_calm (hpending : axis.pending = none) (hstate : axis.state = .homing session)
    (hnext : (Moment.next ⟨axis, act⟩).state = .homing session')
    (hcalm : ∀ now leg, act = .update now → session.phase ≠ .leg leg .moving) {i : Nat} :
    Moment.stopsOf i ⟨axis, act⟩ = 0 := by
  refine stopsOf_eq_zero ?_
  rw [← state_recorded] at hnext
  have hstate : axis.recorded.state = .homing session := hstate
  have hpending : axis.recorded.pending = none := hpending
  cases act with
  | sense feedback =>
    refine List.ext_getElem? fun i => ?_
    simp only [Moment.recorded, AxisAct.recorded, Moment.next, sense, stops, List.getElem?_map,
      List.getElem?_mapIdx, Option.map_map]
    rfl
  | call call =>
    simp only [Moment.recorded, AxisAct.recorded, Moment.next] at hnext ⊢
    cases hrun : call.attempt.run axis.recorded with
    | error refusal refused =>
      have hsame : refused = axis.recorded := call.attempt_atomic _ _ _ hrun
      exact congrArg stops hsame
    | ok u accepted =>
      rw [hrun] at hnext
      rcases (callCase_of_run hrun).homing hnext with ⟨hstandby, -⟩ | ⟨-, -⟩
      · rw [hstate] at hstandby
        cases hstandby
      cases callCase_of_run hrun with
      | move _ hother | home hother =>
        rw [hstate] at hother
        cases hother
      | stop hother | clear hother =>
        rw [hstate] at hother
        cases hother
      | unfaulted | discard => rfl
      | enable => exact stops_setAllEnabled true axis.recorded
      | abort | disable =>
        rcases axis.recorded.abort_cases with ⟨-, hstandby, -⟩ | ⟨hidle, -⟩
        · have hhoming : axis.recorded.abort.state = .homing session' := hnext
          rw [hstandby] at hhoming
          cases hhoming
        · rw [hstate] at hidle
          cases hidle
  | update now =>
    have hnext : (axis.recorded.update now).1.state = .homing session' := hnext
    have hquiet := quiet_of_homing hpending hnext
    have hcase := axis.recorded.update_case now
    rw [hquiet] at hcase
    show (axis.recorded.update now).1.stops = axis.recorded.stops
    generalize (axis.recorded.update now).1 = next at hcase ⊢
    cases hcase with
    | rest | go | depart => rfl
    | homing _ hhoming hcase =>
      cases AxisState.homing.inj (hstate.symm.trans hhoming)
      exact hcase.stops_eq fun leg => hcalm now leg rfl

/-- **An update of a search stops the channels that it finds**, once each, and no other one. -/
theorem stopsOf_of_search (hsound : axis.IsSound) (hpending : axis.pending = none)
    (hstate : axis.state = .homing session) (hphase : session.phase = .leg leg .moving)
    (hsearch : leg.isSearch = true)
    (hnext : (Moment.next ⟨axis, .update now⟩).state = .homing session') {i : Nat} {c : C}
    (hc : axis.channels[i]? = some c) :
    (axis.IsFoundNow session i c → Moment.stopsOf i ⟨axis, .update now⟩ = 1) ∧
      (¬ axis.IsFoundNow session i c → Moment.stopsOf i ⟨axis, .update now⟩ = 0) := by
  rw [← state_recorded] at hnext
  have hrecorded := getElem?_recorded hc
  rcases legCase (isSound_recorded hsound) hpending hstate hphase hsearch hnext with
    ⟨-, -, -, found, hfound⟩ | ⟨-, hother⟩
  · constructor
    · intro hnow
      have hstopped := hfound.stopped i _ hrecorded hnow
      rw [Moment.stopsOf_eq hstopped, RecordedChannel.stops_stopAbrupt]
      rfl
    · intro hnot
      have hspared := hfound.spared i _ hrecorded hnot
      rw [Moment.stopsOf_eq hspared]
      rfl
  · exact absurd rfl (hother rfl now)

/-- A leg that fails has every channel stopped. -/
theorem one_le_stopsOf {fault : Fault} (hsound : axis.IsSound) (hpending : axis.pending = none)
    (hevent : (axis.update now).2 = some (.fault fault)) {i : Nat}
    (hi : i < axis.channels.length) : 1 ≤ Moment.stopsOf i ⟨axis, .update now⟩ := by
  have hcase := axis.recorded.update_case now
  have hlength := congrArg (·.2.1) (hcase.build_eq (isSound_recorded hsound).samples)
  have hsame : (axis.recorded.update now).2 = (axis.update now).2 :=
    (Moment.next_recorded ⟨axis, .update now⟩).2.1
  rw [hsame, hevent] at hcase
  have hall := hcase.allStopped hpending
  have hbound : i < (axis.recorded.update now).1.channels.length := by
    simp only [build, recorded, convert, List.length_map] at hlength
    exact hlength ▸ hi
  have hstops : Moment.stopsOf i ⟨axis, .update now⟩ = _ :=
    Moment.stopsOf_eq (List.getElem?_eq_getElem hbound)
  rw [hstops]
  exact hall _ (List.getElem_mem hbound)

end

end Axis

/-! ## What a search leg has found -/

namespace Moment

/-- An update of a travelling leg finds a channel at the reference. -/
def Finds (leg : Leg) (i : Nat) (moment : Moment C) : Prop :=
  moment.Travels leg ∧ moment.Signals i

/-- An update of a travelling leg comes to a channel that gives the signal of the other way of
homing. -/
def IsMisled (leg : Leg) (moment : Moment C) : Prop :=
  ∃ now session, moment.act = .update now ∧ moment.axis.state = .homing session ∧
    session.phase = .leg leg .moving ∧ ∃ c ∈ moment.axis.channels, moment.axis.Misleads session c

end Moment

/-- A channel has been found in a leg. -/
def HasFound (leg : Leg) (i : Nat) (past : List (Moment C)) : Prop :=
  ∃ moment ∈ past, moment.Finds leg i

/-- An update finds a channel that has not been found in the leg before. -/
def Moment.FindsFirst (leg : Leg) (past : List (Moment C)) (i : Nat) (moment : Moment C) : Prop :=
  moment.Finds leg i ∧ ¬ HasFound leg i past

theorem hasFound_concat {leg : Leg} {i : Nat} {past : List (Moment C)} {moment : Moment C} :
    HasFound leg i (past ++ [moment]) ↔ HasFound leg i past ∨ moment.Finds leg i := by
  simp [HasFound, or_and_right, exists_or]

/-- A homing run in one stage of a leg is in no other one. -/
theorem HomingSession.phase_ne {session : HomingSession} {leg : Leg} {stage stage' : Stage}
    (hphase : session.phase = .leg leg stage) (hne : stage ≠ stage') :
    session.phase ≠ .leg leg stage' := by
  intro hsame
  cases hphase.symm.trans hsame
  exact hne rfl

/-- A homing run is in a search leg, with this past since the leg began. -/
structure Axis.IsSearching (leg : Leg) (past : List (Moment C)) (axis : Axis C) : Prop where
  sound : axis.IsSound
  pending : axis.pending = none
  takes : axis.Takes leg
  /-- Some channel is still to be found. -/
  missing : ∃ i < axis.channels.length, ¬ HasFound leg i past
  /-- Before the leg travels no channel is found. -/
  unfound : ∀ session, axis.state = .homing session → session.phase ≠ .leg leg .moving →
    ∀ i, ¬ HasFound leg i past
  /-- The hits are those of the channels that have been found. -/
  hit : ∀ session, axis.state = .homing session → session.phase ≠ .leg leg .start →
    ∀ i < axis.channels.length, (session.hits[i]? = some true ↔ HasFound leg i past)
  /-- A channel has been stopped once if it has been found, and not at all otherwise. -/
  stops : ∀ i < axis.channels.length,
    (HasFound leg i past → (past.map (Moment.stopsOf i)).sum = 1) ∧
      (¬ HasFound leg i past → (past.map (Moment.stopsOf i)).sum = 0)

/-- Why a search leg fails. -/
inductive SearchFailure (settings : AxisSettings) (leg : Leg) (past : List (Moment C))
    (moment : Moment C) : Fault → Prop where
  | hardware (hbit : moment.axis.anyFault = true) : SearchFailure settings leg past moment .hardware
  | timeout {now : Nat} {timeout : Timeout} (hact : moment.act = .update now)
      (hdue : moment.axis.IsDue settings now timeout) :
      SearchFailure settings leg past moment (.timeout timeout)
  | misled {failure : HomingFailure} (hmisled : moment.IsMisled leg) :
      SearchFailure settings leg past moment (.homing failure)
  /-- A channel has not been found, and none is stepping but those that are found just now. -/
  | exhausted
      (hmissing : ∃ i < moment.axis.channels.length, ¬ HasFound leg i (past ++ [moment]))
      (hrest : ∀ (i : Nat) (c : C), moment.axis.channels[i]? = some c →
        MotorChannel.isStepping c = true → moment.FindsFirst leg past i) :
      SearchFailure settings leg past moment (.homing .stopNotReached)

/-- What is right about the channels of a search leg at a moment, with this past since the leg
began. -/
structure StoppedByOwnSignal (settings : AxisSettings) (leg : Leg) (past : List (Moment C))
    (moment : Moment C) : Prop where
  /-- The leg goes on or is completed, or fails, or is aborted. -/
  ways : moment.next.Takes leg ∨ moment.next.HasTaken leg ∨
    (∃ fault, moment.event = some (.fault fault)) ∨
      moment.accepted? = some .abort ∨ moment.accepted? = some .disable
  /-- While it does not fail, a channel is stopped once when it is found first. -/
  stopped : moment.next.Takes leg ∨ moment.next.HasTaken leg →
    ∀ i < moment.axis.channels.length, moment.FindsFirst leg past i → moment.stopsOf i = 1
  /-- No channel is stopped otherwise, whatever the other ones signal. -/
  spared : moment.next.Takes leg ∨ moment.next.HasTaken leg →
    ∀ i < moment.axis.channels.length, ¬ moment.FindsFirst leg past i → moment.stopsOf i = 0
  /-- The leg is completed as soon as every channel has been found. -/
  completed : moment.next.Takes leg ∨ moment.next.HasTaken leg →
    (moment.next.HasTaken leg ↔
      ∀ i < moment.axis.channels.length, HasFound leg i (past ++ [moment]))
  /-- By then every channel has been stopped once. -/
  once : moment.next.HasTaken leg → ∀ i < moment.axis.channels.length,
    ((past ++ [moment]).map (Moment.stopsOf i)).sum = 1
  /-- A wrong signal makes the leg fail. -/
  misled : moment.IsMisled leg → ∃ fault, moment.event = some (.fault fault)
  /-- A leg that fails does so for a cause, and every channel is stopped. -/
  failed : ∀ fault, moment.event = some (.fault fault) →
    SearchFailure settings leg past moment fault ∧
      ∀ i < moment.axis.channels.length, 1 ≤ moment.stopsOf i

namespace Axis.IsSearching

section

variable {past : List (Moment C)} {axis : Axis C} {act : AxisAct C} {leg : Leg}
  {session session' : HomingSession} {now : Nat}

/-- In a travelling leg a channel is found by now if it has a hit or is at the reference. -/
theorem hasFound_iff (h : axis.IsSearching leg past) (hstate : axis.state = .homing session)
    (hphase : session.phase = .leg leg .moving) {i : Nat} (hi : i < axis.channels.length) :
    HasFound leg i (past ++ [⟨axis, .update now⟩]) ↔ axis.IsFound session i := by
  have hhit := h.hit session hstate (session.phase_ne hphase (by decide)) i hi
  rw [hasFound_concat, ← hhit]
  refine or_congr_right ⟨?_, ?_⟩
  · rintro ⟨-, _, signaling, c, -, hsame, hc, hreference⟩
    cases AxisState.homing.inj (hstate.symm.trans hsame)
    exact ⟨c, hc, hreference⟩
  · rintro ⟨c, hc, hreference⟩
    exact ⟨⟨session, hstate, hphase⟩, now, session, c, rfl, hstate, hc, hreference⟩

theorem findsFirst_iff (h : axis.IsSearching leg past) (hstate : axis.state = .homing session)
    (hphase : session.phase = .leg leg .moving) {i : Nat} {c : C}
    (hc : axis.channels[i]? = some c) :
    Moment.FindsFirst leg past i ⟨axis, .update now⟩ ↔ axis.IsFoundNow session i c := by
  obtain ⟨hi, -⟩ := List.getElem?_eq_some_iff.1 hc
  have hhit := h.hit session hstate (session.phase_ne hphase (by decide)) i hi
  rw [Moment.FindsFirst, IsFoundNow, ne_eq, hhit]
  refine and_congr_left fun _ => ⟨?_, ?_⟩
  · rintro ⟨-, _, signaling, c', -, hsame, hc', hreference⟩
    cases AxisState.homing.inj (hstate.symm.trans hsame)
    cases hc.symm.trans hc'
    exact hreference
  · intro hreference
    exact ⟨⟨session, hstate, hphase⟩, now, session, c, rfl, hstate, hc, hreference⟩

/-- An act other than an update of the travelling leg finds nothing. -/
theorem not_finds_of_calm {stage : Stage} (hstate : axis.state = .homing session)
    (hphase : session.phase = .leg leg stage)
    (hcalm : stage = .moving → ∀ now, act ≠ .update now) (i : Nat) :
    ¬ Moment.Finds leg i ⟨axis, act⟩ := by
  rintro ⟨⟨travelling, hsame, hmoving⟩, now, -, -, hact, -⟩
  cases AxisState.homing.inj (hstate.symm.trans hsame)
  cases hphase.symm.trans hmoving
  exact hcalm rfl now hact

/-- **What an act stops in a search leg** that does not fail. -/
theorem stopsOf_cases (h : axis.IsSearching leg past) (hsearch : leg.isSearch = true)
    (hnext : (Moment.next ⟨axis, act⟩).state = .homing session') {i : Nat}
    (hi : i < axis.channels.length) :
    (Moment.FindsFirst leg past i ⟨axis, act⟩ → Moment.stopsOf i ⟨axis, act⟩ = 1) ∧
      (¬ Moment.FindsFirst leg past i ⟨axis, act⟩ → Moment.stopsOf i ⟨axis, act⟩ = 0) := by
  obtain ⟨session, stage, hstate, hphase⟩ := h.takes
  rcases legCase h.sound h.pending hstate hphase hsearch hnext with
    ⟨now, rfl, rfl, -⟩ | ⟨-, hcalm⟩
  · have hc := List.getElem?_eq_getElem hi
    rw [h.findsFirst_iff hstate hphase hc]
    exact stopsOf_of_search h.sound h.pending hstate hphase hsearch hnext hc
  · have hnone : Moment.stopsOf i ⟨axis, act⟩ = 0 := by
      refine stopsOf_of_calm h.pending hstate hnext fun now other hact hmoving => ?_
      cases hphase.symm.trans hmoving
      exact hcalm rfl now hact
    have hnot : ¬ Moment.FindsFirst leg past i ⟨axis, act⟩ :=
      fun hfirst => not_finds_of_calm hstate hphase hcalm i hfirst.1
    exact ⟨fun hfirst => absurd hfirst hnot, fun _ => hnone⟩

/-- By an act that does not fail a channel has been stopped once if it has been found, and not at
all otherwise. -/
theorem stops_concat (h : axis.IsSearching leg past) (hsearch : leg.isSearch = true)
    (hnext : (Moment.next ⟨axis, act⟩).state = .homing session') {i : Nat}
    (hi : i < axis.channels.length) :
    (HasFound leg i (past ++ [⟨axis, act⟩]) →
        ((past ++ [Moment.mk axis act]).map (Moment.stopsOf i)).sum = 1) ∧
      (¬ HasFound leg i (past ++ [⟨axis, act⟩]) →
        ((past ++ [Moment.mk axis act]).map (Moment.stopsOf i)).sum = 0) := by
  obtain ⟨hone, hzero⟩ := h.stopsOf_cases hsearch hnext hi
  obtain ⟨hbefore, hnever⟩ := h.stops i hi
  rw [hasFound_concat, List.map_append, List.sum_append, List.map_singleton, List.sum_singleton]
  by_cases hfound : HasFound leg i past
  · -- it was stopped then, and is left alone now
    have hagain : ¬ Moment.FindsFirst leg past i ⟨axis, act⟩ := fun hfirst => hfirst.2 hfound
    rw [hbefore hfound, hzero hagain]
    exact ⟨fun _ => rfl, fun hnot => (hnot (.inl hfound)).elim⟩
  · rw [hnever hfound, Nat.zero_add]
    constructor
    · rintro (hold | hfinds)
      · exact absurd hold hfound
      · exact hone ⟨hfinds, hfound⟩
    · intro hnot
      exact hzero fun hfirst => hnot (.inr hfirst.1)

/-- **A search leg is completed exactly when every channel has been found.** -/
theorem hasTaken_iff (h : axis.IsSearching leg past) (hsearch : leg.isSearch = true)
    (hnext : (Moment.next ⟨axis, act⟩).state = .homing session') :
    (Moment.next ⟨axis, act⟩).HasTaken leg ↔
      ∀ i < axis.channels.length, HasFound leg i (past ++ [⟨axis, act⟩]) := by
  obtain ⟨session, stage, hstate, hphase⟩ := h.takes
  rcases legCase h.sound h.pending hstate hphase hsearch hnext with
    ⟨now, rfl, rfl, found, hstep⟩ | ⟨happroach, hcalm⟩
  · rcases hstep.phase with ⟨hafter, hall⟩ | ⟨hmoving, i, hi, hunfound⟩
    · exact iff_of_true ⟨found, hstep.state, hafter⟩ fun i hi =>
        (h.hasFound_iff hstate hphase hi).2 (hall i hi)
    · have htakes : (Moment.next ⟨axis, .update now⟩).Takes leg :=
        ⟨found, .moving, hstep.state, hmoving⟩
      exact iff_of_false htakes.not_hasTaken fun hall =>
        hunfound ((h.hasFound_iff hstate hphase hi).1 (hall i hi))
  · have htakes : (Moment.next ⟨axis, act⟩).Takes leg := by
      cases happroach with
      | stay => exact ⟨session', stage, hnext, hphase⟩
      | start _ hphase' => exact ⟨session', .waitStart, hnext, hphase'⟩
      | depart _ hphase' => exact ⟨session', .moving, hnext, hphase'⟩
    obtain ⟨i, hi, hmissing⟩ := h.missing
    refine iff_of_false htakes.not_hasTaken fun hall => ?_
    rcases hasFound_concat.1 (hall i hi) with hold | hfinds
    · exact hmissing hold
    · exact not_finds_of_calm hstate hphase hcalm i hfinds

/-- **Every act keeps a search leg that goes on**: its hits are those of the channels found, and
each of these has been stopped once. -/
theorem next (h : axis.IsSearching leg past) (hsearch : leg.isSearch = true)
    (htakes : (Moment.next ⟨axis, act⟩).Takes leg) :
    (Moment.next ⟨axis, act⟩).IsSearching leg (past ++ [⟨axis, act⟩]) := by
  obtain ⟨session', stage', hnext, hphase'⟩ := htakes
  obtain ⟨session, stage, hstate, hphase⟩ := h.takes
  have hstep := Moment.step ⟨axis, act⟩
  have hbuild := hstep.build_eq h.sound.samples
  have hlength : (Moment.next ⟨axis, act⟩).channels.length = axis.channels.length :=
    congrArg (·.2.1) hbuild
  have hpending : (Moment.next ⟨axis, act⟩).pending = none :=
    HomesAlone.next (fun _ _ => h.pending) act session' hnext
  have hcases := legCase h.sound h.pending hstate hphase hsearch hnext
  refine ⟨hstep.isSound h.sound, hpending, ⟨session', stage', hnext, hphase'⟩, ?missing, ?unfound,
    ?hit, ?stops⟩
  case missing =>
    have hopen : ¬ (Moment.next ⟨axis, act⟩).HasTaken leg :=
      Takes.not_hasTaken ⟨session', stage', hnext, hphase'⟩
    rw [h.hasTaken_iff hsearch hnext] at hopen
    push Not at hopen
    rwa [hlength]
  case unfound =>
    intro session'' hsame hstill i hfound
    cases AxisState.homing.inj (hnext.symm.trans hsame)
    rcases hcases with ⟨now, rfl, rfl, found, hsearched⟩ | ⟨happroach, hcalm⟩
    · -- the leg travels, or is over
      cases AxisState.homing.inj (hnext.symm.trans hsearched.state)
      rcases hsearched.phase with ⟨hafter, -⟩ | ⟨hmoving, -⟩
      · exact Takes.not_hasTaken ⟨session', stage', hnext, hphase'⟩ ⟨session', hnext, hafter⟩
      · exact hstill hmoving
    · have hold : HasFound leg i past := by
        rcases hasFound_concat.1 hfound with hold | hfinds
        · exact hold
        · exact (not_finds_of_calm hstate hphase hcalm i hfinds).elim
      cases happroach with
      | stay => exact h.unfound session' hstate hstill i hold
      | start hstart => exact h.unfound session hstate (session.phase_ne hstart (by decide)) i hold
      | depart _ hmoving => exact hstill hmoving
  case hit =>
    intro session'' hsame hbegun i hi
    cases AxisState.homing.inj (hnext.symm.trans hsame)
    rw [hlength] at hi
    rcases hcases with ⟨now, rfl, rfl, found, hsearched⟩ | ⟨happroach, hcalm⟩
    · cases AxisState.homing.inj (hnext.symm.trans hsearched.state)
      rw [h.hasFound_iff hstate hphase hi]
      exact hsearched.hit i hi
    · have hsame : HasFound leg i (past ++ [⟨axis, act⟩]) ↔ HasFound leg i past := by
        rw [hasFound_concat, or_iff_left (not_finds_of_calm hstate hphase hcalm i)]
      rw [hsame]
      cases happroach with
      | stay => exact h.hit session' hstate hbegun i hi
      | start hstart _ hhits =>
        have hnone : ¬ HasFound leg i past :=
          h.unfound session hstate (session.phase_ne hstart (by decide)) i
        refine iff_of_false ?_ hnone
        rw [hhits]
        simp [HomingSession.noHits, List.getElem?_replicate]
      | depart hwait _ hhits =>
        rw [hhits]
        exact h.hit session hstate (session.phase_ne hwait (by decide)) i hi
  case stops =>
    intro i hi
    rw [hlength] at hi
    exact h.stops_concat hsearch hnext hi

/-- **A leg that fails does so for a cause.** -/
theorem searchFailure {settings : AxisSettings} {run : List (Moment C)} {fault : Fault}
    (h : axis.IsSearching leg past) (htimed : axis.IsTimed settings run)
    (hsearch : leg.isSearch = true) (hevent : (axis.update now).2 = some (.fault fault)) :
    SearchFailure settings leg past ⟨axis, .update now⟩ fault := by
  obtain ⟨session, stage, hstate, hphase⟩ := h.takes
  have hfits := h.sound.session session hstate
  have hcause : axis.FailureCause now fault := by
    refine failureCause_of_fault (fun hwaits => ?_) hevent
    rw [h.pending] at hwaits
    cases hwaits
  cases hcause with
  | hardware hbit => exact .hardware hbit
  | torque hother | moveStart hother =>
    rw [hstate] at hother
    cases hother
  | homingSession | homingStart => exact .timeout rfl (isDue_of_timeout htimed hevent)
  | wrongSignal hsame hmoving _ hwalk =>
    cases AxisState.homing.inj (hstate.symm.trans hsame)
    cases hphase.symm.trans hmoving
    exact .misled ⟨now, session, rfl, hstate, hmoving, exists_misleading hfits hwalk⟩
  | exhausted hsame hmoving _ hwalk hmissing hrest =>
    cases AxisState.homing.inj (hstate.symm.trans hsame)
    cases hphase.symm.trans hmoving
    obtain ⟨⟨i, hi, hunfound⟩, hstopped⟩ := exists_unfound h.sound hfits hwalk hmissing hrest
    refine .exhausted ⟨i, hi, ?_⟩ fun j c hc hstepping => ?_
    · exact mt (h.hasFound_iff hstate hmoving hi).1 hunfound
    · exact (h.findsFirst_iff hstate hmoving hc).2 (hstopped j c hc hstepping)
  | stall hsame hmoving hretreat | stuck hsame hmoving hretreat =>
    cases AxisState.homing.inj (hstate.symm.trans hsame)
    cases hphase.symm.trans hmoving
    rw [hsearch] at hretreat
    cases hretreat

end

end Axis.IsSearching

namespace Axis

section

variable {axis : Axis C} {leg : Leg}

/-- An update of a leg goes on with it, or completes it, or fails. -/
theorem update_of_takes (hpending : axis.pending = none) (htakes : axis.Takes leg) (now : Nat) :
    (axis.update now).1.Takes leg ∨ (axis.update now).1.HasTaken leg ∨
      ∃ fault, (axis.update now).2 = some (.fault fault) := by
  obtain ⟨session, stage, hstate, hphase⟩ := htakes
  have hcase := axis.update_case now
  generalize axis.update now = result at hcase ⊢
  obtain ⟨next, event⟩ := result
  cases hcase with
  | report hwaits =>
    rw [hpending] at hwaits
    cases hwaits
  | hardware | fail => exact .inr (.inr ⟨_, rfl⟩)
  | rest _ hother | go _ hother | depart _ hother | giveUp _ hother | arrive _ hother =>
    rw [hstate] at hother
    cases hother
  | homing _ hsame hcase =>
    cases AxisState.homing.inj (hstate.symm.trans hsame)
    cases hcase with
    | fail => exact .inr (.inr ⟨_, rfl⟩)
    | wait | seek => exact .inl ⟨_, stage, rfl, hphase⟩
    | start hsame | depart hsame =>
      cases hphase.symm.trans hsame
      exact .inl ⟨_, _, rfl, rfl⟩
    | find hsame | retreat hsame =>
      cases hphase.symm.trans hsame
      exact .inr (.inl ⟨_, rfl, rfl⟩)
    | zero hother | release hother | settle hother => cases hphase.symm.trans hother

/-- **What can become of a leg.** -/
theorem ways_of_takes (hpending : axis.pending = none) (htakes : axis.Takes leg)
    (act : AxisAct C) :
    (Moment.next ⟨axis, act⟩).Takes leg ∨ (Moment.next ⟨axis, act⟩).HasTaken leg ∨
      (∃ fault, Moment.event ⟨axis, act⟩ = some (.fault fault)) ∨
        Moment.accepted? ⟨axis, act⟩ = some .abort ∨
          Moment.accepted? ⟨axis, act⟩ = some .disable := by
  have hstep := Moment.step ⟨axis, act⟩
  generalize Moment.next ⟨axis, act⟩ = next at hstep ⊢
  generalize Moment.event ⟨axis, act⟩ = event at hstep ⊢
  generalize Moment.accepted? ⟨axis, act⟩ = call? at hstep ⊢
  cases hstep with
  | sense | refuse => exact .inl htakes
  | update now =>
    rcases update_of_takes hpending htakes now with hgoes | hover | hfails
    · exact .inl hgoes
    · exact .inr (.inl hover)
    · exact .inr (.inr (.inl hfails))
  | accept hcase =>
    cases hcase with
    | move _ hother | home hother | stop hother | clear hother =>
      obtain ⟨session, stage, hstate, -⟩ := htakes
      rw [hstate] at hother
      cases hother
    | unfaulted | discard | enable => exact .inl htakes
    | abort => exact .inr (.inr (.inr (.inl rfl)))
    | disable => exact .inr (.inr (.inr (.inr rfl)))

end

end Axis

/-! ## Every search leg -/

/-- What is right in a search leg at an axis that agrees with its past. -/
theorem Axis.IsSearching.stoppedByOwnSignal {settings : AxisSettings} {run past : List (Moment C)}
    {axis : Axis C} {leg : Leg} (h : axis.IsSearching leg past) (htimed : axis.IsTimed settings run)
    (hsearch : leg.isSearch = true) (act : AxisAct C) :
    StoppedByOwnSignal settings leg past ⟨axis, act⟩ := by
  have homing
      (hgood : (Moment.next ⟨axis, act⟩).Takes leg ∨ (Moment.next ⟨axis, act⟩).HasTaken leg) :
      ∃ session', (Moment.next ⟨axis, act⟩).state = .homing session' := by
    rcases hgood with ⟨session', -, hnext, -⟩ | ⟨session', hnext, -⟩
    · exact ⟨session', hnext⟩
    · exact ⟨session', hnext⟩
  refine ⟨Axis.ways_of_takes h.pending h.takes act, ?stopped, ?spared, ?completed, ?once, ?misled,
    ?failed⟩
  case stopped =>
    intro hgood i hi
    obtain ⟨session', hnext⟩ := homing hgood
    exact (h.stopsOf_cases hsearch hnext hi).1
  case spared =>
    intro hgood i hi
    obtain ⟨session', hnext⟩ := homing hgood
    exact (h.stopsOf_cases hsearch hnext hi).2
  case completed =>
    intro hgood
    obtain ⟨session', hnext⟩ := homing hgood
    exact h.hasTaken_iff hsearch hnext
  case once =>
    intro htaken i hi
    obtain ⟨session', hnext⟩ := homing (.inr htaken)
    exact (h.stops_concat hsearch hnext hi).1 ((h.hasTaken_iff hsearch hnext).1 htaken i hi)
  case misled =>
    rintro ⟨now, session, hact, hstate, hphase, c, hc, hmisleads⟩
    have hact : act = .update now := hact
    have hstate : axis.state = .homing session := hstate
    subst hact
    -- a search that does not fail has no such channel
    have hfails (session' : HomingSession)
        (hnext : (Moment.next ⟨axis, .update now⟩).state = .homing session') : False := by
      rcases Axis.legCase h.sound h.pending hstate hphase hsearch hnext with
        ⟨-, -, -, found, hstep⟩ | ⟨-, hcalm⟩
      · exact hstep.straight c hc hmisleads
      · exact hcalm rfl now rfl
    rcases Axis.update_of_takes h.pending h.takes now with
      ⟨session', -, hnext, -⟩ | ⟨session', hnext, -⟩ | hfault
    · exact (hfails session' hnext).elim
    · exact (hfails session' hnext).elim
    · exact hfault
  case failed =>
    intro fault hevent
    cases act with
    | sense | call => cases hevent
    | update now =>
      exact ⟨h.searchFailure htimed hsearch hevent,
        fun i hi => Axis.one_le_stopsOf h.sound h.pending hevent hi⟩

/-- A search leg that begins has no past. -/
theorem Axis.isSearching_of_start {axis : Axis C} {session : HomingSession} {leg : Leg}
    (hsound : axis.IsSound) (hsome : 0 < axis.channels.length) (hpending : axis.pending = none)
    (hstate : axis.state = .homing session) (hphase : session.phase = .leg leg .start) :
    axis.IsSearching leg [] := by
  have hunfound (i : Nat) : ¬ HasFound leg i ([] : List (Moment C)) := by
    rintro ⟨moment, hmem, -⟩
    cases hmem
  refine ⟨hsound, hpending, ⟨session, .start, hstate, hphase⟩, ⟨0, hsome, hunfound 0⟩,
    fun _ _ _ => hunfound, ?hit, ?stops⟩
  case hit =>
    intro session' hsame hbegun
    cases AxisState.homing.inj (hstate.symm.trans hsame)
    exact absurd hphase hbegun
  case stops => exact fun i _ => ⟨fun hfound => absurd hfound (hunfound i), fun _ => rfl⟩

/-- What a run keeps for the legs that are still to come: the axis has its channels, and no event
waits while it homes. -/
theorem Axis.readyToSearch_run {settings : AxisSettings} {channels : List C} {start : Axis C}
    (hstart : Axis.ofChannels settings channels = .ok start) (acts : List (AxisAct C)) :
    0 < (start.run acts).channels.length ∧ (start.run acts).HomesAlone := by
  obtain ⟨-, rfl, hsome⟩ := built_of_ofChannels hstart
  obtain ⟨hrest, -, -⟩ := atRest_of_ofChannels hstart
  have hkept := run_induction (fun _ axis => axis.IsSound ∧
    0 < axis.channels.length ∧ axis.HomesAlone) ?_ acts
    ⟨isSound_of_ofChannels hstart, List.length_pos_iff.2 hsome, ?_⟩
  · exact hkept.2
  · intro past axis act ⟨hsound, hlength, halone⟩
    have hstep := Moment.step ⟨axis, act⟩
    have hsame : (Moment.next ⟨axis, act⟩).channels.length = axis.channels.length :=
      congrArg (·.2.1) (hstep.build_eq hsound.samples)
    exact ⟨hstep.isSound hsound, hsame ▸ hlength, halone.next act⟩
  · intro session hstate
    rw [hrest] at hstate
    cases hstate

/-- **Each channel is stopped by its own signal in a search.** A search leg begins at some time of
any run of an axis that has been built, and goes on through any acts up to a last one. -/
theorem channel_stopped_by_own_signal {settings : AxisSettings} {channels : List C}
    {start : Axis C} {session : HomingSession} {leg : Leg}
    (hstart : Axis.ofChannels settings channels = .ok start) (before : List (AxisAct C))
    (hstate : (start.run before).state = .homing session)
    (hphase : session.phase = .leg leg .start) (hsearch : leg.isSearch = true)
    (earlier : List (AxisAct C)) (act : AxisAct C)
    (hleg : ∀ moment ∈ (start.run before).moments earlier, moment.axis.Takes leg)
    (hnow : ((start.run before).run earlier).Takes leg) :
    StoppedByOwnSignal settings leg ((start.run before).moments earlier)
      ⟨(start.run before).run earlier, act⟩ := by
  obtain ⟨hsome, halone⟩ := Axis.readyToSearch_run hstart before
  have hbegun : (start.run before).IsSearching leg [] :=
    Axis.isSearching_of_start (Axis.isSound_run hstart before) hsome (halone session hstate) hstate
      hphase
  -- the times count from the beginning of the run, the signals from that of the leg
  have hkept := Axis.run_induction (fun past axis =>
    axis.IsTimed settings (start.moments before ++ past) ∧
      ((∀ moment ∈ past, moment.axis.Takes leg) → axis.Takes leg → axis.IsSearching leg past))
    ?step earlier ⟨?timed, fun _ _ => hbegun⟩
  case step =>
    intro past axis act ⟨htimed, hsearching⟩
    refine ⟨List.append_assoc .. ▸ htimed.next act, fun hpast htakes => ?_⟩
    have hlast : axis.Takes leg := hpast ⟨axis, act⟩ (by simp)
    exact (hsearching (fun moment hmem => hpast moment (by simp [hmem])) hlast).next hsearch htakes
  case timed =>
    rw [List.append_nil]
    exact Axis.isTimed_run hstart before
  exact (hkept.2 hleg hnow).stoppedByOwnSignal hkept.1 hsearch act

/-- An axis with two motors and the default settings. -/
def beam : Axis ScriptedChannel where
  settings := { channels := 2 }
  channels := [{}, {}]
  monitor := .ofCount 2 0.2
  origins := [0, 0]

/-- The first motor of a search stalls, and then the second one. -/
def beamSearch : List (AxisAct ScriptedChannel) :=
  let stall (i j : Nat) (c : ScriptedChannel) : ScriptedChannel :=
    { c with effort := some (if i = j then 80 else 0) }
  [.update 2, .update 3, .sense (stall 0), .update 4, .sense (stall 1)]

/-- Each motor is stopped by its own stall, and the search is over after the second one. -/
theorem channel_stopped_by_own_signal_beam :
    ([0, 1].map fun i =>
        ((beam.run [.call (.home 100 50 1)]).moments (beamSearch ++ [.update 5])).map
          (Moment.stopsOf i)) = [[0, 0, 0, 1, 0, 0], [0, 0, 0, 0, 0, 1]] ∧
      (Moment.next ⟨(beam.run [.call (.home 100 50 1)]).run beamSearch, .update 5⟩).leg? =
        some .backoff ∧
      StoppedByOwnSignal beam.settings .rapidSearch
        ((beam.run [.call (.home 100 50 1)]).moments beamSearch)
        ⟨(beam.run [.call (.home 100 50 1)]).run beamSearch, .update 5⟩ := by
  have hstart : Axis.ofChannels beam.settings [{}, {}] = .ok beam := rfl
  have hstate : (beam.run [.call (.home 100 50 1)]).state =
      .homing (.start beam.settings.homing 100 50 1) := rfl
  refine ⟨by decide +kernel, by decide +kernel, ?_⟩
  exact channel_stopped_by_own_signal hstart [.call (.home 100 50 1)] hstate rfl rfl beamSearch
    (.update 5) (by decide +kernel) (by decide +kernel)

end MotionControl
