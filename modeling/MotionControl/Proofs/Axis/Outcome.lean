import MotionControl.Proofs.Axis.Command
import Mathlib.Data.List.Forall2

/-!
# All that a call or an update can make of an axis

Every invariant of an axis is derived from the cases listed here, with what each of them requires.

* `AxisCall`, `CallCase`: an accepted call.
* `HomingCase`, `updateHoming_case`: one update of a homing run.
* `UpdateCase`, `update_case`: one update; `update_of_pending` is the one that reports an event.
* `UpdateCase.homing_before`, `UpdateCase.moving_before`, `UpdateCase.of_done`: where a homing run
  and a move come from, and how a move ends.
-/

namespace MotionControl

/-- A call on an axis. -/
inductive AxisCall where
  | moveTo (request : MoveRequest) (now : Nat)
  | moveIncrements (increments : Int) (velocity accel torque : Single) (now : Nat)
  | home (maxTravel torque : Single) (now : Nat)
  | stopDecelerated
  | clearFault
  | abort
  | discardPending
  | enable
  | disable
deriving DecidableEq

namespace AxisCall

/-- Whether the call is for a move. -/
def isMove : AxisCall → Bool
  | moveTo .. | moveIncrements .. => true
  | _ => false

/-- Whether the call sets the axis in motion. -/
def startsMotion : AxisCall → Bool
  | home .. => true
  | call => call.isMove

theorem startsMotion_of_isMove {call : AxisCall} (h : call.isMove = true) :
    call.startsMotion = true := by
  cases call <;> first | rfl | cases h

/-- The call as an attempt on an axis. -/
def attempt {C : Type} [MotorChannel C] : AxisCall → Attempt (Axis C) Unit
  | moveTo request now => Axis.tryMoveTo request now
  | moveIncrements increments velocity accel torque now =>
    Axis.tryMoveIncrements increments velocity accel torque now
  | home maxTravel torque now => Axis.tryHome maxTravel torque now
  | stopDecelerated => Axis.tryStopDecelerated
  | clearFault => Axis.tryClearFault
  | abort => modify Axis.abort
  | discardPending => modify Axis.discardPending
  | enable => modify Axis.enable
  | disable => modify Axis.disable

end AxisCall

namespace Axis

variable {C : Type} [MotorChannel C]

/-! ## Calls -/

/-- What an accepted call makes of an axis. -/
inductive CallCase (axis : Axis C) : AxisCall → Axis C → Prop where
  | move {call : AxisCall} {increments : Int} {velocity accel torque : Single} {now : Nat}
      (hcall : call.isMove = true) (hstate : axis.state = .standby)
      (hhomed : axis.isHomed = true) :
      CallCase axis call (axis.issue increments velocity accel torque now)
  | home {maxTravel torque : Single} {now : Nat} (hstate : axis.state = .standby)
      (htorque : isTorqueLimit torque = true) (henabled : axis.allEnabled = true) :
      CallCase axis (.home maxTravel torque now)
        { axis.applyTorqueLimit torque with
          pending := none
          state := .homing (.start axis.settings.homing maxTravel torque now) }
  | stop (hstate : axis.state.isMoving = true) :
      CallCase axis .stopDecelerated
        { axis.mapChannels MotorChannel.stopDecelerated with stopRequested := true }
  | clear (hstate : axis.state.isFault = true) (hfree : axis.anyFault = false) :
      CallCase axis .clearFault { axis with state := .standby }
  /-- There is no fault to be cleared. -/
  | unfaulted (hstate : axis.state.isFault = false) : CallCase axis .clearFault axis
  | abort : CallCase axis .abort axis.abort
  | discard : CallCase axis .discardPending axis.discardPending
  | enable : CallCase axis .enable axis.enable
  | disable : CallCase axis .disable axis.disable

/-- **An accepted call** does what its case says. -/
theorem callCase_of_run {call : AxisCall} {axis axis' : Axis C} {u : Unit}
    (h : call.attempt.run axis = .ok u axis') : axis.CallCase call axis' := by
  cases call with
  | moveTo request now =>
    obtain ⟨hstate, -, -, hhomed, -, rfl⟩ := tryMoveTo_ok.1 h
    exact .move rfl hstate hhomed
  | moveIncrements increments velocity accel torque now =>
    obtain ⟨hstate, -, -, hhomed, -, rfl⟩ := tryMoveIncrements_ok.1 h
    exact .move rfl hstate hhomed
  | home maxTravel torque now =>
    obtain ⟨hstate, harguments, henabled, rfl⟩ := tryHome_ok.1 h
    rw [Bool.and_eq_true] at harguments
    exact .home hstate harguments.2 henabled
  | stopDecelerated =>
    obtain ⟨hstate, rfl⟩ := tryStopDecelerated_ok.1 h
    exact .stop hstate
  | clearFault =>
    have hclear := tryClearFault_ok.1 h
    split at hclear
    · rename_i hstate
      obtain ⟨hfree, rfl⟩ := hclear
      exact .clear hstate hfree
    · rename_i hstate
      subst hclear
      exact .unfaulted (Bool.not_eq_true _ ▸ hstate)
  | abort => cases h; exact .abort
  | discardPending => cases h; exact .discard
  | enable => cases h; exact .enable
  | disable => cases h; exact .disable

/-! ## Homing -/

/-- A channel that has come out of a search as it was, or stopped. -/
def IsWalked (c c' : C) : Prop := c' = c ∨ c' = MotorChannel.stopAbrupt c

/-- What one update makes of a homing run, once the efforts of the axis have been read, with the
event that it reports. -/
inductive HomingCase (axis : Axis C) (session : HomingSession) (now : Nat) :
    Axis C → Option AxisEvent → Prop where
  /-- The run fails. A search may have stopped some of its channels before that. -/
  | fail {channels : List C} {next : HomingSession} {fault : Fault}
      (hwalked : List.Forall₂ IsWalked axis.channels channels)
      (hphase : next.phase = session.phase) (hfault : fault ≠ .hardware) :
      HomingCase axis session now ({ axis with channels }.failHoming next fault).1
        (some (.fault fault))
  /-- The run stays where it is. -/
  | wait : HomingCase axis session now { axis with state := .homing session } none
  | start {leg : Leg} (hphase : session.phase = .leg leg .start) :
      HomingCase axis session now (axis.startLeg session leg now).1 none
  | depart {leg : Leg} (hphase : session.phase = .leg leg .waitStart)
      (hmotion : axis.motionStarted = true) :
      HomingCase axis session now
        { axis with state := .homing (session.enter (.leg leg .moving) now) } none
  /-- A search goes on. -/
  | seek {leg : Leg} {channels : List C} {hits : List Bool}
      (hphase : session.phase = .leg leg .moving)
      (hwalk : searchChannels session.settings.mode axis.torqueLimit axis.channels
        axis.monitor.samples session.hits = (channels, hits, none))
      (hsearch : leg.isSearch = true) :
      HomingCase axis session now
        { axis with channels, state := .homing { session with hits } } none
  /-- A search ends, as every channel has signaled. -/
  | find {leg : Leg} {channels : List C} {hits : List Bool}
      (hphase : session.phase = .leg leg .moving)
      (hwalk : searchChannels session.settings.mode axis.torqueLimit axis.channels
        axis.monitor.samples session.hits = (channels, hits, none))
      (hall : { session with hits }.allHit channels.length = true)
      (hsearch : leg.isSearch = true) :
      HomingCase axis session now
        { axis with channels, state := .homing ({ session with hits }.enter (.after leg) now) }
        none
  /-- A retreat ends. -/
  | retreat {leg : Leg} (hphase : session.phase = .leg leg .moving)
      (hretreat : leg.isSearch = false) (hrest : axis.anyStepping = false) :
      HomingCase axis session now
        { axis with state := .homing (session.enter (.after leg) now) } none
  | zero (hphase : session.phase = .setZero) (hdestress : session.settings.destress = 0) :
      HomingCase axis session now
        { axis.mapChannels MotorChannel.setZero with isHomed := true, state := .standby }
        (some .homed)
  /-- The channels are zeroed, and the drives released. -/
  | release (hphase : session.phase = .setZero) (hdestress : session.settings.destress ≠ 0) :
      HomingCase axis session now
        { (axis.mapChannels MotorChannel.setZero).setAllEnabled false with
          state := .homing
            (session.enter (.destress (later now session.settings.destress.toNat)) now) }
        none
  /-- The drives have been released for long enough. -/
  | settle {deadline : Nat} (hphase : session.phase = .destress deadline)
      (hdue : deadline ≤ now) :
      HomingCase axis session now
        { axis.setAllEnabled true with isHomed := true, state := .standby } (some .homed)

/-- The walk of a search leaves out no channel. -/
theorem length_of_walk {mode : HomingMode} {limit : Single} {channels channels' : List C}
    {samples : List EffortSample} {hits hits' : List Bool} {failure : Option HomingFailure}
    (h : searchChannels mode limit channels samples hits = (channels', hits', failure)) :
    channels'.length = channels.length ∧ hits'.length = hits.length := by
  have key : (searchChannels mode limit channels samples hits).1.length = channels.length ∧
      (searchChannels mode limit channels samples hits).2.1.length = hits.length := by
    clear h
    fun_induction searchChannels mode limit channels samples hits with
    | case1 => exact ⟨rfl, rfl⟩
    | case2 c cs sample samples hit hits cs' hits' failure hwalk hsignal isNew ih =>
      rw [hwalk] at ih
      constructor
      · split <;> simp [ih.1]
      · simp [ih.2]
    | case3 => exact ⟨rfl, rfl⟩
  rwa [h] at key

/-- Every channel comes out of the walk in its place, as it was, or stopped. -/
theorem walked_of_walk {mode : HomingMode} {limit : Single} {channels channels' : List C}
    {samples : List EffortSample} {hits hits' : List Bool} {failure : Option HomingFailure}
    (h : searchChannels mode limit channels samples hits = (channels', hits', failure)) :
    List.Forall₂ IsWalked channels channels' := by
  have unwalked (channels : List C) : List.Forall₂ IsWalked channels channels :=
    List.forall₂_same.2 fun _ _ => .inl rfl
  have key : List.Forall₂ IsWalked channels
      (searchChannels mode limit channels samples hits).1 := by
    clear h
    fun_induction searchChannels mode limit channels samples hits with
    | case1 => exact unwalked _
    | case2 c cs sample samples hit hits cs' hits' failure hwalk hsignal isNew ih =>
      rw [hwalk] at ih
      dsimp only
      split
      · exact .cons (.inr rfl) ih
      · exact .cons (.inl rfl) ih
    | case3 => exact unwalked _
  rwa [h] at key

theorem exists_of_walked {channels channels' : List C}
    (h : List.Forall₂ IsWalked channels channels') :
    ∀ c' ∈ channels', ∃ c ∈ channels, IsWalked c c' := by
  induction h with
  | nil => exact fun c' hc' => (List.not_mem_nil hc').elim
  | @cons c c' cs cs' hfirst _ ih =>
    intro d hd
    rcases List.mem_cons.1 hd with rfl | hd
    · exact ⟨c, .head _, hfirst⟩
    · obtain ⟨before, hbefore, hwalked⟩ := ih d hd
      exact ⟨before, .tail _ hbefore, hwalked⟩

section

variable {axis : Axis C} {session : HomingSession} {now : Nat}

theorem failHoming_case {fault : Fault} (hfault : fault ≠ .hardware) :
    axis.HomingCase session now (axis.failHoming session fault).1
      (axis.failHoming session fault).2 :=
  .fail (List.forall₂_same.2 fun _ _ => .inl rfl) rfl hfault

theorem search_case {leg : Leg} (hphase : session.phase = .leg leg .moving)
    (hsearch : leg.isSearch = true) :
    axis.HomingCase session now (axis.search session leg now).1
      (axis.search session leg now).2 := by
  unfold search
  generalize hwalk : searchChannels session.settings.mode axis.torqueLimit axis.channels
    axis.monitor.samples session.hits = walk
  obtain ⟨channels, hits, failure⟩ := walk
  have hwalked := walked_of_walk hwalk
  dsimp only
  cases failure with
  | some failure => exact .fail hwalked rfl nofun
  | none =>
    dsimp only
    split
    · rename_i hall
      exact .find hphase hwalk hall hsearch
    split
    · exact .fail hwalked rfl nofun
    · exact .seek hphase hwalk hsearch

theorem retreat_case {leg : Leg} (hphase : session.phase = .leg leg .moving)
    (hretreat : leg.isSearch = false) :
    axis.HomingCase session now (axis.retreat session leg now).1
      (axis.retreat session leg now).2 := by
  unfold retreat
  split
  · exact failHoming_case nofun
  split
  · exact .wait
  rename_i hrest
  split
  · exact failHoming_case nofun
  · exact .retreat hphase hretreat (Bool.not_eq_true _ ▸ hrest)

theorem awaitLeg_case {leg : Leg} (hphase : session.phase = .leg leg .waitStart) :
    axis.HomingCase session now (axis.awaitLeg session leg now).1
      (axis.awaitLeg session leg now).2 := by
  unfold awaitLeg
  split
  · rename_i hmotion
    exact .depart hphase hmotion
  split
  · exact failHoming_case nofun
  · exact .wait

theorem zeroChannels_case (hphase : session.phase = .setZero) :
    axis.HomingCase session now (axis.zeroChannels session now).1
      (axis.zeroChannels session now).2 := by
  unfold zeroChannels
  dsimp only
  split
  · rename_i hdestress
    exact .zero hphase hdestress
  · rename_i hdestress
    exact .release hphase hdestress

theorem updateDestress_case {deadline : Nat} (hphase : session.phase = .destress deadline) :
    axis.HomingCase session now (axis.updateDestress session deadline now).1
      (axis.updateDestress session deadline now).2 := by
  unfold updateDestress
  split
  · exact .wait
  · rename_i hdue
    exact .settle hphase (Nat.le_of_not_lt hdue)

/-- **One update of a homing run** comes to one of the cases. -/
theorem updateHoming_case (axis : Axis C) (session : HomingSession) (now : Nat) :
    axis.HomingCase session now (axis.updateHoming session now).1
      (axis.updateHoming session now).2 := by
  unfold updateHoming
  split
  · exact failHoming_case nofun
  split
  · rename_i hphase
    exact .start hphase
  · rename_i hphase
    exact awaitLeg_case hphase
  · rename_i hphase
    split
    · rename_i hsearch
      exact search_case hphase hsearch
    · rename_i hretreat
      exact retreat_case hphase (Bool.not_eq_true _ ▸ hretreat)
  · rename_i hphase
    exact zeroChannels_case hphase
  · rename_i hphase
    exact updateDestress_case hphase

end

/-! ## Updates -/

/-- What one update makes of an axis, with the event that it reports. -/
inductive UpdateCase (axis : Axis C) (now : Nat) : Axis C → Option AxisEvent → Prop where
  /-- It reports the event that a call has left, and does nothing else. -/
  | report {event : AxisEvent} (hpending : axis.pending = some event) :
      UpdateCase axis now { axis.sampleEffort with pending := none } (some event)
  /-- A drive reports a fault bit. -/
  | hardware (hpending : axis.pending = none) (hstate : axis.state.isFault = false)
      (hfault : axis.anyFault = true) :
      UpdateCase axis now axis.sampleEffort.latchHardwareFault.1 (some (.fault .hardware))
  /-- Nothing goes on. -/
  | rest (hpending : axis.pending = none) (hstate : axis.state.isBusy = false)
      (hfault : axis.state.isFault = true ∨ axis.anyFault = false) :
      UpdateCase axis now axis.sampleEffort none
  /-- A move waits for its start, or goes on. -/
  | go (hpending : axis.pending = none) (hstate : axis.state.isMoving = true) :
      UpdateCase axis now axis.sampleEffort none
  | depart {since : Nat} (hpending : axis.pending = none)
      (hstate : axis.state = .startingMove since) (hmotion : axis.motionStarted = true) :
      UpdateCase axis now { axis.sampleEffort with state := .moving } none
  /-- A stop came before the move had started. -/
  | giveUp {since : Nat} (hpending : axis.pending = none)
      (hstate : axis.state = .startingMove since) :
      UpdateCase axis now { axis.sampleEffort with state := .standby } (some .stopped)
  /-- A move fails. -/
  | fail {fault : Fault} (hpending : axis.pending = none) (hstate : axis.state.isMoving = true)
      (hfault : fault ≠ .hardware) :
      UpdateCase axis now (axis.sampleEffort.failMove fault).1 (some (.fault fault))
  /-- A move ends, as no channel is stepping any more. -/
  | arrive {event : AxisEvent} (hpending : axis.pending = none) (hstate : axis.state = .moving)
      (hfree : axis.anyFault = false) (hrest : axis.anyStepping = false)
      (hevent : event = if axis.stopRequested then .stopped else .done) :
      UpdateCase axis now { axis.sampleEffort with stopRequested := false, state := .standby }
        (some event)
  | homing {session : HomingSession} {axis' : Axis C} {event : Option AxisEvent}
      (hpending : axis.pending = none) (hstate : axis.state = .homing session)
      (hcase : axis.sampleEffort.HomingCase session now axis' event) :
      UpdateCase axis now axis' event

section

variable {axis : Axis C} {now : Nat}

theorem updateStarting_case {since : Nat} (hpending : axis.pending = none)
    (hstate : axis.state = .startingMove since) :
    axis.UpdateCase now (axis.sampleEffort.updateStarting since now).1
      (axis.sampleEffort.updateStarting since now).2 := by
  unfold updateStarting
  split
  · rename_i hmotion
    exact .depart hpending hstate hmotion
  split
  · exact .giveUp hpending hstate
  split
  · exact .fail hpending (by rw [hstate]; rfl) nofun
  · exact .go hpending (by rw [hstate]; rfl)

theorem updateMoving_case (hpending : axis.pending = none) (hstate : axis.state = .moving)
    (hfree : axis.anyFault = false) :
    axis.UpdateCase now axis.sampleEffort.updateMoving.1 axis.sampleEffort.updateMoving.2 := by
  unfold updateMoving
  split
  · exact .fail hpending (by rw [hstate]; rfl) nofun
  split
  · exact .go hpending (by rw [hstate]; rfl)
  · rename_i hrest
    exact .arrive hpending hstate hfree (Bool.not_eq_true _ ▸ hrest) rfl

/-- An update reports the event that a call has left, and does nothing else. -/
theorem update_of_pending {event : AxisEvent} (h : axis.pending = some event) :
    axis.update now = ({ axis.sampleEffort with pending := none }, some event) := by
  have hp : axis.sampleEffort.pending = some event := h
  simp only [update, hp]

/-- **One update** comes to one of the cases. -/
theorem update_case (axis : Axis C) (now : Nat) :
    axis.UpdateCase now (axis.update now).1 (axis.update now).2 := by
  cases hpending : axis.pending with
  | some event =>
    rw [update_of_pending hpending]
    exact .report hpending
  | none =>
    have hsampled : axis.sampleEffort.pending = none := hpending
    simp only [update, hsampled]
    split
    · rename_i hfault
      rw [Bool.and_eq_true, Bool.not_eq_true'] at hfault
      exact .hardware hpending hfault.1 hfault.2
    · rename_i hfault
      have hfree : axis.state.isFault = true ∨ axis.anyFault = false := by
        cases hstate : axis.state.isFault with
        | true => exact .inl rfl
        | false =>
          have hstate' : axis.sampleEffort.state.isFault = false := hstate
          rw [hstate', Bool.not_false, Bool.true_and, Bool.not_eq_true] at hfault
          exact .inr hfault
      unfold updateState
      split
      · rename_i hstate
        exact .rest hpending (by rw [show axis.state = _ from hstate]; rfl) hfree
      · rename_i hstate
        exact .rest hpending (by rw [show axis.state = _ from hstate]; rfl) hfree
      · rename_i hstate
        exact updateStarting_case hpending hstate
      · rename_i hstate
        refine updateMoving_case hpending hstate (hfree.resolve_left ?_)
        rw [show axis.state = _ from hstate]
        exact Bool.false_ne_true
      · rename_i hstate
        exact .homing hpending hstate (updateHoming_case ..)

/-- A homing run that goes on after an update is the one from before, or comes out of it. -/
theorem UpdateCase.homing_before {next : Axis C} {event : Option AxisEvent}
    (h : axis.UpdateCase now next event) {session' : HomingSession}
    (hnext : next.state = .homing session') :
    axis.state = .homing session' ∧ next.settings = axis.settings ∧
        next.torqueLimit = axis.torqueLimit ∧ next.channels = axis.channels ∧
        next.origins = axis.origins ∨
      ∃ session, axis.state = .homing session ∧
        axis.sampleEffort.HomingCase session now next event := by
  cases h with
  | report | rest | go => exact .inl ⟨hnext, rfl, rfl, rfl, rfl⟩
  | hardware | depart | giveUp | arrive => cases hnext
  | @fail fault =>
    simp only [failMove] at hnext
    split at hnext <;> cases hnext
  | homing hpending hstate hcase => exact .inr ⟨_, hstate, hcase⟩


/-- A move that goes on after an update went on before, with the channels as they are; if it has
started, it had started before or a channel shows so. -/
theorem UpdateCase.moving_before {next : Axis C} {event : Option AxisEvent}
    (h : axis.UpdateCase now next event) (hnext : next.state.isMoving = true) :
    axis.state.isMoving = true ∧ next.channels = axis.channels ∧ next.origins = axis.origins ∧
      (next.state = .moving → axis.state = .moving ∨ axis.motionStarted = true) := by
  cases h with
  | report | rest | go => exact ⟨hnext, rfl, rfl, .inl⟩
  | depart hpending hstate hmotion =>
    refine ⟨?_, rfl, rfl, fun _ => .inr hmotion⟩
    rw [hstate]
    rfl
  | hardware | giveUp | arrive => cases hnext
  | @fail fault =>
    simp only [failMove] at hnext
    split at hnext <;> cases hnext
  | homing hpending hstate hcase => cases hcase <;> cases hnext

/-- A move is done when no channel is stepping. -/
theorem UpdateCase.of_done {next : Axis C} (h : axis.UpdateCase now next (some .done))
    (hpending : axis.pending = none) :
    axis.state = .moving ∧ axis.anyStepping = false ∧ next.channels = axis.channels := by
  cases h with
  | report hreport =>
    rw [hpending] at hreport
    cases hreport
  | arrive hnone hstate hfree hrest => exact ⟨hstate, hrest, rfl⟩
  | homing hnone hstate hcase => cases hcase

end

end Axis

end MotionControl
