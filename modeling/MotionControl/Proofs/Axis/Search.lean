import MotionControl.Proofs.Axis.Failure
import MotionControl.Proofs.Axis.Homing

/-!
# One update of a search

A search looks at its channels one by one. Each of them is at the reference of its way of homing, or
gives the signal of the other way, or tells nothing.

* `signal_eq_reference_iff`, `signal_eq_wrong_iff`: what a channel tells, by what it reports.
* `walk_channel`: what the walk over the channels makes of each of them; `exists_wrong_of_walk`: why
  it ends early.
* `SearchStep`, `searchStep_of_search`: **what a search that does not fail makes of each channel**,
  and when it is over.
* `exists_misleading`, `exists_unfound`: what a search that fails has found.
-/

namespace MotionControl

variable {C : Type}

/-! ## Hits -/

/-- All of some channels have signaled if each of them has a hit. -/
theorem HomingSession.allHit_iff {session : HomingSession} {count : Nat}
    (hcount : count ≤ session.hits.length) :
    session.allHit count = true ↔ ∀ i < count, session.hits[i]? = some true := by
  refine ⟨fun h i hi => hit_of_allHit h hcount hi, fun h => ?_⟩
  refine List.all_eq_true.2 fun hit hmem => ?_
  obtain ⟨i, hi, rfl⟩ := List.mem_take_iff_getElem.1 hmem
  have hlt : i < count := by omega
  have hbound : i < session.hits.length := by omega
  have hhit := h i hlt
  rw [List.getElem?_eq_getElem hbound, Option.some.injEq] at hhit
  exact hhit

/-! ## What a channel tells -/

namespace HomingMode

/-- The other way of homing. -/
def other : HomingMode → HomingMode
  | torque => sensor
  | sensor => torque

/-- Whether a channel with these readings is at the reference of a way of homing. -/
def isReached (exceeds atEndstop : Bool) : HomingMode → Bool
  | torque => exceeds
  | sensor => atEndstop

theorem signal_eq_reference (mode : HomingMode) (exceeds atEndstop : Bool) :
    mode.signal exceeds atEndstop = .reference ↔
      mode.isReached exceeds atEndstop = true ∧
        ¬ mode.other.isReached exceeds atEndstop = true := by
  cases mode <;> cases exceeds <;> cases atEndstop <;> simp [signal, isReached, other]

theorem signal_eq_wrong (mode : HomingMode) (exceeds atEndstop : Bool) :
    (∃ failure, mode.signal exceeds atEndstop = .wrong failure) ↔
      mode.other.isReached exceeds atEndstop = true := by
  cases mode <;> cases exceeds <;> cases atEndstop <;> simp [signal, isReached, other]

end HomingMode

variable [MotorChannel C]

section

variable {mode : HomingMode} {alpha limit : Single} {c : C} {sample : EffortSample}

/-- A reading beyond a torque limit is one of a channel that is stepping. -/
theorem isReached_iff_atReference (mode : HomingMode) (alpha : Single) (sample : EffortSample)
    (c : C) (hlimit : isTorqueLimit limit = true) :
    mode.isReached
        ((sample.take alpha (MotorChannel.effort? c) (MotorChannel.isStepping c)).exceeds limit)
        (MotorChannel.endstop? c == some true) = true ↔ AtReference mode limit c := by
  cases mode with
  | torque =>
    refine ⟨EffortSample.valid_of_exceeds hlimit, ?_⟩
    rintro ⟨hstepping, effort, heffort, hover⟩
    have hover : decide (limit < effort.abs) = true := decide_eq_true hover
    simp only [HomingMode.isReached, EffortSample.take, heffort, EffortSample.exceeds, hstepping,
      hover, Bool.and_self]
  | sensor => exact beq_iff_eq

/-- **A channel signals the reference** if it is there and does not give the signal of the other way
of homing. -/
theorem signal_eq_reference_iff (hlimit : isTorqueLimit limit = true) :
    mode.signal
        ((sample.take alpha (MotorChannel.effort? c) (MotorChannel.isStepping c)).exceeds limit)
        (MotorChannel.endstop? c == some true) = .reference ↔
      AtReference mode limit c ∧ ¬ AtReference mode.other limit c := by
  rw [HomingMode.signal_eq_reference, isReached_iff_atReference mode alpha sample c hlimit,
    isReached_iff_atReference mode.other alpha sample c hlimit]

/-- A signal of the other way of homing is a wrong one. -/
theorem signal_eq_wrong_iff (hlimit : isTorqueLimit limit = true) :
    (∃ failure, mode.signal
        ((sample.take alpha (MotorChannel.effort? c) (MotorChannel.isStepping c)).exceeds limit)
        (MotorChannel.endstop? c == some true) = .wrong failure) ↔
      AtReference mode.other limit c := by
  rw [HomingMode.signal_eq_wrong, isReached_iff_atReference mode.other alpha sample c hlimit]

end

namespace Axis

/-! ## The walk over the channels -/

/-- What a walk over the channels of a search makes of one of them and of its hit. -/
inductive WalkCase (mode : HomingMode) (limit : Single) (sample : EffortSample) (c : C) :
    Bool → C → Bool → Prop where
  | found
      (hsignal : mode.signal (sample.exceeds limit) (MotorChannel.endstop? c == some true) =
        .reference) :
      WalkCase mode limit sample c false (MotorChannel.stopAbrupt c) true
  /-- A channel that has had its hit is left alone. -/
  | again : WalkCase mode limit sample c true c true
  | nothing
      (hsignal : mode.signal (sample.exceeds limit) (MotorChannel.endstop? c == some true) =
        .nothing) :
      WalkCase mode limit sample c false c false

section

variable {mode : HomingMode} {limit : Single} {channels channels' : List C}
  {samples : List EffortSample} {hits hits' : List Bool}

/-- **A walk over all channels** finds no wrong signal, and makes one of the cases of each of
them. -/
theorem walk_channel
    (h : searchChannels mode limit channels samples hits = (channels', hits', none)) {i : Nat}
    {c : C} {sample : EffortSample} {hit : Bool} (hc : channels[i]? = some c)
    (hsample : samples[i]? = some sample) (hhit : hits[i]? = some hit) :
    (∀ failure, mode.signal (sample.exceeds limit) (MotorChannel.endstop? c == some true) ≠
        .wrong failure) ∧
      ∃ c' hit', channels'[i]? = some c' ∧ hits'[i]? = some hit' ∧
        WalkCase mode limit sample c hit c' hit' := by
  induction channels generalizing i samples hits channels' hits' with
  | nil => cases hc
  | cons first cs ih =>
    obtain _ | ⟨reading, samples⟩ := samples
    · cases hsample
    obtain _ | ⟨old, hits⟩ := hits
    · cases hhit
    unfold searchChannels at h
    generalize hwalk : searchChannels mode limit cs samples hits = walk at h
    obtain ⟨rest, restHits, failure⟩ := walk
    generalize hsignal : mode.signal (reading.exceeds limit)
      (MotorChannel.endstop? first == some true) = signal at h
    -- whatever the first channel tells, the walk goes on, so that it ends without a failure
    have hon : ∃ c' hit', channels' = c' :: rest ∧ hits' = hit' :: restHits ∧ failure = none ∧
        WalkCase mode limit reading first old c' hit' ∧ ∀ failure, signal ≠ .wrong failure := by
      cases signal with
      | wrong failure => cases h
      | nothing =>
        cases h
        have hright (failure : HomingFailure) : SearchSignal.nothing ≠ .wrong failure :=
          SearchSignal.noConfusion
        cases old with
        | true => exact ⟨first, true, rfl, rfl, rfl, .again, hright⟩
        | false => exact ⟨first, false, rfl, rfl, rfl, .nothing hsignal, hright⟩
      | reference =>
        have hright (failure : HomingFailure) : SearchSignal.reference ≠ .wrong failure :=
          SearchSignal.noConfusion
        cases old with
        | true =>
          cases h
          exact ⟨first, true, rfl, rfl, rfl, .again, hright⟩
        | false =>
          cases h
          exact ⟨_, true, rfl, rfl, rfl, .found hsignal, hright⟩
    obtain ⟨c', hit', rfl, rfl, rfl, hcase, hright⟩ := hon
    cases i with
    | zero =>
      cases hc
      cases hsample
      cases hhit
      exact ⟨hsignal ▸ hright, c', hit', rfl, rfl, hcase⟩
    | succ i => exact ih hwalk hc hsample hhit

/-- A walk that ends early has come to a wrong signal. -/
theorem exists_wrong_of_walk {failure : HomingFailure}
    (h : searchChannels mode limit channels samples hits = (channels', hits', some failure)) :
    ∃ (i : Nat) (c : C) (sample : EffortSample), channels[i]? = some c ∧ samples[i]? = some sample ∧
      mode.signal (sample.exceeds limit) (MotorChannel.endstop? c == some true) =
        .wrong failure := by
  have key : (searchChannels mode limit channels samples hits).2.2 = some failure →
      ∃ (i : Nat) (c : C) (sample : EffortSample), channels[i]? = some c ∧
        samples[i]? = some sample ∧
        mode.signal (sample.exceeds limit) (MotorChannel.endstop? c == some true) =
          .wrong failure := by
    clear h
    fun_induction searchChannels mode limit channels samples hits with
    | case1 c cs sample samples hit hits wrong hsignal =>
      intro hfailure
      cases hfailure
      exact ⟨0, c, sample, rfl, rfl, hsignal⟩
    | case2 c cs sample samples hit hits cs' hits' failure hwalk hsignal isNew ih =>
      rw [hwalk] at ih
      intro hfailure
      obtain ⟨i, c, sample, hc, hsample, hwrong⟩ := ih hfailure
      exact ⟨i + 1, c, sample, hc, hsample, hwrong⟩
    | case3 =>
      intro hfailure
      cases hfailure
  rw [h] at key
  exact key rfl

end

/-! ## One update of a search -/

/-- The channel gives the signal of the other way of homing. -/
def Misleads (axis : Axis C) (session : HomingSession) (c : C) : Prop :=
  AtReference axis.settings.homing.mode.other session.torque c

/-- The channel signals the reference for the first time in this leg. -/
def IsFoundNow (axis : Axis C) (session : HomingSession) (i : Nat) (c : C) : Prop :=
  AtReference axis.settings.homing.mode session.torque c ∧ session.hits[i]? ≠ some true

/-- What an update makes of a search that does not fail. -/
structure SearchStep (axis : Axis C) (session : HomingSession) (leg : Leg) (next : Axis C)
    (session' : HomingSession) : Prop where
  state : next.state = .homing session'
  straight : ∀ c ∈ axis.channels, ¬ axis.Misleads session c
  /-- A channel is stopped when it is found, and left alone otherwise. -/
  stopped : ∀ (i : Nat) (c : C), axis.channels[i]? = some c → axis.IsFoundNow session i c →
    next.channels[i]? = some (MotorChannel.stopAbrupt c)
  spared : ∀ (i : Nat) (c : C), axis.channels[i]? = some c → ¬ axis.IsFoundNow session i c →
    next.channels[i]? = some c
  hit : ∀ i < axis.channels.length, (session'.hits[i]? = some true ↔ axis.IsFound session i)
  /-- The leg is over when all channels are found. -/
  phase : (session'.phase = .after leg ∧ ∀ i < axis.channels.length, axis.IsFound session i) ∨
    session'.phase = .leg leg .moving ∧ ∃ i < axis.channels.length, ¬ axis.IsFound session i

section

variable {axis next : Axis C} {session : HomingSession} {now : Nat} {leg : Leg}

omit [MotorChannel C] in
/-- There are a hit and an effort sample for each channel. -/
theorem exists_of_channel (hsound : axis.IsSound) (hfits : session.Fits axis) {i : Nat} {c : C}
    (hc : axis.channels[i]? = some c) :
    ∃ hit sample, session.hits[i]? = some hit ∧ axis.monitor.samples[i]? = some sample := by
  obtain ⟨hi, -⟩ := List.getElem?_eq_some_iff.1 hc
  have hhits : i < session.hits.length := by
    have := hsound.channels_le
    have := hfits.hits
    omega
  have hsamples : i < axis.monitor.samples.length := by
    rw [hsound.samples]
    exact hi
  exact ⟨_, _, List.getElem?_eq_getElem hhits, List.getElem?_eq_getElem hsamples⟩

/-- The walk of an update, for one channel: it does not mislead, and the rest is as its signal
says. -/
theorem channel_of_walk {channels : List C} {hits : List Bool} (hsound : axis.IsSound)
    (hfits : session.Fits axis)
    (hwalk : searchChannels session.settings.mode axis.torqueLimit axis.channels
      axis.sampleEffort.monitor.samples session.hits = (channels, hits, none)) {i : Nat} {c : C}
    (hc : axis.channels[i]? = some c) :
    ¬ axis.Misleads session c ∧
      (axis.IsFoundNow session i c → channels[i]? = some (MotorChannel.stopAbrupt c)) ∧
      (¬ axis.IsFoundNow session i c → channels[i]? = some c) ∧
      (hits[i]? = some true ↔ axis.IsFound session i) := by
  obtain ⟨hit, sample, hhit, hbefore⟩ := exists_of_channel hsound hfits hc
  have hsample : axis.sampleEffort.monitor.samples[i]? = some
      (sample.take axis.monitor.alpha (MotorChannel.effort? c) (MotorChannel.isStepping c)) := by
    simp only [sampleEffort, List.getElem?_zipWith, hc, hbefore]
  obtain ⟨hright, c', hit', hc', hhit', hcase⟩ := walk_channel hwalk hc hsample hhit
  rw [hfits.limit, hfits.settings] at hright hcase
  have hstraight : ¬ axis.Misleads session c := by
    intro hmisleads
    obtain ⟨failure, hwrong⟩ := (signal_eq_wrong_iff hfits.torque).2 hmisleads
    exact hright failure hwrong
  have hsignal : axis.settings.homing.mode.signal
      ((sample.take axis.monitor.alpha (MotorChannel.effort? c)
        (MotorChannel.isStepping c)).exceeds session.torque)
      (MotorChannel.endstop? c == some true) = .reference ↔
      AtReference axis.settings.homing.mode session.torque c :=
    (signal_eq_reference_iff hfits.torque).trans (and_iff_left hstraight)
  have hfound : axis.IsFound session i ↔
      hit = true ∨ AtReference axis.settings.homing.mode session.torque c := by
    simp only [IsFound, hhit, hc, Option.some.injEq, exists_eq_left']
  have hnow : axis.IsFoundNow session i c ↔
      AtReference axis.settings.homing.mode session.torque c ∧ hit ≠ true := by
    simp only [IsFoundNow, hhit, ne_eq, Option.some.injEq]
  refine ⟨hstraight, ?_⟩
  rw [hc', hhit', hfound, hnow]
  cases hcase with
  | found hreference => simp [hsignal.1 hreference]
  | again => simp
  | nothing hnone =>
    have hnot : ¬ AtReference axis.settings.homing.mode session.torque c := by
      rw [← hsignal, hnone]
      exact SearchSignal.noConfusion
    simp [hnot]

/-- A search that has walked over all of its channels is over exactly if all of them are found. -/
theorem allHit_iff_found {channels : List C} {hits : List Bool} (hsound : axis.IsSound)
    (hfits : session.Fits axis)
    (hwalk : searchChannels session.settings.mode axis.torqueLimit axis.channels
      axis.sampleEffort.monitor.samples session.hits = (channels, hits, none)) :
    { session with hits }.allHit channels.length = true ↔
      ∀ i < axis.channels.length, axis.IsFound session i := by
  obtain ⟨hchannels, hhits⟩ := length_of_walk hwalk
  have hcount : channels.length ≤ hits.length := by
    rw [hhits, hfits.hits, hchannels]
    exact hsound.channels_le
  rw [HomingSession.allHit_iff hcount, hchannels]
  refine forall₂_congr fun i hi => ?_
  exact (channel_of_walk hsound hfits hwalk (List.getElem?_eq_getElem hi)).2.2.2

/-- **What an update makes of a search that does not fail.** -/
theorem searchStep_of_search (hsound : axis.IsSound) (hfits : session.Fits axis)
    (hphase : session.phase = .leg leg .moving)
    (h : axis.sampleEffort.search session leg now = (next, none)) :
    ∃ session', axis.SearchStep session leg next session' := by
  unfold search at h
  generalize hwalk : searchChannels session.settings.mode axis.sampleEffort.torqueLimit
    axis.sampleEffort.channels axis.sampleEffort.monitor.samples session.hits = walk at h
  obtain ⟨channels, hits, failure⟩ := walk
  dsimp only at h
  cases failure with
  | some failure => cases h
  | none =>
    have hchannel {i : Nat} {c : C} (hc : axis.channels[i]? = some c) :=
      channel_of_walk hsound hfits hwalk hc
    have hall := allHit_iff_found hsound hfits hwalk
    -- the channels and the hits are those of the walk, whether the leg goes on or is over
    have step (session' : HomingSession) (hstate : next.state = .homing session')
        (hchannels : next.channels = channels) (hhits : session'.hits = hits)
        (hover : session'.phase = .after leg ∧
            (∀ i < axis.channels.length, axis.IsFound session i) ∨
          session'.phase = .leg leg .moving ∧
            ∃ i < axis.channels.length, ¬ axis.IsFound session i) :
        axis.SearchStep session leg next session' := by
      subst hchannels hhits
      refine ⟨hstate, ?_, fun i c hc => (hchannel hc).2.1, fun i c hc => (hchannel hc).2.2.1, ?_,
        hover⟩
      · intro c hmem
        obtain ⟨i, hc⟩ := List.mem_iff_getElem?.1 hmem
        exact (hchannel hc).1
      · intro i hi
        exact (hchannel (List.getElem?_eq_getElem hi)).2.2.2
    dsimp only at h
    split at h
    · rename_i hover
      cases h
      exact ⟨_, step _ rfl rfl rfl (.inl ⟨rfl, hall.1 hover⟩)⟩
    rename_i hmissing
    split at h
    · cases h
    · cases h
      have hunfound : ¬ ∀ i < axis.channels.length, axis.IsFound session i :=
        mt hall.2 hmissing
      push Not at hunfound
      exact ⟨_, step _ rfl rfl rfl (.inr ⟨hphase, hunfound⟩)⟩

/-- A search that comes to a wrong signal has a channel that misleads it. -/
theorem exists_misleading {channels : List C} {hits : List Bool} {failure : HomingFailure}
    (hfits : session.Fits axis)
    (hwalk : searchChannels session.settings.mode axis.torqueLimit axis.channels
      axis.sampleEffort.monitor.samples session.hits = (channels, hits, some failure)) :
    ∃ c ∈ axis.channels, axis.Misleads session c := by
  obtain ⟨i, c, sample, hc, hsample, hwrong⟩ := exists_wrong_of_walk hwalk
  simp only [sampleEffort, List.getElem?_zipWith, hc] at hsample
  cases hbefore : axis.monitor.samples[i]? with
  | none => simp [hbefore] at hsample
  | some before =>
    simp only [hbefore, Option.some.injEq] at hsample
    subst hsample
    rw [hfits.limit, hfits.settings] at hwrong
    exact ⟨c, List.mem_of_getElem? hc, (signal_eq_wrong_iff hfits.torque).1 ⟨failure, hwrong⟩⟩

/-- A search that has come to rest has a channel that is not found, and no channel was stepping but
those that it has just stopped. -/
theorem exists_unfound {channels : List C} {hits : List Bool} (hsound : axis.IsSound)
    (hfits : session.Fits axis)
    (hwalk : searchChannels session.settings.mode axis.torqueLimit axis.channels
      axis.sampleEffort.monitor.samples session.hits = (channels, hits, none))
    (hmissing : { session with hits }.allHit channels.length = false)
    (hrest : channels.any MotorChannel.isStepping = false) :
    (∃ i < axis.channels.length, ¬ axis.IsFound session i) ∧
      ∀ (i : Nat) (c : C), axis.channels[i]? = some c → MotorChannel.isStepping c = true →
        axis.IsFoundNow session i c := by
  constructor
  · have hunfound : ¬ ∀ i < axis.channels.length, axis.IsFound session i := by
      rw [← allHit_iff_found hsound hfits hwalk, hmissing]
      exact Bool.false_ne_true
    push Not at hunfound
    exact hunfound
  · intro i c hc hstepping
    obtain ⟨-, -, hspared, -⟩ := channel_of_walk hsound hfits hwalk hc
    by_contra hnot
    have hmem := List.mem_of_getElem? (hspared hnot)
    exact List.any_eq_false.1 hrest c hmem hstepping

end

end Axis

end MotionControl
