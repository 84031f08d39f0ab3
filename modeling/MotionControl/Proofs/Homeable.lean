import MotionControl.Proofs.Axis.Homing
import MotionControl.Proofs.Settings.Validity

/-!
# Valid settings leave an axis that can be homed

A homing run needs the right feedback of its channels, and time: the drives stay released until a
deadline, and the run has a deadline of its own. Both are held to the end of the clock.

* `Poll`, `EndsHomed`: some feedback and an update; polls that bring a homing run to its end.
* `CanBeHomed`: some channels, some command and some polls home a new axis.
* `HasTime`: a run that begins at an instant outlasts the release of its drives.
* `IsReleasedLong`: without that time no polls bring a run to its end, whatever the channels are.
* `IsOnTheWay`: with it each leg is travelled in three polls, and the last ones end the run.
* `validated_axis_can_be_homed`: **every axis of valid settings can be homed, and when**.
-/

namespace MotionControl

variable {C : Type}

theorem le_later {since : Nat} (h : since ≤ clockEnd) (dt : Nat) : since ≤ later since dt := by
  unfold later
  omega

theorem later_le_later {since now : Nat} (h : since ≤ now) (dt : Nat) :
    later since dt ≤ later now dt := by
  unfold later
  omega

/-! ## Polls -/

/-- What the channels do on their own, and the time of the update that polls them after it. -/
structure Poll (C : Type) where
  feedback : Nat → C → C
  now : Nat

def Poll.acts (poll : Poll C) : List (AxisAct C) := [.sense poll.feedback, .update poll.now]

/-- The clock starts at an instant, never goes back and stays within its range. -/
def RunsOn : Nat → List (Poll C) → Prop
  | _, [] => True
  | since, poll :: polls => since ≤ poll.now ∧ poll.now ≤ clockEnd ∧ RunsOn poll.now polls

theorem RunsOn.le {since : Nat} {polls : List (Poll C)} (h : RunsOn since polls) :
    ∀ poll ∈ polls, since ≤ poll.now := by
  induction polls generalizing since with
  | nil => exact fun _ h => (List.not_mem_nil h).elim
  | cons first polls ih =>
    obtain ⟨hfirst, -, hrest⟩ := h
    intro poll hpoll
    rcases List.mem_cons.1 hpoll with rfl | hpoll
    · exact hfirst
    · exact Nat.le_trans hfirst (ih hrest poll hpoll)

variable [MotorChannel C]

namespace Axis

/-- The axis after a poll, and the event that the update reports. -/
def poll (next : Poll C) (axis : Axis C) : Axis C × Option AxisEvent :=
  (axis.sense next.feedback).update next.now

/-- An update of some polls reports the end of a homing run. -/
def IsHomedBy (polls : List (Poll C)) (axis : Axis C) : Prop :=
  ∃ moment ∈ axis.moments (polls.flatMap Poll.acts), moment.event = some .homed

theorem not_isHomedBy_nil {axis : Axis C} : ¬ axis.IsHomedBy [] := by
  rintro ⟨moment, hmem, -⟩
  cases hmem

theorem isHomedBy_cons {axis : Axis C} {poll : Poll C} {polls : List (Poll C)} :
    axis.IsHomedBy (poll :: polls) ↔
      (axis.poll poll).2 = some .homed ∨ (axis.poll poll).1.IsHomedBy polls := by
  have hmoments : axis.moments ((poll :: polls).flatMap Poll.acts) =
      ⟨axis, .sense poll.feedback⟩ :: ⟨axis.sense poll.feedback, .update poll.now⟩ ::
        (axis.poll poll).1.moments (polls.flatMap Poll.acts) := rfl
  constructor
  · rintro ⟨moment, hmem, hevent⟩
    rw [hmoments] at hmem
    rcases List.mem_cons.1 hmem with rfl | hmem
    · cases hevent
    rcases List.mem_cons.1 hmem with rfl | hmem
    · exact .inl hevent
    · exact .inr ⟨moment, hmem, hevent⟩
  · rintro (hevent | ⟨moment, hmem, hevent⟩)
    · refine ⟨⟨axis.sense poll.feedback, .update poll.now⟩, ?_, hevent⟩
      rw [hmoments]
      exact .tail _ (.head _)
    · refine ⟨moment, ?_, hevent⟩
      rw [hmoments]
      exact .tail _ (.tail _ hmem)

/-- Some polls from an instant on bring a homing run to its end. -/
def EndsHomed (since : Nat) (axis : Axis C) : Prop :=
  ∃ polls, RunsOn since polls ∧ axis.IsHomedBy polls

theorem EndsHomed.of_event {since : Nat} {axis : Axis C} (poll : Poll C)
    (hsince : since ≤ poll.now) (hend : poll.now ≤ clockEnd)
    (hevent : (axis.poll poll).2 = some .homed) : axis.EndsHomed since :=
  ⟨[poll], ⟨hsince, hend, trivial⟩, isHomedBy_cons.2 (.inl hevent)⟩

theorem EndsHomed.of_poll {since : Nat} {axis : Axis C} (poll : Poll C)
    (hsince : since ≤ poll.now) (hend : poll.now ≤ clockEnd)
    (h : (axis.poll poll).1.EndsHomed poll.now) : axis.EndsHomed since := by
  obtain ⟨polls, hpolls, hhomed⟩ := h
  exact ⟨poll :: polls, ⟨hsince, hend, hpolls⟩, isHomedBy_cons.2 (.inr hhomed)⟩

/-! ## One update of a homing run -/

section

variable {axis : Axis C} {session : HomingSession} {now : Nat}

/-- A homing run that has taken too long is not completed. -/
theorem not_homed_of_expired (hpending : axis.pending = none)
    (hstate : axis.state = .homing session)
    (hexpired : session.settings.timeout.toNat ≤ session.elapsed now) :
    (axis.update now).2 ≠ some .homed := by
  cases hfault : axis.anyFault with
  | false =>
    rw [update_of_homing hpending hstate hfault, updateHoming, if_pos hexpired]
    intro h
    cases h
  | true =>
    have hpending : axis.sampleEffort.pending = none := hpending
    have hstate : axis.sampleEffort.state = .homing session := hstate
    have hfault : axis.sampleEffort.anyFault = true := hfault
    simp only [update, hpending, hstate, hfault, AxisState.isFault, Bool.not_false, Bool.and_true,
      if_true, latchHardwareFault]
    intro h
    cases h

end

end Axis

/-! ## Settings that can be homed with -/

namespace AxisSettings

/-- Some channels, some accepted command at an instant and some polls after it home a new axis with
these settings. -/
def CanBeHomed (C : Type) [MotorChannel C] (settings : AxisSettings) (since : Nat) : Prop :=
  ∃ (channels : List C) (axis homing : Axis C) (maxTravel torque : Single),
    Axis.ofChannels settings channels = .ok axis ∧
      axis.home maxTravel torque since = .ok homing ∧ homing.EndsHomed since

/-- A homing run that begins at an instant has time left when the release of its drives is over:
the release is shorter than the run may be, or the clock ends before the run has to. -/
def HasTime (settings : AxisSettings) (since : Nat) : Prop :=
  settings.homing.destress.toNat < settings.homing.timeout.toNat ∨
    clockEnd < since + settings.homing.timeout.toNat

instance (settings : AxisSettings) (since : Nat) : Decidable (settings.HasTime since) :=
  inferInstanceAs (Decidable (_ ∨ _))

end AxisSettings

namespace Axis

/-- An accepted command begins a homing run of a new axis. -/
theorem homing_of_home {settings : AxisSettings} {channels : List C} {start homing : Axis C}
    {maxTravel torque : Single} {since : Nat} (hstart : ofChannels settings channels = .ok start)
    (hhome : start.home maxTravel torque since = .ok homing) :
    homing.IsSound ∧ homing.settings = settings ∧ homing.channels ≠ [] ∧ homing.pending = none ∧
      homing.state = .homing (.start settings.homing maxTravel torque since) := by
  obtain ⟨rfl, rfl, hsome⟩ := built_of_ofChannels hstart
  have hrun := Attempt.outcome_eq_ok.1 hhome
  have hcase : start.CallCase (.home maxTravel torque since) homing := callCase_of_run hrun
  have hsound : homing.IsSound := (Step.accept hcase).isSound (isSound_of_ofChannels hstart)
  obtain ⟨-, -, -, rfl⟩ := tryHome_ok.1 hrun
  exact ⟨hsound, rfl, by simpa [applyTorqueLimit, mapChannels] using hsome, rfl, rfl⟩

/-! ## Without the time -/

/-- The homing run of an axis, if there is one, has begun at an instant, and its drives stay
released for as long as the settings say. -/
structure IsReleasedLong (wanted : AxisSettings) (since : Nat) (axis : Axis C) : Prop where
  sound : axis.IsSound
  settings : axis.settings = wanted
  pending : axis.pending = none
  started : ∀ session, axis.state = .homing session → session.started = since
  deadline : ∀ session deadline, axis.state = .homing session →
    session.phase = .destress deadline → later since wanted.homing.destress.toNat ≤ deadline

variable {settings : AxisSettings} {since : Nat} {axis : Axis C}

theorem isReleasedLong_of_home {channels : List C} {start homing : Axis C}
    {maxTravel torque : Single} (hstart : ofChannels settings channels = .ok start)
    (hhome : start.home maxTravel torque since = .ok homing) :
    homing.IsReleasedLong settings since := by
  obtain ⟨hsound, hsettings, -, hpending, hstate⟩ := homing_of_home hstart hhome
  refine ⟨hsound, hsettings, hpending, ?started, ?deadline⟩
  case started =>
    intro session hsession
    cases hstate.symm.trans hsession
    rfl
  case deadline =>
    intro session deadline hsession hphase
    cases hstate.symm.trans hsession
    cases hphase

theorem IsReleasedLong.sense (h : axis.IsReleasedLong settings since) (feedback : Nat → C → C) :
    (axis.sense feedback).IsReleasedLong settings since :=
  ⟨(Step.sense feedback).isSound h.sound, h.settings, h.pending, h.started, h.deadline⟩

theorem IsReleasedLong.poll (h : axis.IsReleasedLong settings since) {poll : Poll C}
    (hpoll : since ≤ poll.now) :
    (axis.poll poll).1.IsReleasedLong settings since := by
  have hsensed := h.sense poll.feedback
  unfold Axis.poll
  generalize axis.sense poll.feedback = axis at hsensed ⊢
  have hbuild := (axis.update_case poll.now).build_eq hsensed.sound.samples
  have hsettings : (axis.update poll.now).1.settings = axis.settings := congrArg Prod.fst hbuild
  refine ⟨(Step.update poll.now).isSound hsensed.sound, hsettings.trans hsensed.settings,
    axis.update_pending poll.now, ?started, ?deadline⟩
  case started =>
    intro session hnext
    rcases (axis.update_case poll.now).homing_before hnext with
      ⟨hsame, -⟩ | ⟨before, hbefore, hcase⟩
    · exact hsensed.started session hsame
    · rw [hcase.started hnext]
      exact hsensed.started before hbefore
  case deadline =>
    intro session deadline hnext hphase
    rcases (axis.update_case poll.now).homing_before hnext with
      ⟨hsame, -⟩ | ⟨before, hbefore, hcase⟩
    · exact hsensed.deadline session deadline hsame hphase
    rcases hcase.deadline hnext hphase with hold | rfl
    · exact hsensed.deadline before deadline hbefore hold
    · -- the drives are released at this poll, which is not before the run began
      rw [(hsensed.sound.session before hbefore).settings, hsensed.settings]
      exact later_le_later hpoll _

/-- **A run whose release takes too long is not completed**, whatever its channels do. -/
theorem IsReleasedLong.not_isHomedBy (h : axis.IsReleasedLong settings since)
    (hshort : ¬ settings.HasTime since) {polls : List (Poll C)}
    (hpolls : ∀ poll ∈ polls, since ≤ poll.now) : ¬ axis.IsHomedBy polls := by
  obtain ⟨hrelease, hclock⟩ := not_or.1 hshort
  induction polls generalizing axis with
  | nil => exact not_isHomedBy_nil
  | cons poll polls ih =>
    have hpoll : since ≤ poll.now := hpolls poll (.head _)
    rw [isHomedBy_cons]
    rintro (hevent | hrest)
    · have hsensed := h.sense poll.feedback
      have hcase := (axis.sense poll.feedback).update_case poll.now
      rw [show ((axis.sense poll.feedback).update poll.now).2 = some .homed from hevent] at hcase
      obtain ⟨session, hstate, hphase⟩ := hcase.homed hsensed.sound.pending
      have hstarted : session.started = since := hsensed.started session hstate
      have hsession : session.settings = settings.homing := by
        rw [(hsensed.sound.session session hstate).settings, hsensed.settings]
      refine not_homed_of_expired hsensed.pending hstate ?_ hevent
      rw [hsession, HomingSession.elapsed, hstarted]
      rcases hphase with ⟨-, hnone⟩ | ⟨deadline, hdue, hphase⟩
      · rw [hsession] at hnone
        rw [hnone, UInt32.toNat_zero] at hrelease
        omega
      · have hdeadline := hsensed.deadline session deadline hstate hphase
        unfold later at hdeadline
        omega
    · exact ih (h.poll hpoll) (fun later hlater => hpolls later (.tail _ hlater)) hrest

end Axis

/-! ## With the time -/

/-- What a motor shows where a search ends for it. -/
def HomingMode.reference : HomingMode → ScriptedChannel
  | torque => { stepping := true, effort := some 80 }
  | sensor => { endstop := some true }

/-- What every motor shows in a stage of a leg that nothing goes wrong in. -/
def Leg.shown (mode : HomingMode) (leg : Leg) : Stage → ScriptedChannel
  | .start => {}
  | .waitStart => { stepping := true }
  | .moving => if leg.isSearch then mode.reference else {}

/-- The phase that follows a stage of a leg. -/
def Leg.following (leg : Leg) : Stage → HomingPhase
  | .start => .leg leg .waitStart
  | .waitStart => .leg leg .moving
  | .moving => .after leg

/-- Every motor shows the same. -/
def Poll.showing (shown : ScriptedChannel) (now : Nat) : Poll ScriptedChannel :=
  ⟨fun _ _ => shown, now⟩

/-- The torque limit of the runs below, in percent. -/
def usualTorque : Single := 50

/-- A channel that is not stepping is not over a limit. -/
theorem EffortSample.not_exceeds_of_rest (alpha limit : Single) (reading : Option Single)
    (sample : EffortSample) : (sample.take alpha reading false).exceeds limit = false := by
  unfold take
  split <;> rfl

/-- A motor at the reference signals it. -/
theorem HomingMode.signal_reference (mode : HomingMode) (alpha : Single) (sample : EffortSample) :
    mode.signal
      ((sample.take alpha mode.reference.effort mode.reference.stepping).exceeds usualTorque)
      (mode.reference.endstop == some true) = .reference := by
  cases mode with
  | torque =>
    have hvalid : validEffort? (some 80) = some 80 := by decide +kernel
    have hover : usualTorque < (80 : Single).abs := by decide +kernel
    simp [reference, signal, EffortSample.take, EffortSample.exceeds, hvalid, hover]
  | sensor =>
    have hidle := sample.not_exceeds_of_rest alpha usualTorque (some 0)
    simp [reference, signal, hidle]

namespace Axis

/-- A search in which every channel signals the reference gives each of them a hit. -/
theorem searchChannels_of_reference {mode : HomingMode} {limit : Single} {channels : List C}
    {samples : List EffortSample} {hits : List Bool}
    (hsamples : samples.length = channels.length) (hhits : channels.length ≤ hits.length)
    (h : ∀ c ∈ channels, ∀ sample ∈ samples,
      mode.signal (sample.exceeds limit) (MotorChannel.endstop? c == some true) = .reference) :
    ∃ channels' hits', searchChannels mode limit channels samples hits = (channels', hits', none) ∧
      (hits'.take channels.length).all id = true := by
  fun_induction searchChannels mode limit channels samples hits with
  | case1 c cs sample samples hit hits failure hwrong =>
    rw [h c (.head _) sample (.head _)] at hwrong
    cases hwrong
  | case2 c cs sample samples hit hits cs' hits' failure hwalk hsignal isNew ih =>
    have hreference := h c (.head _) sample (.head _)
    have hrest := ih (Nat.succ.inj hsamples) (Nat.le_of_succ_le_succ hhits)
      fun c hc sample hsample => h c (.tail _ hc) sample (.tail _ hsample)
    obtain ⟨channels', found, hwalk', hfound⟩ := hrest
    rw [hwalk', Prod.mk.injEq, Prod.mk.injEq] at hwalk
    obtain ⟨rfl, rfl, rfl⟩ := hwalk
    -- a channel that has no hit yet gets one now
    have hhit : (hit || isNew) = true := by
      cases hit with
      | true => rfl
      | false => simp [isNew, hreference]
    refine ⟨_, _, rfl, ?_⟩
    rw [List.length_cons, List.take_succ_cons, List.all_cons, hfound, hhit]
    rfl
  | case3 channels samples hits hnone =>
    have hempty : channels = [] := by
      cases channels with
      | nil => rfl
      | cons c cs =>
        obtain ⟨sample, samples, rfl⟩ := List.exists_cons_of_length_eq_add_one hsamples
        cases hits with
        | nil => cases hhits
        | cons hit hits => exact (hnone c cs sample samples hit hits rfl rfl rfl).elim
    subst hempty
    exact ⟨[], hits, rfl, rfl⟩

/-- A homing run of scripted motors that nothing has gone wrong in stands at a phase. -/
structure IsOnTheWay (wanted : AxisSettings) (since : Nat) (phase : HomingPhase)
    (axis : Axis ScriptedChannel) : Prop where
  sound : axis.IsSound
  settings : axis.settings = wanted
  channels : axis.channels ≠ []
  pending : axis.pending = none
  origins : ∀ leg, phase = .leg leg .waitStart → axis.origins.length = axis.channels.length
  session : ∃ session, axis.state = .homing session ∧ session.phase = phase ∧
    session.started = since ∧ session.torque = usualTorque

variable {settings : AxisSettings} {since : Nat} {phase : HomingPhase}
  {axis : Axis ScriptedChannel}

/-- Every motor shows the same. -/
def Shows (shown : ScriptedChannel) (axis : Axis ScriptedChannel) : Prop :=
  ∀ c ∈ axis.channels, c = shown

theorem shows_sense (shown : ScriptedChannel) (axis : Axis ScriptedChannel) :
    (axis.sense fun _ _ => shown).Shows shown := by
  intro c hc
  obtain ⟨_, _, rfl⟩ := List.mem_mapIdx.1 hc
  rfl

theorem IsOnTheWay.sense (h : axis.IsOnTheWay settings since phase)
    (feedback : Nat → ScriptedChannel → ScriptedChannel) :
    (axis.sense feedback).IsOnTheWay settings since phase := by
  have hlength : (axis.sense feedback).channels.length = axis.channels.length :=
    List.length_mapIdx
  refine ⟨(Step.sense feedback).isSound h.sound, h.settings, ?channels, h.pending, ?origins,
    h.session⟩
  case channels =>
    intro hnone
    rw [hnone] at hlength
    exact h.channels (List.length_eq_zero_iff.1 hlength.symm)
  case origins =>
    intro leg hleg
    exact (h.origins leg hleg).trans hlength.symm

theorem Shows.anyFault {shown : ScriptedChannel} (h : axis.Shows shown)
    (hfree : shown.fault = false) : axis.anyFault = false := by
  refine List.any_eq_false.2 fun c hc => ?_
  rw [h c hc]
  exact Bool.not_eq_true _ ▸ hfree

theorem Shows.anyStepping {shown : ScriptedChannel} (h : axis.Shows shown)
    (hrest : shown.stepping = false) : axis.anyStepping = false := by
  refine List.any_eq_false.2 fun c hc => ?_
  rw [h c hc]
  exact Bool.not_eq_true _ ▸ hrest

theorem Shows.sample {shown : ScriptedChannel} (h : axis.Shows shown) :
    ∀ sample ∈ axis.sampleEffort.monitor.samples, ∃ before : EffortSample,
      sample = before.take axis.monitor.alpha shown.effort shown.stepping := by
  intro sample hsample
  obtain ⟨i, hi, rfl⟩ := List.getElem_of_mem hsample
  simp only [sampleEffort, List.length_zipWith] at hi
  have hchannels : i < axis.channels.length := by omega
  have hsamples : i < axis.monitor.samples.length := by omega
  have hchannel : axis.channels[i] = shown := h _ (List.getElem_mem hchannels)
  refine ⟨axis.monitor.samples[i], ?_⟩
  simp only [sampleEffort, List.getElem_zipWith, hchannel]
  rfl

/-- The motors have all signaled the reference, and the search is over. -/
theorem search_shown {session : HomingSession} {leg : Leg} {now : Nat} (hsound : axis.IsSound)
    (hstate : axis.state = .homing session) (htorque : session.torque = usualTorque)
    (hshows : axis.Shows axis.settings.homing.mode.reference) :
    ∃ session', (axis.sampleEffort.search session leg now).1.state = .homing session' ∧
      session'.phase = .after leg := by
  have hfits := hsound.session session hstate
  have hlimit : axis.sampleEffort.torqueLimit = usualTorque := hfits.limit.trans htorque
  have hsamples : axis.sampleEffort.monitor.samples.length = axis.sampleEffort.channels.length := by
    have hbuild := build_sampleEffort hsound.samples
    simp only [build, Prod.mk.injEq] at hbuild
    rw [hbuild.2.1, hbuild.2.2, hsound.samples]
  have hhits : axis.sampleEffort.channels.length ≤ session.hits.length := by
    rw [hfits.hits]
    exact hsound.channels_le
  have hsignal : ∀ c ∈ axis.sampleEffort.channels, ∀ sample ∈ axis.sampleEffort.monitor.samples,
      session.settings.mode.signal (sample.exceeds axis.sampleEffort.torqueLimit)
        (MotorChannel.endstop? c == some true) = .reference := by
    intro c hc sample hsample
    obtain ⟨before, rfl⟩ := hshows.sample sample hsample
    rw [hshows c hc, hlimit, hfits.settings]
    exact HomingMode.signal_reference _ _ _
  obtain ⟨channels, hits, hwalk, hall⟩ := searchChannels_of_reference hsamples hhits hsignal
  have hlength : channels.length = axis.sampleEffort.channels.length := (length_of_walk hwalk).1
  unfold search
  simp only [hwalk, HomingSession.allHit, hlength, hall, if_true]
  exact ⟨_, rfl, rfl⟩

/-- The motors have come to rest away from the reference, and the retreat is over. -/
theorem retreat_shown {session : HomingSession} {leg : Leg} {now : Nat}
    (hshows : axis.Shows {}) :
    ∃ session', (axis.sampleEffort.retreat session leg now).1.state = .homing session' ∧
      session'.phase = .after leg := by
  have hrest : axis.sampleEffort.anyStepping = false := hshows.anyStepping rfl
  have hfree : axis.sampleEffort.anyOverLimit = false := by
    refine List.any_eq_false.2 fun sample hsample => ?_
    obtain ⟨before, rfl⟩ := hshows.sample sample hsample
    exact Bool.not_eq_true _ ▸ before.not_exceeds_of_rest _ _ _
  have haway : axis.sampleEffort.anyEndstop = false := by
    refine List.any_eq_false.2 fun c hc => ?_
    rw [hshows c hc]
    exact Bool.false_ne_true
  unfold retreat
  simp only [hfree, hrest, haway, Bool.false_eq_true, and_false, if_false]
  exact ⟨_, rfl, rfl⟩

/-- The motors are stepping, so the move has started. -/
theorem motionStarted_shown {leg : Leg} (h : axis.IsOnTheWay settings since (.leg leg .waitStart))
    (hshows : axis.Shows { stepping := true }) : axis.motionStarted = true := by
  cases hchannels : axis.channels with
  | nil => exact absurd hchannels h.channels
  | cons c cs =>
    have horigins := h.origins leg rfl
    rw [hchannels] at horigins
    obtain ⟨origin, origins, hcons⟩ := List.exists_cons_of_length_eq_add_one horigins
    have hstepping : MotorChannel.isStepping c = true := by
      rw [hshows c (hchannels ▸ .head _)]
      rfl
    simp [motionStarted, hchannels, hcons, hstepping]

/-- Motors that show what belongs to a stage of a leg take the run one stage further. -/
theorem IsOnTheWay.update {leg : Leg} {stage : Stage}
    (h : axis.IsOnTheWay settings since (.leg leg stage))
    (htime : 0 < settings.homing.timeout.toNat)
    (hshows : axis.Shows (leg.shown settings.homing.mode stage)) :
    ∃ session, (axis.update since).1.state = .homing session ∧
      session.phase = leg.following stage ∧
      (stage = .start →
        (axis.update since).1.origins.length = (axis.update since).1.channels.length) := by
  obtain ⟨session, hstate, hphase, hstarted, htorque⟩ := h.session
  have hsettings : session.settings = settings.homing :=
    h.settings ▸ (h.sound.session session hstate).settings
  have hfree : axis.anyFault = false := by
    refine hshows.anyFault ?_
    cases leg <;> cases stage <;> cases settings.homing.mode <;> rfl
  have hleft : session.elapsed since < session.settings.timeout.toNat := by
    rw [hsettings, HomingSession.elapsed, hstarted, Nat.sub_self]
    exact htime
  rw [update_of_homing h.pending hstate hfree, updateHoming, if_neg (Nat.not_le.2 hleft), hphase]
  cases stage with
  | start =>
    refine ⟨_, rfl, rfl, fun _ => ?_⟩
    simp [startLeg, continueHoming, recordOrigins, applyTorqueLimit, mapChannels]
  | waitStart =>
    have hmotion : axis.motionStarted = true := motionStarted_shown h hshows
    have hmotion : axis.sampleEffort.motionStarted = true := hmotion
    simp only [awaitLeg, hmotion, if_true]
    exact ⟨_, rfl, rfl, fun h => by cases h⟩
  | moving =>
    simp only [Leg.shown] at hshows
    dsimp only
    split at hshows
    · rename_i hsearch
      rw [if_pos hsearch]
      obtain ⟨session', hnext, hafter⟩ :=
        search_shown h.sound hstate htorque (h.settings ▸ hshows)
      exact ⟨session', hnext, hafter, fun h => by cases h⟩
    · rename_i hretreat
      rw [if_neg hretreat]
      obtain ⟨session', hnext, hafter⟩ := retreat_shown hshows
      exact ⟨session', hnext, hafter, fun h => by cases h⟩

/-- **A poll takes a leg one stage further.** -/
theorem IsOnTheWay.next {leg : Leg} {stage : Stage}
    (h : axis.IsOnTheWay settings since (.leg leg stage))
    (htime : 0 < settings.homing.timeout.toNat) :
    (axis.poll (.showing (leg.shown settings.homing.mode stage) since)).1.IsOnTheWay settings
      since (leg.following stage) := by
  have hsensed := h.sense fun _ _ => leg.shown settings.homing.mode stage
  have hshows := shows_sense (leg.shown settings.homing.mode stage) axis
  unfold poll Poll.showing
  dsimp only
  generalize axis.sense (fun _ _ => leg.shown settings.homing.mode stage) = axis
    at hsensed hshows ⊢
  obtain ⟨session', hnext, hphase, horigins⟩ := hsensed.update htime hshows
  have hbuild := (axis.update_case since).build_eq hsensed.sound.samples
  simp only [build, Prod.mk.injEq] at hbuild
  refine ⟨(Step.update since).isSound hsensed.sound, hbuild.1.trans hsensed.settings, ?channels,
    axis.update_pending since, ?origins, session', hnext, hphase, ?session⟩
  case channels =>
    intro hnone
    rw [hnone] at hbuild
    exact hsensed.channels (List.length_eq_zero_iff.1 hbuild.2.1.symm)
  case origins =>
    intro leg' hleg'
    cases stage with
    | start => exact horigins rfl
    | waitStart => cases hleg'
    | moving => cases HomingPhase.stage_of_after hleg'
  case session =>
    obtain ⟨session, hstate, -, hstarted, htorque⟩ := hsensed.session
    rcases (axis.update_case since).homing_before hnext with ⟨hsame, -⟩ | ⟨before, hbefore, hcase⟩
    · cases hstate.symm.trans hsame
      exact ⟨hstarted, htorque⟩
    · cases hstate.symm.trans hbefore
      exact ⟨(hcase.started hnext).trans hstarted, (hcase.goesOn hnext).torque.trans htorque⟩

/-- Three polls travel a leg. -/
theorem IsOnTheWay.endsHomed_of_leg {leg : Leg}
    (h : axis.IsOnTheWay settings since (.leg leg .start))
    (htime : 0 < settings.homing.timeout.toNat) (hsince : since ≤ clockEnd)
    (hafter : ∀ next : Axis ScriptedChannel, next.IsOnTheWay settings since (.after leg) →
      next.EndsHomed since) : axis.EndsHomed since := by
  have hwaiting := h.next htime
  have hmoving := hwaiting.next htime
  have hdone := hmoving.next htime
  have hthird := EndsHomed.of_poll (.showing _ since) (Nat.le_refl since) hsince (hafter _ hdone)
  have hsecond := EndsHomed.of_poll (.showing _ since) (Nat.le_refl since) hsince hthird
  exact EndsHomed.of_poll (.showing _ since) (Nat.le_refl since) hsince hsecond

/-- The drives are energized again at the deadline, if the run has time left then. -/
theorem endsHomed_of_destress {session : HomingSession} {deadline : Nat}
    (hpending : axis.pending = none) (hstate : axis.state = .homing session)
    (hphase : session.phase = .destress deadline)
    (hleft : session.elapsed deadline < session.settings.timeout.toNat)
    (hsince : since ≤ deadline) (hend : deadline ≤ clockEnd) : axis.EndsHomed since := by
  refine .of_event (.showing {} deadline) hsince hend ?_
  have hpending : (axis.sense fun _ _ => {}).pending = none := hpending
  have hstate : (axis.sense fun _ _ => {}).state = .homing session := hstate
  have hfree : (axis.sense fun _ _ => {}).anyFault = false := (shows_sense {} axis).anyFault rfl
  unfold poll Poll.showing
  rw [update_of_homing hpending hstate hfree, updateHoming, if_neg (Nat.not_le.2 hleft), hphase]
  simp [updateDestress, completeHoming, finish]

/-- The zeroing ends the run, or the release of the drives does for which there is time. -/
theorem IsOnTheWay.endsHomed_of_zero (h : axis.IsOnTheWay settings since .setZero)
    (htime : 0 < settings.homing.timeout.toNat) (hsince : since ≤ clockEnd)
    (hrelease : settings.HasTime since) : axis.EndsHomed since := by
  have hsensed := h.sense fun _ _ => {}
  have hfree : (axis.sense fun _ _ => {}).anyFault = false := (shows_sense {} axis).anyFault rfl
  obtain ⟨session, hstate, hphase, hstarted, -⟩ := hsensed.session
  have hsettings : session.settings = settings.homing :=
    hsensed.settings ▸ (hsensed.sound.session session hstate).settings
  have hleft : session.elapsed since < session.settings.timeout.toNat := by
    rw [hsettings, HomingSession.elapsed, hstarted, Nat.sub_self]
    exact htime
  have hpoll : axis.poll (.showing {} since) =
      (axis.sense fun _ _ => {}).sampleEffort.zeroChannels session since := by
    unfold poll Poll.showing
    rw [update_of_homing hsensed.pending hstate hfree, updateHoming, if_neg (Nat.not_le.2 hleft),
      hphase]
  by_cases hdestress : settings.homing.destress = 0
  · refine .of_event (.showing {} since) (Nat.le_refl since) hsince ?_
    rw [hpoll]
    simp [zeroChannels, hsettings, hdestress, completeHoming, finish]
  · refine .of_poll (.showing {} since) (Nat.le_refl since) hsince ?_
    rw [hpoll]
    simp only [zeroChannels, hsettings, hdestress, if_false, continueHoming]
    refine endsHomed_of_destress hsensed.pending rfl rfl ?_ (le_later hsince _)
      (Nat.min_le_left _ _)
    -- the deadline is held to the end of the clock, which may come before the one of the run
    unfold AxisSettings.HasTime at hrelease
    simp only [HomingSession.enter, HomingSession.elapsed, hsettings, hstarted, later]
    omega

/-- A homing run that has just begun is on its way. -/
theorem isOnTheWay_of_home {channels : List ScriptedChannel} {start homing : Axis ScriptedChannel}
    {maxTravel : Single} (hstart : ofChannels settings channels = .ok start)
    (hhome : start.home maxTravel usualTorque since = .ok homing) :
    homing.IsOnTheWay settings since (.leg .rapidSearch .start) := by
  obtain ⟨hsound, hsettings, hchannels, hpending, hstate⟩ := homing_of_home hstart hhome
  exact ⟨hsound, hsettings, hchannels, hpending, nofun, _, hstate, rfl, rfl, rfl⟩

/-- **A run that has time ends with the axis homed**, where its motors show what they should. -/
theorem IsOnTheWay.endsHomed (h : axis.IsOnTheWay settings since (.leg .rapidSearch .start))
    (htime : 0 < settings.homing.timeout.toNat) (hsince : since ≤ clockEnd)
    (hrelease : settings.HasTime since) : axis.EndsHomed since := by
  refine h.endsHomed_of_leg htime hsince fun axis hbackoff => ?_
  refine hbackoff.endsHomed_of_leg htime hsince fun axis hslow => ?_
  refine hslow.endsHomed_of_leg htime hsince fun axis hoffset => ?_
  refine hoffset.endsHomed_of_leg htime hsince fun axis hzero => ?_
  exact hzero.endsHomed_of_zero htime hsince hrelease

end Axis

/-! ## Valid settings -/

namespace AxisSettings

variable {settings : AxisSettings} {since : Nat}

/-- A new axis with motors at rest takes the command. -/
theorem exists_home (hvalid : settings.fault? = none) (since : Nat) :
    ∃ start homing : Axis ScriptedChannel,
      Axis.ofChannels settings (List.replicate settings.channels.toNat {}) = .ok start ∧
        start.home 1 usualTorque since = .ok homing := by
  obtain ⟨hsome, hfew⟩ := channels_of_fault? hvalid
  have hchannels : List.replicate settings.channels.toNat ({} : ScriptedChannel) ≠ [] := by
    rw [ne_eq, List.replicate_eq_nil_iff]
    omega
  obtain ⟨start, hstart⟩ := Axis.exists_ofChannels hchannels (by rwa [List.length_replicate])
    List.length_replicate
  have henabled : start.allEnabled = true := by
    refine List.all_eq_true.2 fun c hc => ?_
    rw [(Axis.built_of_ofChannels hstart).2.1] at hc
    rw [List.eq_of_mem_replicate hc]
    rfl
  have hstandby : start.state = .standby := (Axis.atRest_of_ofChannels hstart).1
  have harguments : ((1 : Single).isPositive && isTorqueLimit usualTorque) = true := by
    decide +kernel
  exact ⟨start, _, hstart,
    Attempt.outcome_eq_ok.2 (Axis.tryHome_ok.2 ⟨hstandby, harguments, henabled, rfl⟩)⟩

/-- **When an axis can be homed.** -/
theorem canBeHomed_iff (hvalid : settings.fault? = none) (hsince : since ≤ clockEnd) :
    settings.CanBeHomed ScriptedChannel since ↔ settings.HasTime since := by
  constructor
  · rintro ⟨channels, start, homing, maxTravel, torque, hstart, hhome, polls, hpolls, hhomed⟩
    by_contra hshort
    exact (Axis.isReleasedLong_of_home hstart hhome).not_isHomedBy hshort hpolls.le hhomed
  · intro hrelease
    obtain ⟨start, homing, hstart, hhome⟩ := exists_home hvalid since
    have hway := Axis.isOnTheWay_of_home hstart hhome
    exact ⟨_, start, homing, _, _, hstart, hhome,
      hway.endsHomed (timeLeft_of_fault? hvalid).2 hsince hrelease⟩

/-- At the end of the clock a run has all the time. -/
theorem hasTime_clockEnd (hvalid : settings.fault? = none) : settings.HasTime clockEnd := by
  have htime := timeLeft_of_fault? hvalid
  exact .inr (by omega)

end AxisSettings

/-- **Every axis of valid settings can be homed**, by a run that begins at an instant that leaves
time for the release of the drives, and by no other. -/
theorem validated_axis_can_be_homed {settings : MachineSettings}
    (hvalid : settings.validate = .ok ()) {axis : AxisSettings} (haxis : axis ∈ settings.axes) :
    (∃ since ≤ clockEnd, axis.CanBeHomed ScriptedChannel since) ∧
      ∀ since ≤ clockEnd, axis.CanBeHomed ScriptedChannel since ↔ axis.HasTime since := by
  have hfault : axis.fault? = none := settings.fault?_of_validate hvalid axis haxis
  have hwhen : ∀ since ≤ clockEnd, axis.CanBeHomed ScriptedChannel since ↔ axis.HasTime since :=
    fun since hsince => AxisSettings.canBeHomed_iff hfault hsince
  have hend : axis.CanBeHomed ScriptedChannel clockEnd :=
    (hwhen clockEnd (Nat.le_refl _)).2 (AxisSettings.hasTime_clockEnd hfault)
  exact ⟨⟨clockEnd, Nat.le_refl _, hend⟩, hwhen⟩

/-- An axis whose drives are to be released for longer than a homing run may take. -/
def slowRelease : AxisSettings where
  name := ⟨"lift", by decide⟩
  homing := { timeout := 100, destress := 500 }

def slowReleaseSettings : MachineSettings where
  axes := [slowRelease]

/-- It can be homed only right before the end of the clock. -/
theorem validated_axis_can_be_homed_late :
    slowReleaseSettings.validate = .ok () ∧ slowRelease ∈ slowReleaseSettings.axes ∧
      (∃ since ≤ clockEnd, slowRelease.CanBeHomed ScriptedChannel since) ∧
        ¬ slowRelease.CanBeHomed ScriptedChannel 0 ∧
          slowRelease.CanBeHomed ScriptedChannel (clockEnd - 99) := by
  have hvalid : slowReleaseSettings.validate = .ok () := by decide +kernel
  have hmem : slowRelease ∈ slowReleaseSettings.axes := .head _
  obtain ⟨hhomed, hwhen⟩ := validated_axis_can_be_homed hvalid hmem
  refine ⟨hvalid, hmem, hhomed, ?_, ?_⟩
  · rw [hwhen 0 (Nat.zero_le _)]
    decide +kernel
  · rw [hwhen (clockEnd - 99) (Nat.sub_le _ _)]
    decide +kernel

end MotionControl
