import MotionControl.Proofs.Axis.Run

/-!
# The course of a homing run

What one update makes of a homing run.

* `HomingPhase.place`: the sequence of the phases.
* `AtReference`: what a channel reports where a search ends for it.
* `HomingCase.goesOn`: an update keeps the phase or goes on to the next one.
* `HomingCase.started`, `HomingCase.deadline`: the run keeps the time of its beginning, and the
  drives stay released for as long as the settings say.
* `HomingCase.hit`, `HomingCase.found`: a hit is recorded only of a channel that is at the
  reference, and a search leg is left only when every channel has been there.
-/

namespace MotionControl

variable {C : Type}

/-! ## The sequence -/

/-- The place of a leg in the sequence. -/
def Leg.place : Leg → Nat
  | rapidSearch => 0
  | backoff => 1
  | slowSearch => 2
  | setOffset => 3

/-- The place of a stage in its leg. -/
def Stage.place : Stage → Nat
  | start => 0
  | waitStart => 1
  | moving => 2

/-- The place of a phase in the sequence. -/
def HomingPhase.place : HomingPhase → Nat
  | leg l stage => 3 * l.place + stage.place
  | setZero => 12
  | destress _ => 13

theorem HomingPhase.place_after (l : Leg) :
    (after l).place = (leg l .moving).place + 1 ∧ (after l).isDestress = false := by
  cases l <;> exact ⟨rfl, rfl⟩

/-- A leg that follows another one begins at its start. -/
theorem HomingPhase.stage_of_after {l leg : Leg} {stage : Stage} (h : after l = .leg leg stage) :
    stage = .start := by
  cases l <;> cases h <;> rfl

/-- A homing run keeps its phase or goes on to the next one, which is the release of the drives
only if the settings ask for it. -/
structure HomingSession.GoesOn (session next : HomingSession) : Prop where
  torque : next.torque = session.torque
  phase : next.phase = session.phase ∨
    next.phase.place = session.phase.place + 1 ∧
      (next.phase.isDestress = true → session.settings.destress ≠ 0)

/-- Each of the channels that have all signaled has a hit. -/
theorem HomingSession.hit_of_allHit {session : HomingSession} {count i : Nat}
    (h : session.allHit count = true) (hcount : count ≤ session.hits.length) (hi : i < count) :
    session.hits[i]? = some true := by
  have hbound : i < session.hits.length := by omega
  have hmem : session.hits[i] ∈ session.hits.take count :=
    List.mem_take_iff_getElem.2 ⟨i, by omega, rfl⟩
  rw [List.getElem?_eq_getElem hbound, Option.some.injEq]
  exact List.all_eq_true.1 h _ hmem

/-! ## The reference signal of a channel -/

theorem Single.not_lt_abs_zero {limit : Single} (hlimit : limit.isPositive = true) :
    ¬ limit < (0 : Single).abs := by
  intro hlt
  rw [isPositive, Bool.and_eq_true, decide_eq_true_eq] at hlimit
  have hpositive : Single.lt 0 limit = true := hlimit.2
  have hnegative : Single.lt limit (0 : Single).abs = true := hlt
  simp only [lt, Bool.and_eq_true, decide_eq_true_eq] at hpositive hnegative
  rw [show (0 : Single).place = 0 by decide +kernel] at hpositive
  rw [show (0 : Single).abs.place = 0 by decide +kernel] at hnegative
  omega

/-- A reading beyond a torque limit is a valid one, taken while stepping. -/
theorem EffortSample.valid_of_exceeds {alpha limit : Single} {reading : Option Single}
    {stepping : Bool} {sample : EffortSample} (hlimit : isTorqueLimit limit = true)
    (h : (sample.take alpha reading stepping).exceeds limit = true) :
    stepping = true ∧ ∃ effort, validEffort? reading = some effort ∧ limit < effort.abs := by
  rw [isTorqueLimit, Bool.and_eq_true] at hlimit
  unfold take at h
  split at h
  · rename_i effort heffort
    rw [exceeds, Bool.and_eq_true, decide_eq_true_eq] at h
    exact ⟨h.1, effort, heffort, h.2⟩
  · rw [exceeds, Bool.and_eq_true, decide_eq_true_eq] at h
    exact absurd h.2 (Single.not_lt_abs_zero hlimit.1)

theorem HomingMode.overLimit_of_signal {overLimit atEndstop : Bool}
    (h : torque.signal overLimit atEndstop = .reference) : overLimit = true := by
  revert overLimit atEndstop
  decide

theorem HomingMode.atEndstop_of_signal {overLimit atEndstop : Bool}
    (h : sensor.signal overLimit atEndstop = .reference) : atEndstop = true := by
  revert overLimit atEndstop
  decide

variable [MotorChannel C]

/-- The channel is where a search ends for it: it is stepping with a valid effort beyond the torque
limit, or at its endstop. -/
def AtReference (mode : HomingMode) (limit : Single) (c : C) : Prop :=
  match mode with
  | .torque =>
    MotorChannel.isStepping c = true ∧
      ∃ effort, validEffort? (MotorChannel.effort? c) = some effort ∧ limit < effort.abs
  | .sensor => MotorChannel.endstop? c = some true

theorem atReference_of_signal {mode : HomingMode} {alpha limit : Single} {c : C}
    {sample : EffortSample} (hlimit : isTorqueLimit limit = true)
    (h : mode.signal
      ((sample.take alpha (MotorChannel.effort? c) (MotorChannel.isStepping c)).exceeds limit)
      (MotorChannel.endstop? c == some true) = .reference) : AtReference mode limit c := by
  cases mode with
  | torque => exact EffortSample.valid_of_exceeds hlimit (HomingMode.overLimit_of_signal h)
  | sensor => exact beq_iff_eq.1 (HomingMode.atEndstop_of_signal h)

namespace Axis

/-- A search records a hit only of a channel that signals the reference. -/
theorem hit_searchChannels {mode : HomingMode} {limit : Single} {channels : List C}
    {samples : List EffortSample} {hits : List Bool} :
    ∀ i : Nat, (searchChannels mode limit channels samples hits).2.1[i]? = some true →
      hits[i]? = some true ∨
        ∃ (c : C) (sample : EffortSample), channels[i]? = some c ∧ samples[i]? = some sample ∧
          mode.signal (sample.exceeds limit) (MotorChannel.endstop? c == some true) =
            .reference := by
  fun_induction searchChannels mode limit channels samples hits with
  | case1 => exact fun i h => .inl h
  | case2 c cs sample samples hit hits cs' hits' failure hwalk hsignal isNew ih =>
    rw [hwalk] at ih
    intro i h
    cases i with
    | zero =>
      -- the first channel: its hit is an old one, or its signal has just come
      have hhit : (hit || isNew) = true := by simpa using h
      rcases Bool.or_eq_true_iff.1 hhit with hold | hnew
      · exact .inl (by simp [hold])
      · refine .inr ⟨c, sample, rfl, rfl, ?_⟩
        have hboth := Bool.and_eq_true_iff.1 hnew
        exact of_decide_eq_true hboth.1
    | succ i => exact ih i (by simpa using h)
  | case3 => exact fun i h => .inl h

/-- A search stops a channel when it records the first hit of it. -/
theorem stopped_of_walk {mode : HomingMode} {limit : Single} {channels channels' : List C}
    {samples : List EffortSample} {hits hits' : List Bool} {failure : Option HomingFailure}
    (h : searchChannels mode limit channels samples hits = (channels', hits', failure)) {i : Nat}
    {c c' : C} (hc : channels[i]? = some c) (hc' : channels'[i]? = some c')
    (hhit : hits'[i]? = some true) (hnew : hits[i]? ≠ some true) :
    c' = MotorChannel.stopAbrupt c := by
  have key : ∀ i : Nat, channels[i]? = some c → hits[i]? ≠ some true →
      (searchChannels mode limit channels samples hits).1[i]? = some c' →
      (searchChannels mode limit channels samples hits).2.1[i]? = some true →
      c' = MotorChannel.stopAbrupt c := by
    clear h hc hc' hhit hnew
    fun_induction searchChannels mode limit channels samples hits with
    | case1 | case3 => exact fun i _ hnew _ hhit => absurd hhit hnew
    | case2 first cs sample samples hit hits cs' hits' failure hwalk hsignal isNew ih =>
      rw [hwalk] at ih
      intro i hc hnew hc' hhit
      cases i with
      | zero =>
        cases hc
        have hfirst : hit = false := by simpa using hnew
        have hstop : isNew = true := by simpa [hfirst] using hhit
        simpa [hstop] using hc'.symm
      | succ i =>
        refine ih i hc hnew ?_ (by simpa using hhit)
        dsimp only at hc'
        split at hc' <;> exact hc'
  rw [h] at key
  exact key i hc hnew hc' hhit

/-- A channel has signaled in a leg, or is at the reference now. -/
def IsFound (axis : Axis C) (session : HomingSession) (i : Nat) : Prop :=
  session.hits[i]? = some true ∨
    ∃ c, axis.channels[i]? = some c ∧ AtReference axis.settings.homing.mode session.torque c

/-- A hit that an update records is an old one, or its channel is at the reference. -/
theorem hit_of_walk {axis : Axis C} {session : HomingSession} {channels : List C}
    {hits : List Bool} {failure : Option HomingFailure} (hfits : session.Fits axis)
    (hwalk : searchChannels session.settings.mode axis.sampleEffort.torqueLimit
      axis.sampleEffort.channels axis.sampleEffort.monitor.samples session.hits =
        (channels, hits, failure)) {i : Nat} (hhit : hits[i]? = some true) :
    axis.IsFound session i := by
  have hrecorded : (searchChannels session.settings.mode axis.sampleEffort.torqueLimit
      axis.sampleEffort.channels axis.sampleEffort.monitor.samples
      session.hits).2.1[i]? = some true := by
    rw [hwalk]
    exact hhit
  rcases hit_searchChannels i hrecorded with hold | ⟨c, sample, hchannel, hsample, hsignal⟩
  · exact .inl hold
  · have hchannel : axis.channels[i]? = some c := hchannel
    have hlimit : axis.sampleEffort.torqueLimit = session.torque := hfits.limit
    simp only [sampleEffort, List.getElem?_zipWith, hchannel] at hsample
    cases hold : axis.monitor.samples[i]? with
    | none => simp [hold] at hsample
    | some before =>
      simp only [hold, Option.some.injEq] at hsample
      subst hsample
      rw [hlimit, hfits.settings] at hsignal
      exact .inr ⟨c, hchannel, atReference_of_signal hfits.torque hsignal⟩

end Axis

/-! ## What one update makes of a homing run -/

namespace Axis

section

variable {axis next : Axis C} {now : Nat} {event : Option AxisEvent}
  {session session' : HomingSession}

/-- **An update keeps the phase of a homing run, or goes on to the next one**, or ends the run. -/
theorem HomingCase.goesOn (h : axis.HomingCase session now next event)
    (hnext : next.state = .homing session') : session.GoesOn session' := by
  cases h with
  | fail | zero | settle => cases hnext
  | wait =>
    cases hnext
    exact ⟨rfl, .inl rfl⟩
  | seek =>
    cases hnext
    exact ⟨rfl, .inl rfl⟩
  | start hphase | depart hphase =>
    cases hnext
    exact ⟨rfl, .inr ⟨by rw [hphase]; rfl, nofun⟩⟩
  | @find leg channels hits hphase | @retreat leg hphase =>
    cases hnext
    obtain ⟨hplace, hdestress⟩ := HomingPhase.place_after leg
    refine ⟨rfl, .inr ⟨hphase ▸ hplace, fun h => ?_⟩⟩
    rw [show (HomingPhase.after leg).isDestress = true from h] at hdestress
    cases hdestress
  | release hphase hdestress =>
    cases hnext
    exact ⟨rfl, .inr ⟨by rw [hphase]; rfl, fun _ => hdestress⟩⟩

/-- An update keeps the time when a homing run began. -/
theorem HomingCase.started (h : axis.HomingCase session now next event)
    (hnext : next.state = .homing session') : session'.started = session.started := by
  cases h with
  | fail | zero | settle => cases hnext
  | wait | start | depart | seek | find | retreat | release =>
    cases hnext
    rfl

/-- The drives are released from the zeroing on, for as long as the settings say. -/
theorem HomingCase.deadline {deadline : Nat} (h : axis.HomingCase session now next event)
    (hnext : next.state = .homing session') (hphase : session'.phase = .destress deadline) :
    session.phase = .destress deadline ∨ deadline = later now session.settings.destress.toNat := by
  cases h with
  | fail | zero | settle => cases hnext
  | wait | seek =>
    cases hnext
    exact .inl hphase
  | start | depart =>
    cases hnext
    cases hphase
  | @find leg | @retreat leg =>
    cases hnext
    have hafter : HomingPhase.after leg = .destress deadline := hphase
    have hheld := (HomingPhase.place_after leg).2
    rw [hafter] at hheld
    cases hheld
  | release =>
    cases hnext
    cases hphase
    exact .inr rfl

/-- While a move is waited for, no hit is recorded. -/
theorem HomingCase.noHits {leg : Leg} (h : axis.HomingCase session now next event)
    (hnext : next.state = .homing session') (hphase : session'.phase = .leg leg .waitStart)
    (hbefore : session.phase = .leg leg .waitStart → session.hits = HomingSession.noHits) :
    session'.hits = HomingSession.noHits := by
  cases h with
  | fail | zero | settle => cases hnext
  | wait =>
    cases hnext
    exact hbefore hphase
  | start =>
    cases hnext
    rfl
  | depart | release =>
    cases hnext
    cases hphase
  | seek hmoving =>
    cases hnext
    rw [show session.phase = _ from hphase] at hmoving
    cases hmoving
  | find | retreat =>
    cases hnext
    cases HomingPhase.stage_of_after hphase

/-- A hit that is recorded while a leg travels is that of a channel that is found; there is none
from the time before. -/
theorem HomingCase.hit {leg : Leg} {i : Nat}
    (h : axis.sampleEffort.HomingCase session now next event) (hfits : session.Fits axis)
    (hnext : next.state = .homing session') (hphase : session'.phase = .leg leg .moving)
    (hbefore : session.phase = .leg leg .waitStart → session.hits = HomingSession.noHits)
    (hhit : session'.hits[i]? = some true) :
    session.phase = .leg leg .moving ∧ axis.IsFound session i := by
  cases h with
  | fail | zero | settle => cases hnext
  | wait =>
    cases hnext
    exact ⟨hphase, .inl hhit⟩
  | start | release =>
    cases hnext
    cases hphase
  | depart hwait =>
    -- the move has just begun: there is no hit yet
    cases hnext
    cases hphase
    have hnone : session.hits[i]? = some true := hhit
    rw [hbefore hwait] at hnone
    simp [HomingSession.noHits, List.getElem?_replicate] at hnone
  | seek hmoving hwalk =>
    cases hnext
    exact ⟨hphase, hit_of_walk hfits hwalk hhit⟩
  | find | retreat =>
    cases hnext
    cases HomingPhase.stage_of_after hphase

/-- A search leg is left when every channel is found. -/
theorem HomingCase.found {leg : Leg} {i : Nat}
    (h : axis.sampleEffort.HomingCase session now next event) (hfits : session.Fits axis)
    (hle : axis.channels.length ≤ maxChannels) (hphase : session.phase = .leg leg .moving)
    (hsearch : leg.isSearch = true) (hnext : next.state = .homing session')
    (hleft : session'.phase ≠ session.phase) (hi : i < axis.channels.length) :
    axis.IsFound session i := by
  cases h with
  | fail | zero | settle => cases hnext
  | wait | seek =>
    cases hnext
    exact absurd rfl hleft
  | start hother | depart hother | release hother =>
    rw [hphase] at hother
    cases hother
  | retreat hmoving hretreat =>
    rw [hphase] at hmoving
    cases hmoving
    rw [hsearch] at hretreat
    cases hretreat
  | @find leg channels hits hmoving hwalk hall =>
    obtain ⟨hchannels, hhits⟩ := length_of_walk hwalk
    have hlength : hits.length = maxChannels := hhits.trans hfits.hits
    have hcount : channels.length ≤ hits.length := by
      rw [hlength, hchannels]
      exact hle
    exact hit_of_walk hfits hwalk (HomingSession.hit_of_allHit hall hcount (hchannels ▸ hi))

/-- A homing run ends with the axis referenced in two ways. -/
theorem UpdateCase.homed (h : axis.UpdateCase now next (some .homed))
    (hpending : ∀ event, axis.pending = some event → event = .done ∨ event = .aborted) :
    ∃ session, axis.state = .homing session ∧
      (session.phase = .setZero ∧ session.settings.destress = 0 ∨
        ∃ deadline ≤ now, session.phase = .destress deadline) := by
  cases h with
  | report hreport => rcases hpending _ hreport with h | h <;> cases h
  | arrive hnone hstate hfree hrest hevent => split at hevent <;> cases hevent
  | homing hnone hstate hcase =>
    cases hcase with
    | zero hphase hdestress => exact ⟨_, hstate, .inl ⟨hphase, hdestress⟩⟩
    | settle hphase hdue => exact ⟨_, hstate, .inr ⟨_, hdue, hphase⟩⟩

end

end Axis

end MotionControl
