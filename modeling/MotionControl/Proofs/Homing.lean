import MotionControl.Proofs.Axis.Fault
import MotionControl.Proofs.Axis.Homing

/-!
# Homing is sound

A homing run takes the phases of its sequence one by one, a search leg ends only when every channel
has signaled the reference in it, and an axis counts as referenced exactly from the end of a homing
run to the next fault bit. So no move is accepted on a false reference.

* `HasSignaled`, `Referenced`: what the past tells about a channel, and about the axis.
* `IsTracked`, `IsTracked.next`: every act keeps the axis in agreement with its past.
* `homing_sound`: **homing is sound in every run**.
-/

namespace MotionControl

variable {C : Type} [MotorChannel C]

/-! ## What the past tells -/

namespace Moment

/-- The move of a leg goes on. -/
def Travels (leg : Leg) (moment : Moment C) : Prop :=
  ∃ session, moment.axis.state = .homing session ∧ session.phase = .leg leg .moving

/-- An update of a homing run finds a channel at the reference. -/
def Signals (i : Nat) (moment : Moment C) : Prop :=
  ∃ now session c, moment.act = .update now ∧ moment.axis.state = .homing session ∧
    moment.axis.channels[i]? = some c ∧
    AtReference moment.axis.settings.homing.mode session.torque c

end Moment

/-- A channel has signaled the reference since the move of a leg has begun. -/
def HasSignaled (leg : Leg) (i : Nat) : List (Moment C) → Prop :=
  Since (fun moment => moment.Travels leg ∧ moment.Signals i) (Moment.Travels leg)

/-- A homing run has been completed, and no fault bit reported since then. -/
def Referenced : List (Moment C) → Prop :=
  Since (fun moment => moment.event = some .homed)
    (fun moment => moment.event ≠ some (.fault .hardware))

theorem referenced_concat {past : List (Moment C)} {moment : Moment C} :
    Referenced (past ++ [moment]) ↔ moment.event = some .homed ∨
      Referenced past ∧ moment.event ≠ some (.fault .hardware) :=
  since_concat

/-! ## The axis agrees with its past -/

/-- The axis is referenced as its past tells, and every hit of a homing run was signaled in the leg
that goes on. -/
structure Axis.IsTracked (past : List (Moment C)) (axis : Axis C) : Prop where
  sound : axis.IsSound
  homed : axis.isHomed = true ↔ Referenced past
  noHits : ∀ session leg, axis.state = .homing session → session.phase = .leg leg .waitStart →
    session.hits = HomingSession.noHits
  hit : ∀ session leg, axis.state = .homing session → session.phase = .leg leg .moving →
    ∀ i : Nat, session.hits[i]? = some true → HasSignaled leg i past

namespace Axis

section

variable {past : List (Moment C)} {axis : Axis C} {act : AxisAct C}

/-- A homing run that goes on after an act is the one from before, or has just begun, or comes out
of an update. -/
theorem homing_before {session : HomingSession}
    (hnext : (Moment.next ⟨axis, act⟩).state = .homing session) :
    axis.state = .homing session ∨
      (axis.state = .standby ∧ ∃ maxTravel torque now,
        Moment.accepted? ⟨axis, act⟩ = some (.home maxTravel torque now) ∧
          session = .start axis.settings.homing maxTravel torque now) ∨
      ∃ now before, act = .update now ∧ axis.state = .homing before ∧
        axis.sampleEffort.HomingCase before now (Moment.next ⟨axis, act⟩)
          (Moment.event ⟨axis, act⟩) := by
  have hstep := Moment.step ⟨axis, act⟩
  generalize Moment.next ⟨axis, act⟩ = next at hstep hnext ⊢
  generalize Moment.event ⟨axis, act⟩ = event at hstep ⊢
  generalize Moment.accepted? ⟨axis, act⟩ = call? at hstep ⊢
  cases hstep with
  | sense | refuse => exact .inl hnext
  | accept hcase =>
    rcases hcase.homing hnext with ⟨hstandby, maxTravel, torque, now, rfl, rfl, -⟩ | ⟨hsame, -⟩
    · exact .inr (.inl ⟨hstandby, maxTravel, torque, now, rfl, rfl⟩)
    · exact .inl hsame
  | update now =>
    rcases (axis.update_case now).homing_before hnext with ⟨hsame, -⟩ | ⟨before, hbefore, hcase⟩
    · exact .inl hsame
    · exact .inr (.inr ⟨now, before, rfl, hbefore, hcase⟩)

/-- A hit from before, or a signal that comes now, is known to the past with this moment. -/
theorem IsTracked.hasSignaled (h : axis.IsTracked past) {now : Nat} {session : HomingSession}
    {leg : Leg} (hstate : axis.state = .homing session)
    (hphase : session.phase = .leg leg .moving) {i : Nat}
    (hfound : axis.IsFound session i) :
    HasSignaled leg i (past ++ [⟨axis, .update now⟩]) := by
  have htravels : Moment.Travels leg ⟨axis, .update now⟩ := ⟨session, hstate, hphase⟩
  refine since_concat.2 ?_
  rcases hfound with hold | ⟨c, hchannel, hreference⟩
  · exact .inr ⟨h.hit session leg hstate hphase i hold, htravels⟩
  · exact .inl ⟨htravels, now, session, c, rfl, hstate, hchannel, hreference⟩

/-- **Every act keeps an axis in agreement with its past.** -/
theorem IsTracked.next (h : axis.IsTracked past) (act : AxisAct C) :
    (Moment.next ⟨axis, act⟩).IsTracked (past ++ [⟨axis, act⟩]) := by
  have hstep := Moment.step ⟨axis, act⟩
  refine ⟨hstep.isSound h.sound, ?homed, ?noHits, ?hit⟩
  case homed =>
    rw [hstep.isHomed_iff h.sound, h.homed]
    exact referenced_concat.symm
  case noHits =>
    intro session leg hnext hphase
    rcases homing_before hnext with hsame | ⟨-, _, _, _, -, rfl⟩ | ⟨now, before, -, hbefore, hcase⟩
    · exact h.noHits session leg hsame hphase
    · cases hphase
    · exact hcase.noHits hnext hphase (h.noHits before leg hbefore)
  case hit =>
    intro session leg hnext hphase i hhit
    rcases homing_before hnext with
      hsame | ⟨-, _, _, _, -, rfl⟩ | ⟨now, before, rfl, hbefore, hcase⟩
    · exact since_concat.2 (.inr ⟨h.hit session leg hsame hphase i hhit, session, hsame, hphase⟩)
    · cases hphase
    · have hfits := h.sound.session before hbefore
      obtain ⟨hmoving, hfound⟩ :=
        hcase.hit hfits hnext hphase (h.noHits before leg hbefore) hhit
      exact h.hasSignaled hbefore hmoving hfound

/-- An axis that has been built has no past to agree with. -/
theorem isTracked_of_ofChannels {settings : AxisSettings} {channels : List C} {start : Axis C}
    (hstart : ofChannels settings channels = .ok start) : start.IsTracked [] := by
  obtain ⟨hstate, -, hhomed⟩ := atRest_of_ofChannels hstart
  refine ⟨isSound_of_ofChannels hstart, ?homed, ?noHits, ?hit⟩
  case homed =>
    rw [hhomed]
    exact ⟨nofun, fun h => absurd h not_since_nil⟩
  case noHits | hit =>
    intro session leg hsession
    rw [hstate] at hsession
    cases hsession

end

end Axis

/-! ## Soundness -/

/-- What is right about homing at a moment with this past. -/
structure HomingSound (past : List (Moment C)) (moment : Moment C) : Prop where
  /-- A homing run begins with an accepted command, at the start of the sequence. -/
  begins : ∀ session, (∀ before, moment.axis.state ≠ .homing before) →
    moment.next.state = .homing session →
    ∃ maxTravel torque now, moment.accepted? = some (.home maxTravel torque now) ∧
      session = .start moment.axis.settings.homing maxTravel torque now
  /-- Only an update takes it further. -/
  stays : ∀ session next, moment.axis.state = .homing session →
    moment.next.state = .homing next → (∀ now, moment.act ≠ .update now) → next = session
  /-- An update that does not end it keeps the phase or goes on by one, to the release of the
  drives only if the settings ask for it. -/
  goesOn : ∀ session next, moment.axis.state = .homing session →
    moment.next.state = .homing next →
    next.torque = session.torque ∧
      (next.phase = session.phase ∨
        next.phase.place = session.phase.place + 1 ∧
          (next.phase.isDestress = true → moment.axis.settings.homing.destress ≠ 0))
  /-- A search leg is left for the next one only when every channel has signaled in it. -/
  leaves : ∀ session next leg, moment.axis.state = .homing session →
    session.phase = .leg leg .moving → leg.isSearch = true →
    moment.next.state = .homing next → next.phase ≠ session.phase →
    ∀ i < moment.axis.channels.length, HasSignaled leg i (past ++ [moment])
  /-- A homing run is completed by the zeroing, or by the release of the drives when it is over. -/
  completes : moment.event = some .homed →
    ∃ now session, moment.act = .update now ∧ moment.axis.state = .homing session ∧
      (session.phase = .setZero ∧ moment.axis.settings.homing.destress = 0 ∨
        ∃ deadline ≤ now, session.phase = .destress deadline)
  /-- The axis is referenced from the end of a homing run to the next fault bit. -/
  homed : moment.axis.isHomed = true ↔ Referenced past
  /-- A move is accepted on a referenced axis only. -/
  moves : ∀ call, moment.accepted? = some call → call.isMove = true → Referenced past

/-- Homing is sound at an axis that agrees with its past, whatever comes to it next. -/
theorem Axis.IsTracked.homingSound {past : List (Moment C)} {axis : Axis C}
    (h : axis.IsTracked past) (act : AxisAct C) : HomingSound past ⟨axis, act⟩ := by
  refine ⟨?begins, ?stays, ?goesOn, ?leaves, ?completes, h.homed, ?moves⟩
  case begins =>
    intro session hfresh hnext
    rcases Axis.homing_before hnext with hsame | ⟨-, hbegins⟩ | ⟨_, before, -, hbefore, -⟩
    · exact absurd hsame (hfresh session)
    · exact hbegins
    · exact absurd hbefore (hfresh before)
  case stays =>
    intro session next hstate hnext hact
    have hstate : axis.state = .homing session := hstate
    rcases Axis.homing_before hnext with hsame | ⟨hstandby, -⟩ | ⟨now, _, hupdate, -⟩
    · exact AxisState.homing.inj (hsame.symm.trans hstate)
    · rw [hstate] at hstandby
      cases hstandby
    · exact absurd hupdate (hact now)
  case goesOn =>
    intro session next hstate hnext
    have hstate : axis.state = .homing session := hstate
    rcases Axis.homing_before hnext with hsame | ⟨hstandby, -⟩ | ⟨now, _, -, hbefore, hcase⟩
    · cases AxisState.homing.inj (hsame.symm.trans hstate)
      exact ⟨rfl, .inl rfl⟩
    · rw [hstate] at hstandby
      cases hstandby
    · cases AxisState.homing.inj (hbefore.symm.trans hstate)
      obtain ⟨htorque, hphase⟩ := hcase.goesOn hnext
      rw [(h.sound.session session hstate).settings] at hphase
      exact ⟨htorque, hphase⟩
  case leaves =>
    intro session next leg hstate hphase hsearch hnext hleft i hi
    have hstate : axis.state = .homing session := hstate
    rcases Axis.homing_before hnext with hsame | ⟨hstandby, -⟩ | ⟨now, _, rfl, hbefore, hcase⟩
    · cases AxisState.homing.inj (hsame.symm.trans hstate)
      exact absurd rfl hleft
    · rw [hstate] at hstandby
      cases hstandby
    · cases AxisState.homing.inj (hbefore.symm.trans hstate)
      have hfits := h.sound.session session hstate
      exact h.hasSignaled hstate hphase
        (hcase.found hfits h.sound.channels_le hphase hsearch hnext hleft hi)
  case completes =>
    intro hevent
    cases act with
    | sense | call => cases hevent
    | update now =>
      have hcase := axis.update_case now
      rw [show (axis.update now).2 = some .homed from hevent] at hcase
      obtain ⟨session, hstate, hphase⟩ := hcase.homed h.sound.pending
      rw [(h.sound.session session hstate).settings] at hphase
      exact ⟨now, session, rfl, hstate, hphase⟩
  case moves =>
    intro call hcall hmove
    exact h.homed.1 (Moment.standby_of_move hcall hmove).2

/-- **Homing is sound**, whatever calls and updates come to an axis, at whatever times and with
whatever feedback of its channels. -/
theorem homing_sound {settings : AxisSettings} {channels : List C} {start : Axis C}
    (hstart : Axis.ofChannels settings channels = .ok start) (acts : List (AxisAct C))
    (act : AxisAct C) : HomingSound (start.moments acts) ⟨start.run acts, act⟩ := by
  have htracked : (start.run acts).IsTracked (start.moments acts) :=
    Axis.run_induction (fun past axis => axis.IsTracked past) (fun _ _ act h => h.next act) acts
      (Axis.isTracked_of_ofChannels hstart)
  exact htracked.homingSound act

/-- A motor stalls in both searches, the axis is referenced, and a move is accepted. -/
theorem homing_sound_spindle :
    (spindle.run spindleHoming).isHomed = true ∧
      (Moment.accepted? ⟨spindle.run spindleHoming, .call (.moveIncrements 10 1 1 50 14)⟩).isSome ∧
      HomingSound (spindle.moments spindleHoming)
        ⟨spindle.run spindleHoming, .call (.moveIncrements 10 1 1 50 14)⟩ :=
  ⟨by decide +kernel, by decide +kernel, homing_sound spindle_isBuilt _ _⟩

end MotionControl
