import MotionControl.Proofs.Axis.Failure
import MotionControl.Proofs.Homing
import MotionControl.Proofs.Settings.Validity

/-!
# Deadlines

Four deadlines hold for an axis: for the start of a move, for a homing run, for the start of each of
its legs, and for the release of its drives. The first three count from an instant that the axis has
noted, the last one is an instant itself. The clock is read once in an update and may go back.

* `Moment.Issues`, `Moment.BeginsHoming`, `Moment.StartsLeg`, `Moment.Releases`: the moments that
  the deadlines count from.
* `IsStamped`, `IsStamped.next`: what an axis has noted is the time of such a moment.
* `InTime`: what goes on after an update is within its deadlines; `inTime_of_quiet`: so it is after
  every update without an event.
* `IsDue`, `isDue_of_timeout`: a timeout is reported only when its deadline has come, and the
  timeout of a start only of channels that stand still.
* `deadlines_enforced`: **all of that in every run of an axis with valid settings**.
-/

namespace MotionControl

variable {C : Type} [MotorChannel C]

/-! ## What the deadlines count from -/

/-- The torque limit and the time of a call for a move. -/
def AxisCall.issued? : AxisCall → Option (Single × Nat)
  | moveTo request now => some (request.torque, now)
  | moveIncrements _ _ _ torque now => some (torque, now)
  | _ => none

namespace Moment

/-- A move is accepted, with a torque limit that leaves the channels at these positions. -/
def Issues (time : Nat) (positions : List Int) (moment : Moment C) : Prop :=
  ∃ call torque, moment.accepted? = some call ∧ call.issued? = some (torque, time) ∧
    positions = (moment.axis.applyTorqueLimit torque).channels.map MotorChannel.position

/-- A homing run is accepted. -/
def BeginsHoming (time : Nat) (moment : Moment C) : Prop :=
  ∃ maxTravel torque, moment.accepted? = some (.home maxTravel torque time)

/-- A homing run is in a phase. -/
def IsIn {C : Type} (phase : HomingPhase) (moment : Moment C) : Prop :=
  ∃ session, moment.axis.state = .homing session ∧ session.phase = phase

/-- An update starts the move of a leg, with a torque limit that leaves the channels at these
positions. -/
def StartsLeg (leg : Leg) (time : Nat) (positions : List Int) (moment : Moment C) : Prop :=
  moment.act = .update time ∧ ∃ session, moment.axis.state = .homing session ∧
    session.phase = .leg leg .start ∧
    positions = (moment.axis.applyTorqueLimit session.torque).channels.map MotorChannel.position

/-- An update releases the drives. -/
def Releases {C : Type} (time : Nat) (moment : Moment C) : Prop :=
  moment.act = .update time ∧ moment.IsIn .setZero

end Moment

namespace Axis

/-- The times and positions that an axis has noted are those of moments of its past. -/
structure IsStamped (past : List (Moment C)) (axis : Axis C) : Prop where
  /-- A move waits for its start since it was accepted. -/
  issued : ∀ since, axis.state = .startingMove since →
    Since (Moment.Issues since axis.origins) (fun moment => moment.axis.state = .startingMove since)
      past
  begun : ∀ session, axis.state = .homing session →
    Since (Moment.BeginsHoming session.started)
      (fun moment => ∃ phase, moment.IsIn phase) past
  /-- A leg waits for the start of its move since the move was commanded. -/
  started : ∀ session leg, axis.state = .homing session → session.phase = .leg leg .waitStart →
    Since (Moment.StartsLeg leg session.phaseStarted axis.origins)
      (Moment.IsIn (.leg leg .waitStart)) past
  /-- The drives stay released for as long as the settings say. -/
  released : ∀ session deadline, axis.state = .homing session →
    session.phase = .destress deadline →
    deadline = later session.phaseStarted axis.settings.homing.destress.toNat ∧
      Since (Moment.Releases session.phaseStarted) (Moment.IsIn (.destress deadline)) past

/-! ## Within the deadlines -/

/-- What goes on at an axis at an instant is within its deadlines. -/
structure InTime (settings : AxisSettings) (now : Nat) (axis : Axis C) : Prop where
  starting : ∀ since, axis.state = .startingMove since →
    now - since < settings.startTimeout.toNat
  homing : ∀ session, axis.state = .homing session →
    now - session.started < settings.homing.timeout.toNat
  waiting : ∀ session leg, axis.state = .homing session → session.phase = .leg leg .waitStart →
    now - session.phaseStarted < settings.homing.startTimeout.toNat
  /-- As long as the clock does not end before the drives may be energized again. -/
  released : ∀ session deadline, axis.state = .homing session →
    session.phase = .destress deadline → now + settings.homing.destress.toNat ≤ clockEnd →
    now < deadline

/-- No channel is stepping, and each of them is where the axis has noted it. -/
def HasNotStarted (axis : Axis C) : Prop :=
  axis.anyStepping = false ∧ axis.channels.map MotorChannel.position = axis.origins

/-- The deadline of a timeout has come. -/
def IsDue (settings : AxisSettings) (now : Nat) (axis : Axis C) : Timeout → Prop
  | .moveStart => ∃ since, axis.state = .startingMove since ∧ axis.HasNotStarted ∧
      settings.startTimeout.toNat ≤ now - since
  | .homingSession => ∃ session, axis.state = .homing session ∧
      settings.homing.timeout.toNat ≤ now - session.started
  | .homingStart => ∃ session leg, axis.state = .homing session ∧
      session.phase = .leg leg .waitStart ∧ axis.HasNotStarted ∧
      settings.homing.startTimeout.toNat ≤ now - session.phaseStarted

/-! ## The positions that an axis notes -/

section

variable {axis next : Axis C} {now : Nat} {event : Option AxisEvent}

theorem origins_endDestress (state : AxisState) (axis : Axis C) :
    (axis.endDestress state).origins = axis.origins := by
  unfold endDestress
  split <;> rfl

theorem origins_abort (axis : Axis C) : axis.abort.origins = axis.origins := by
  unfold abort
  dsimp only
  split
  · exact origins_endDestress axis.state { axis.stopAll with stopRequested := false }
  · rfl

theorem origins_issue {increments : Int} {velocity accel torque : Single} :
    (axis.issue increments velocity accel torque now).origins =
      (axis.applyTorqueLimit torque).channels.map MotorChannel.position := by
  unfold issue
  dsimp only
  split <;> rfl

/-- A call that is not for a move notes no positions. -/
theorem CallCase.origins_eq {call : AxisCall} (h : axis.CallCase call next)
    (hmove : call.isMove = false) : next.origins = axis.origins := by
  cases h with
  | move hcall =>
    rw [hmove] at hcall
    cases hcall
  | home | stop | clear | unfaulted | discard | enable => rfl
  | abort => exact axis.origins_abort
  | disable => exact axis.origins_abort

/-- An update of a homing run notes positions where it starts a leg. -/
theorem HomingCase.origins_eq {session : HomingSession}
    (h : axis.HomingCase session now next event) :
    next.origins = axis.origins ∨
      (∃ leg, session.phase = .leg leg .start ∧
        next = (axis.startLeg session leg now).1) := by
  cases h with
  | fail => exact .inl (origins_endDestress _ _)
  | start hphase => exact .inr ⟨_, hphase, rfl⟩
  | wait | depart | seek | find | retreat | zero | release | settle => exact .inl rfl

theorem UpdateCase.origins_eq (h : axis.UpdateCase now next event) :
    next.origins = axis.origins ∨
      ∃ session leg, axis.state = .homing session ∧ session.phase = .leg leg .start ∧
        next = (axis.sampleEffort.startLeg session leg now).1 := by
  cases h with
  | report | rest | go | depart | giveUp | arrive | fail => exact .inl rfl
  | hardware => exact .inl (origins_endDestress axis.state axis.sampleEffort.stopAll)
  | homing _ hstate hcase =>
    rcases hcase.origins_eq with hsame | ⟨leg, hphase, hnext⟩
    · exact .inl hsame
    · exact .inr ⟨_, leg, hstate, hphase, hnext⟩

/-- **There is a position for each channel** in what an axis notes. -/
theorem Step.length_origins {act : AxisAct C} {call? : Option AxisCall}
    (h : axis.Step act next event call?)
    (hsamples : axis.monitor.samples.length = axis.channels.length)
    (hlength : axis.origins.length = axis.channels.length) :
    next.origins.length = next.channels.length := by
  have hbuild := h.build_eq hsamples
  simp only [build, Prod.mk.injEq] at hbuild
  rw [hbuild.2.1]
  cases h with
  | sense | refuse => exact hlength
  | accept hcase =>
    cases hcall : AxisCall.isMove _ with
    | false => rw [hcase.origins_eq hcall, hlength]
    | true =>
      cases hcase with
      | move => simp [origins_issue, applyTorqueLimit, mapChannels]
      | _ => cases hcall
  | update now =>
    rcases (axis.update_case now).origins_eq with hsame | ⟨session, leg, -, -, hnext⟩
    · rw [hsame, hlength]
    · rw [hnext]
      simp [startLeg, continueHoming, recordOrigins, applyTorqueLimit, mapChannels, sampleEffort]

/-! ## Where the times come from -/

/-- A move that waits for its start after an act that is not for a move has waited before. -/
theorem CallCase.starting_before {call : AxisCall} {since : Nat} (h : axis.CallCase call next)
    (hmove : call.isMove = false) (hnext : next.state = .startingMove since) :
    axis.state = .startingMove since := by
  cases h with
  | move hcall =>
    rw [hmove] at hcall
    cases hcall
  | home | clear => cases hnext
  | stop | unfaulted | discard | enable => exact hnext
  | abort | disable =>
    rcases axis.abort_cases with ⟨-, hstate, -⟩ | ⟨-, hstate, -⟩
    · have hstandby : axis.abort.state = .startingMove since := hnext
      rw [hstate] at hstandby
      cases hstandby
    · exact hstate.symm.trans hnext

theorem UpdateCase.starting_before {since : Nat} (h : axis.UpdateCase now next event)
    (hnext : next.state = .startingMove since) :
    axis.state = .startingMove since ∧ next.origins = axis.origins := by
  cases h with
  | report | rest | go => exact ⟨hnext, rfl⟩
  | hardware | depart | giveUp | arrive => cases hnext
  | @fail fault =>
    simp only [failMove] at hnext
    split at hnext <;> cases hnext
  | homing hpending hstate hcase => cases hcase <;> cases hnext

/-- A move that waits for its start when it is accepted has been issued then. -/
theorem issues_of_move {act : AxisAct C} {call : AxisCall} {since : Nat}
    (hcall : Moment.accepted? ⟨axis, act⟩ = some call) (hmove : call.isMove = true)
    (hnext : (Moment.next ⟨axis, act⟩).state = .startingMove since) :
    Moment.Issues since (Moment.next ⟨axis, act⟩).origins ⟨axis, act⟩ := by
  obtain ⟨rfl, issued, hrun⟩ := Moment.run_of_accepted hcall
  have hissued : Moment.next ⟨axis, .call call⟩ = issued := by simp only [Moment.next, hrun]
  rw [hissued] at hnext ⊢
  -- the time of the call is the time that the state shows
  have htime {increments : Int} {velocity accel torque : Single} {time : Nat}
      (hstate : axis.state = .standby)
      (hsame : axis.issue increments velocity accel torque time = issued) : time = since := by
    rcases axis.issue_cases increments velocity accel torque time with ⟨hs, -⟩ | ⟨hs, -⟩
    · rw [hsame, hnext, AxisState.startingMove.injEq] at hs
      exact hs.symm
    · rw [hsame, hnext, hstate] at hs
      cases hs
  cases call with
  | moveTo request time =>
    obtain ⟨hstate, -, -, -, -, hsame⟩ := tryMoveTo_ok.1 hrun
    refine ⟨_, request.torque, hcall, ?_, ?_⟩
    · rw [AxisCall.issued?, htime hstate hsame]
    · rw [← hsame, origins_issue]
  | moveIncrements increments velocity accel torque time =>
    obtain ⟨hstate, -, -, -, -, hsame⟩ := tryMoveIncrements_ok.1 hrun
    refine ⟨_, torque, hcall, ?_, ?_⟩
    · rw [AxisCall.issued?, htime hstate hsame]
    · rw [← hsame, origins_issue]
  | _ => cases hmove

/-- A leg waits for the start of its move as before, or the move has just been commanded. -/
theorem HomingCase.waiting {session session' : HomingSession} {leg : Leg}
    (h : axis.HomingCase session now next event) (hnext : next.state = .homing session')
    (hphase : session'.phase = .leg leg .waitStart) :
    (session' = session ∧ next.origins = axis.origins) ∨
      session.phase = .leg leg .start ∧ session'.phaseStarted = now ∧
        next.origins =
          (axis.applyTorqueLimit session.torque).channels.map MotorChannel.position := by
  cases h with
  | fail | zero | settle => cases hnext
  | wait =>
    cases hnext
    exact .inl ⟨rfl, rfl⟩
  | start hstart =>
    cases hnext
    cases hphase
    exact .inr ⟨hstart, rfl, rfl⟩
  | depart | release =>
    cases hnext
    cases hphase
  | seek hmoving =>
    cases hnext
    rw [show session.phase = _ from hphase] at hmoving
    cases hmoving
  | find | retreat =>
    cases hnext
    cases HomingPhase.stage_of_after hphase

/-- The drives stay released as before, or have just been released. -/
theorem HomingCase.releasing {session session' : HomingSession} {deadline : Nat}
    (h : axis.HomingCase session now next event) (hnext : next.state = .homing session')
    (hphase : session'.phase = .destress deadline) :
    session' = session ∨
      session.phase = .setZero ∧ session'.phaseStarted = now ∧
        session.settings.destress ≠ 0 ∧ deadline = later now session.settings.destress.toNat := by
  cases h with
  | fail | zero | settle => cases hnext
  | wait =>
    cases hnext
    exact .inl rfl
  | start | depart =>
    cases hnext
    cases hphase
  | seek hmoving =>
    cases hnext
    rw [show session.phase = _ from hphase] at hmoving
    cases hmoving
  | @find leg | @retreat leg =>
    cases hnext
    have hafter : HomingPhase.after leg = .destress deadline := hphase
    have hheld := (HomingPhase.place_after leg).2
    rw [hafter] at hheld
    cases hheld
  | release hzero hsome =>
    cases hnext
    cases hphase
    exact .inr ⟨hzero, rfl, hsome, rfl⟩

end

/-! ## Every run -/

section

variable {past : List (Moment C)} {axis : Axis C} {act : AxisAct C}

/-- While a homing run goes on as it is, the positions stay as they are noted. -/
theorem origins_of_homing {act : AxisAct C} {session : HomingSession}
    (hstate : axis.state = .homing session)
    (hnext : (Moment.next ⟨axis, act⟩).state = .homing session) :
    (Moment.next ⟨axis, act⟩).origins = axis.origins := by
  have hstep := Moment.step ⟨axis, act⟩
  generalize Moment.next ⟨axis, act⟩ = next at hstep hnext ⊢
  generalize Moment.event ⟨axis, act⟩ = event at hstep
  generalize Moment.accepted? ⟨axis, act⟩ = call? at hstep
  cases hstep with
  | sense | refuse => rfl
  | accept hcase =>
    cases hcall : AxisCall.isMove _ with
    | false => exact hcase.origins_eq hcall
    | true =>
      cases hcase with
      | move _ hstandby =>
        rw [hstate] at hstandby
        cases hstandby
      | _ => cases hcall
  | update now =>
    rcases (axis.update_case now).origins_eq with hsame | ⟨before, leg, hbefore, hphase, hstarted⟩
    · exact hsame
    · -- the start of a leg would have changed the phase
      rw [hstarted] at hnext
      cases AxisState.homing.inj (hstate.symm.trans hbefore)
      have hwaiting := congrArg HomingSession.phase (AxisState.homing.inj hnext)
      rw [hphase] at hwaiting
      cases hwaiting

theorem IsStamped.issued_next (h : axis.IsStamped past) {since : Nat}
    (hnext : (Moment.next ⟨axis, act⟩).state = .startingMove since) :
    Since (Moment.Issues since (Moment.next ⟨axis, act⟩).origins)
      (fun moment => moment.axis.state = .startingMove since) (past ++ [⟨axis, act⟩]) := by
  have goesOn (hstate : axis.state = .startingMove since)
      (horigins : (Moment.next ⟨axis, act⟩).origins = axis.origins) :
      Since (Moment.Issues since (Moment.next ⟨axis, act⟩).origins)
        (fun moment => moment.axis.state = .startingMove since) (past ++ [⟨axis, act⟩]) := by
    rw [horigins]
    exact since_concat.2 (.inr ⟨h.issued since hstate, hstate⟩)
  have hissues (call : AxisCall) (hcall : Moment.accepted? ⟨axis, act⟩ = some call)
      (hmove : call.isMove = true) :
      Since (Moment.Issues since (Moment.next ⟨axis, act⟩).origins)
        (fun moment => moment.axis.state = .startingMove since) (past ++ [⟨axis, act⟩]) :=
    since_concat.2 (.inl (issues_of_move hcall hmove hnext))
  have hstep := Moment.step ⟨axis, act⟩
  generalize Moment.next ⟨axis, act⟩ = next at *
  generalize Moment.event ⟨axis, act⟩ = event at hstep
  generalize Moment.accepted? ⟨axis, act⟩ = call? at hstep hissues
  cases hstep with
  | sense | refuse => exact goesOn hnext rfl
  | @accept call _ hcase =>
    cases hmove : call.isMove with
    | true => exact hissues call rfl hmove
    | false => exact goesOn (hcase.starting_before hmove hnext) (hcase.origins_eq hmove)
  | update now =>
    obtain ⟨hstate, horigins⟩ := (axis.update_case now).starting_before hnext
    exact goesOn hstate horigins

/-- **Every act keeps the times that an axis has noted those of its past.** -/
theorem IsStamped.next (h : axis.IsStamped past) (hsound : axis.IsSound) (act : AxisAct C) :
    (Moment.next ⟨axis, act⟩).IsStamped (past ++ [⟨axis, act⟩]) := by
  refine ⟨fun since hnext => h.issued_next hnext, ?begun, ?started, ?released⟩
  case begun =>
    intro session hnext
    rcases homing_before hnext with
      hsame | ⟨-, maxTravel, torque, now, hcall, rfl⟩ | ⟨now, before, -, hbefore, hcase⟩
    · exact since_concat.2 (.inr ⟨h.begun session hsame, session.phase, session, hsame, rfl⟩)
    · exact since_concat.2 (.inl ⟨maxTravel, torque, hcall⟩)
    · rw [hcase.started hnext]
      exact since_concat.2 (.inr ⟨h.begun before hbefore, before.phase, before, hbefore, rfl⟩)
  case started =>
    intro session leg hnext hphase
    rcases homing_before hnext with
      hsame | ⟨-, _, _, _, -, rfl⟩ | ⟨now, before, rfl, hbefore, hcase⟩
    · rw [origins_of_homing hsame hnext]
      exact since_concat.2 (.inr ⟨h.started session leg hsame hphase, session, hsame, hphase⟩)
    · cases hphase
    · rcases hcase.waiting hnext hphase with ⟨rfl, horigins⟩ | ⟨hstart, htime, horigins⟩
      · have horigins : _ = axis.origins := horigins
        rw [horigins]
        exact since_concat.2 (.inr ⟨h.started session leg hbefore hphase, session, hbefore, hphase⟩)
      · rw [htime, horigins]
        exact since_concat.2 (.inl ⟨rfl, before, hbefore, hstart, rfl⟩)
  case released =>
    intro session deadline hnext hphase
    have hbuild := (Moment.step ⟨axis, act⟩).build_eq hsound.samples
    have hsettings : (Moment.next ⟨axis, act⟩).settings = axis.settings :=
      congrArg Prod.fst hbuild
    rw [hsettings]
    have goesOn (hbefore : axis.state = .homing session) :
        deadline = later session.phaseStarted axis.settings.homing.destress.toNat ∧
          Since (Moment.Releases session.phaseStarted) (Moment.IsIn (.destress deadline))
            (past ++ [⟨axis, act⟩]) := by
      obtain ⟨hdeadline, hsince⟩ := h.released session deadline hbefore hphase
      exact ⟨hdeadline, since_concat.2 (.inr ⟨hsince, session, hbefore, hphase⟩)⟩
    rcases homing_before hnext with
      hsame | ⟨-, _, _, _, -, rfl⟩ | ⟨now, before, rfl, hbefore, hcase⟩
    · exact goesOn hsame
    · cases hphase
    · rcases hcase.releasing hnext hphase with rfl | ⟨hzero, htime, -, hdeadline⟩
      · exact goesOn hbefore
      · rw [htime, hdeadline, (hsound.session before hbefore).settings]
        exact ⟨rfl, since_concat.2 (.inl ⟨rfl, before, hbefore, hzero⟩)⟩

/-- What an axis with these settings has noted, with a past that agrees. -/
structure IsTimed (settings : AxisSettings) (past : List (Moment C)) (axis : Axis C) : Prop where
  sound : axis.IsSound
  settings : axis.settings = settings
  lengths : axis.origins.length = axis.channels.length
  stamped : axis.IsStamped past

theorem IsTimed.next {settings : AxisSettings} (h : axis.IsTimed settings past)
    (act : AxisAct C) :
    (Moment.next ⟨axis, act⟩).IsTimed settings (past ++ [⟨axis, act⟩]) := by
  have hstep := Moment.step ⟨axis, act⟩
  have hbuild := hstep.build_eq h.sound.samples
  exact ⟨hstep.isSound h.sound, (congrArg Prod.fst hbuild).trans h.settings,
    hstep.length_origins h.sound.samples h.lengths, h.stamped.next h.sound act⟩

theorem isTimed_run {settings : AxisSettings} {channels : List C} {start : Axis C}
    (hstart : ofChannels settings channels = .ok start) (acts : List (AxisAct C)) :
    (start.run acts).IsTimed settings (start.moments acts) := by
  have hnew : start.IsTimed settings [] := by
    obtain ⟨hstate, -, -⟩ := atRest_of_ofChannels hstart
    obtain ⟨hsettings, -, -⟩ := built_of_ofChannels hstart
    refine ⟨isSound_of_ofChannels hstart, hsettings, ?lengths, ?issued, ?begun, ?started, ?released⟩
    case lengths =>
      unfold ofChannels at hstart
      split at hstart
      · cases hstart
      · cases hstart
        simp
    all_goals
      intro _
      rw [hstate]
      intros
      contradiction
  exact run_induction (fun past axis => axis.IsTimed settings past) (fun _ _ act h => h.next act)
    acts hnew

end

/-! ## Updates and deadlines -/

section

variable {axis next : Axis C} {now : Nat}

/-- A move that waits for its start after an update without an event is within its deadline. -/
theorem starting_inTime {since : Nat} (h : axis.update now = (next, none))
    (hnext : next.state = .startingMove since) :
    now - since < axis.settings.startTimeout.toNat := by
  obtain ⟨hpending, hfree⟩ := free_of_quiet (congrArg Prod.snd h)
  have hcase := axis.update_case now
  rw [h] at hcase
  obtain ⟨hstate, -⟩ := hcase.starting_before hnext
  have hfree := hfree (by rw [hstate]; rfl)
  rw [update_of_starting hpending hstate hfree, updateStarting] at h
  split at h
  · cases h
    cases hnext
  split at h
  · cases h
  split at h
  · cases h
  · rename_i hearly
    exact Nat.lt_of_not_le hearly

/-- A homing run that goes on after an update has some of its time left. -/
theorem homing_inTime {session session' : HomingSession}
    (h : axis.updateHoming session now = (next, none)) (hnext : next.state = .homing session') :
    now - session'.started < session.settings.timeout.toNat := by
  have hcase := axis.updateHoming_case session now
  rw [h] at hcase
  rw [hcase.started hnext]
  unfold updateHoming at h
  split at h
  · cases h
  · rename_i hleft
    exact Nat.lt_of_not_le hleft

/-- A leg that waits for the start of its move after an update has some of that time left. -/
theorem waiting_inTime {session session' : HomingSession} {leg : Leg}
    (hsome : 0 < session.settings.startTimeout.toNat)
    (h : axis.updateHoming session now = (next, none)) (hnext : next.state = .homing session')
    (hphase : session'.phase = .leg leg .waitStart) :
    now - session'.phaseStarted < session.settings.startTimeout.toNat := by
  have hcase := axis.updateHoming_case session now
  rw [h] at hcase
  rcases hcase.waiting hnext hphase with ⟨rfl, -⟩ | ⟨-, htime, -⟩
  · unfold updateHoming at h
    split at h
    · cases h
    rw [hphase] at h
    dsimp only at h
    unfold awaitLeg at h
    split at h
    · -- the leg goes on to travel, and waits no more
      cases h
      rw [← AxisState.homing.inj hnext] at hphase
      cases hphase
    split at h
    · cases h
    · rename_i hearly
      exact Nat.lt_of_not_le hearly
  · -- the move has just been commanded
    rw [htime, Nat.sub_self]
    exact hsome

/-- Drives that are released after an update stay released for some time. -/
theorem released_inTime {session session' : HomingSession} {deadline : Nat}
    (h : axis.updateHoming session now = (next, none)) (hnext : next.state = .homing session')
    (hphase : session'.phase = .destress deadline)
    (hclock : now + session.settings.destress.toNat ≤ clockEnd) : now < deadline := by
  have hcase := axis.updateHoming_case session now
  rw [h] at hcase
  rcases hcase.releasing hnext hphase with rfl | ⟨-, -, hsome, rfl⟩
  · unfold updateHoming at h
    split at h
    · cases h
    rw [hphase] at h
    dsimp only at h
    unfold updateDestress at h
    split at h
    · assumption
    · cases h
  · have hpositive : session.settings.destress.toNat ≠ 0 :=
      fun hzero => hsome (UInt32.toNat_inj.1 hzero)
    unfold later
    omega

/-- **What goes on after an update without an event is within its deadlines.** -/
theorem inTime_of_quiet {settings : AxisSettings} {past : List (Moment C)}
    (hvalid : settings.fault? = none) (htimed : axis.IsTimed settings past)
    (hquiet : (axis.update now).2 = none) : (axis.update now).1.InTime settings now := by
  obtain ⟨hpending, hfree⟩ := free_of_quiet hquiet
  have hupdate : axis.update now = ((axis.update now).1, none) := Prod.ext rfl hquiet
  have hcase := axis.update_case now
  rw [hquiet] at hcase
  generalize (axis.update now).1 = next at hupdate hcase ⊢
  -- a homing run comes out of the step that the update has taken it
  have hhoming (session' : HomingSession) (hnext : next.state = .homing session') :
      ∃ session, session.settings = settings.homing ∧
        axis.sampleEffort.updateHoming session now = (next, none) := by
    obtain ⟨session, hstate⟩ : ∃ session, axis.state = .homing session := by
      rcases hcase.homing_before hnext with ⟨hsame, -⟩ | ⟨before, hbefore, -⟩
      · exact ⟨session', hsame⟩
      · exact ⟨before, hbefore⟩
    have hsettings := (htimed.sound.session session hstate).settings
    rw [htimed.settings] at hsettings
    have hfree := hfree (by rw [hstate]; rfl)
    rw [update_of_homing hpending hstate hfree] at hupdate
    exact ⟨session, hsettings, hupdate⟩
  refine ⟨?starting, ?homing, ?waiting, ?released⟩
  case starting =>
    intro since hnext
    have hearly := starting_inTime hupdate hnext
    rwa [htimed.settings] at hearly
  case homing =>
    intro session' hnext
    obtain ⟨session, hsettings, hstep⟩ := hhoming session' hnext
    rw [← hsettings]
    exact homing_inTime hstep hnext
  case waiting =>
    intro session' leg hnext hphase
    obtain ⟨session, hsettings, hstep⟩ := hhoming session' hnext
    have hsome := (AxisSettings.timeLeft_of_fault? hvalid).1
    rw [← hsettings] at hsome ⊢
    exact waiting_inTime hsome hstep hnext hphase
  case released =>
    intro session' deadline hnext hphase hclock
    obtain ⟨session, hsettings, hstep⟩ := hhoming session' hnext
    rw [← hsettings] at hclock
    exact released_inTime hstep hnext hphase hclock

/-- Channels that show no motion stand still. -/
theorem hasNotStarted_of_motionStarted (hlengths : axis.origins.length = axis.channels.length)
    (h : axis.motionStarted = false) : axis.HasNotStarted := by
  have hpair (i : Nat) (hi : i < axis.channels.length) (hi' : i < axis.origins.length) :
      MotorChannel.isStepping axis.channels[i] = false ∧
        MotorChannel.position axis.channels[i] = axis.origins[i] := by
    have hzip : i < (axis.channels.zip axis.origins).length := by
      rw [List.length_zip]
      omega
    have hnone := List.any_eq_false.1 h _ (List.getElem_mem hzip)
    rw [List.getElem_zip] at hnone
    simpa using hnone
  constructor
  · refine List.any_eq_false.2 fun c hc => ?_
    obtain ⟨i, hi, rfl⟩ := List.getElem_of_mem hc
    rw [(hpair i hi (hlengths ▸ hi)).1]
    exact Bool.false_ne_true
  · refine List.ext_getElem (by rw [List.length_map, hlengths]) fun i hi hi' => ?_
    rw [List.length_map] at hi
    rw [List.getElem_map]
    exact (hpair i hi hi').2

/-- **A timeout is reported only when its deadline has come.** -/
theorem isDue_of_timeout {settings : AxisSettings} {past : List (Moment C)} {timeout : Timeout}
    (htimed : axis.IsTimed settings past)
    (hevent : (axis.update now).2 = some (.fault (.timeout timeout))) :
    axis.IsDue settings now timeout := by
  have hcause : axis.FailureCause now (.timeout timeout) := by
    refine failureCause_of_fault (fun hwaits => ?_) hevent
    rcases htimed.sound.pending _ hwaits with h | h <;> cases h
  cases hcause with
  | moveStart hstate hunmoved hdue =>
    rw [htimed.settings] at hdue
    exact ⟨_, hstate, hasNotStarted_of_motionStarted htimed.lengths hunmoved, hdue⟩
  | homingSession hstate hdue =>
    rw [(htimed.sound.session _ hstate).settings, htimed.settings] at hdue
    exact ⟨_, hstate, hdue⟩
  | homingStart hstate hphase hunmoved hdue =>
    rw [(htimed.sound.session _ hstate).settings, htimed.settings] at hdue
    exact ⟨_, _, hstate, hphase, hasNotStarted_of_motionStarted htimed.lengths hunmoved, hdue⟩

end

end Axis

/-! ## Deadlines in every run -/

/-- What is right about the deadlines of an axis with this past, when an update comes to it. -/
structure DeadlinesEnforced (settings : AxisSettings) (past : List (Moment C)) (axis : Axis C)
    (now : Nat) : Prop where
  /-- The deadlines count from moments of the past, before the update and after it. -/
  stamped : axis.IsStamped past
  stamped_next : (axis.update now).1.IsStamped (past ++ [⟨axis, .update now⟩])
  held : (axis.update now).2 = none → (axis.update now).1.InTime settings now
  expired : ∀ timeout, (axis.update now).2 = some (.fault (.timeout timeout)) →
    axis.IsDue settings now timeout

/-- **The deadlines of an axis with valid settings are enforced**, in every run and at every time of
the clock. -/
theorem deadlines_enforced {settings : AxisSettings} {channels : List C} {start : Axis C}
    (hvalid : settings.fault? = none) (hstart : Axis.ofChannels settings channels = .ok start)
    (acts : List (AxisAct C)) (now : Nat) :
    DeadlinesEnforced settings (start.moments acts) (start.run acts) now := by
  have htimed := Axis.isTimed_run hstart acts
  exact ⟨htimed.stamped, (htimed.next (.update now)).stamped,
    Axis.inTime_of_quiet hvalid htimed, fun _ hevent => Axis.isDue_of_timeout htimed hevent⟩

/-- The first search of a homing run waits for a motor that does not start. -/
def spindleStalled : List (AxisAct ScriptedChannel) :=
  [.call (.home 100 50 1), .update 2, .sense fun _ => ScriptedChannel.halt]

/-- Up to the deadline the search waits on, also when the clock goes back; then it fails. -/
theorem deadlines_enforced_spindle :
    (∀ now ∈ [3, 1, 501], (Moment.event ⟨spindle.run spindleStalled, .update now⟩) = none) ∧
      Moment.event ⟨spindle.run spindleStalled, .update 502⟩ =
        some (.fault (.timeout .homingStart)) ∧
      DeadlinesEnforced {} (spindle.moments spindleStalled) (spindle.run spindleStalled) 502 :=
  ⟨by decide +kernel, by decide +kernel,
    deadlines_enforced (by decide +kernel) spindle_isBuilt spindleStalled 502⟩

end MotionControl
