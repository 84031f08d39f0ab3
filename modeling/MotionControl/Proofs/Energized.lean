import MotionControl.Proofs.Axis.Run

/-!
# The drives are energized as asked

The end of a homing run may release the drives for a while. Outside of that release every drive is
energized exactly if that was asked for last, and every way out of the release leads back there.

* `SwitchedChannel`: a channel whose drive only a switch energizes or releases.
* `requested`: what the past asks for.
* `Axis.Complies.call`, `Axis.Complies.update`: what calls and updates leave of the drives.
* `Axis.FollowsRequest.next`: every act keeps the drives as the past asks.
* `energized_as_requested`: **the drives are energized as asked**, in every run.
-/

namespace MotionControl

/-! ## Switched channels -/

/-- A channel whose drive is energized as it was last switched, whatever else is commanded. -/
class SwitchedChannel (C : Type) [MotorChannel C] : Prop where
  setEnabled : ∀ enabled (c : C),
    MotorChannel.isEnabled (MotorChannel.setEnabled enabled c) = enabled
  moveIncrements : ∀ increments velocity accel (c : C),
    MotorChannel.isEnabled (MotorChannel.moveIncrements increments velocity accel c) =
      MotorChannel.isEnabled c
  stopAbrupt : ∀ c : C, MotorChannel.isEnabled (MotorChannel.stopAbrupt c) =
    MotorChannel.isEnabled c
  stopDecelerated : ∀ c : C, MotorChannel.isEnabled (MotorChannel.stopDecelerated c) =
    MotorChannel.isEnabled c
  setZero : ∀ c : C, MotorChannel.isEnabled (MotorChannel.setZero c) = MotorChannel.isEnabled c
  setTorqueLimit : ∀ percent (c : C),
    MotorChannel.isEnabled (MotorChannel.setTorqueLimit percent c) = MotorChannel.isEnabled c

instance : SwitchedChannel ScriptedChannel where
  setEnabled _ _ := rfl
  moveIncrements _ _ _ _ := rfl
  stopAbrupt _ := rfl
  stopDecelerated _ := rfl
  setZero _ := rfl
  setTorqueLimit _ _ := rfl

instance : SwitchedChannel PlainChannel where
  setEnabled _ _ := rfl
  moveIncrements _ _ _ _ := rfl
  stopAbrupt _ := rfl
  stopDecelerated _ := rfl
  setZero _ := rfl
  setTorqueLimit _ _ := rfl

instance : SwitchedChannel SimulatedChannel where
  setEnabled enabled c := by
    cases enabled <;> rfl
  moveIncrements increments velocity accel c := by
    show (SimulatedChannel.moveIncrements increments velocity accel c).enabled = c.enabled
    unfold SimulatedChannel.moveIncrements
    dsimp only
    split <;> rfl
  stopAbrupt _ := rfl
  stopDecelerated c := by
    show c.stopDecelerated.enabled = c.enabled
    unfold SimulatedChannel.stopDecelerated
    split <;> rfl
  setZero _ := rfl
  setTorqueLimit _ _ := rfl

open SwitchedChannel in
instance : SwitchedChannel Motor where
  setEnabled enabled c := by
    cases c
    · exact setEnabled enabled (_ : ScriptedChannel)
    · exact setEnabled enabled (_ : PlainChannel)
    · exact setEnabled enabled (_ : SimulatedChannel)
  moveIncrements n v a c := by
    cases c
    · exact moveIncrements n v a (_ : ScriptedChannel)
    · exact moveIncrements n v a (_ : PlainChannel)
    · exact moveIncrements n v a (_ : SimulatedChannel)
  stopAbrupt c := by
    cases c
    · exact stopAbrupt (_ : ScriptedChannel)
    · exact stopAbrupt (_ : PlainChannel)
    · exact stopAbrupt (_ : SimulatedChannel)
  stopDecelerated c := by
    cases c
    · exact stopDecelerated (_ : ScriptedChannel)
    · exact stopDecelerated (_ : PlainChannel)
    · exact stopDecelerated (_ : SimulatedChannel)
  setZero c := by
    cases c
    · exact setZero (_ : ScriptedChannel)
    · exact setZero (_ : PlainChannel)
    · exact setZero (_ : SimulatedChannel)
  setTorqueLimit percent c := by
    cases c
    · exact setTorqueLimit percent (_ : ScriptedChannel)
    · exact setTorqueLimit percent (_ : PlainChannel)
    · exact setTorqueLimit percent (_ : SimulatedChannel)

/-! ## What the past asks for -/

/-- What a call asks of the drives, if it is for that. -/
def AxisCall.switch? : AxisCall → Option Bool
  | enable => some true
  | disable => some false
  | _ => none

variable {C : Type}

/-- What a moment asks of the drives, if its call is for that. -/
def Moment.switch? (moment : Moment C) : Option Bool :=
  match moment.act with
  | .call call => call.switch?
  | .sense _ | .update _ => none

/-- Whether the drives are to be energized: what was asked for last, and at first they are. -/
def requested (past : List (Moment C)) : Bool := (past.filterMap Moment.switch?).getLast?.getD true

theorem requested_concat (past : List (Moment C)) (moment : Moment C) :
    requested (past ++ [moment]) = moment.switch?.getD (requested past) := by
  unfold requested
  rw [List.filterMap_append]
  cases hswitch : moment.switch? with
  | none => simp [hswitch]
  | some enabled => simp [hswitch]

variable [MotorChannel C]

/-- What the channels do on their own leaves the switches of their drives alone. -/
def AxisAct.KeepsSwitches : AxisAct C → Prop
  | sense feedback => ∀ i c, MotorChannel.isEnabled (feedback i c) = MotorChannel.isEnabled c
  | call _ | update _ => True

/-- A refused call asks nothing of the drives. -/
theorem Moment.switch?_of_refused {axis : Axis C} {call : AxisCall}
    (h : Moment.accepted? ⟨axis, .call call⟩ = none) : call.switch? = none := by
  cases call with
  | enable | disable => cases h
  | _ => rfl

namespace Axis

/-! ## Axes with all switches alike -/

/-- Every drive is energized, or every drive is released. -/
def IsSwitched (enabled : Bool) (axis : Axis C) : Prop :=
  ∀ c ∈ axis.channels, MotorChannel.isEnabled c = enabled

/-- The drives are as they are asked to be, unless they are released at the end of a homing run;
and no homing run goes on with the drives asked to be released. -/
structure Complies (enabled : Bool) (axis : Axis C) : Prop where
  switched : axis.state.isDestress = false → axis.IsSwitched enabled
  homing : ∀ session, axis.state = .homing session → enabled = true

section

variable {axis next : Axis C} {enabled : Bool}

theorem isSwitched_iff_allEnabled : axis.IsSwitched true ↔ axis.allEnabled = true := by
  simp [IsSwitched, allEnabled]

theorem IsSwitched.eq_true (h : axis.IsSwitched enabled) (henabled : axis.allEnabled = true)
    (hoccupied : axis.channels ≠ []) : enabled = true := by
  obtain ⟨c, hc⟩ := List.exists_mem_of_ne_nil _ hoccupied
  rw [← h c hc, isSwitched_iff_allEnabled.2 henabled c hc]

theorem IsSwitched.mapChannels (h : axis.IsSwitched enabled) {f : C → C}
    (hf : ∀ c, MotorChannel.isEnabled (f c) = MotorChannel.isEnabled c) :
    (axis.mapChannels f).IsSwitched enabled := by
  intro c' hc'
  obtain ⟨c, hc, rfl⟩ := List.mem_map.1 hc'
  rw [hf, h c hc]

theorem Complies.of_isDestress (h : axis.Complies enabled)
    (hdestress : axis.state.isDestress = true) : enabled = true := by
  cases hstate : axis.state with
  | homing session => exact h.homing session hstate
  | _ =>
    rw [hstate] at hdestress
    cases hdestress

/-- An axis that is not homing. -/
theorem IsSwitched.complies (h : axis.IsSwitched enabled)
    (hstate : ∀ session, axis.state ≠ .homing session) : axis.Complies enabled :=
  ⟨fun _ => h, fun session hhoming => absurd hhoming (hstate session)⟩

theorem not_homing_abort (axis : Axis C) (session : HomingSession) :
    axis.abort.state ≠ .homing session := by
  intro hstate
  rcases axis.abort_cases with ⟨-, hs, -⟩ | ⟨hidle, hs, -⟩
  · rw [hs] at hstate
    cases hstate
  · rw [← hs, hstate] at hidle
    cases hidle

variable [SwitchedChannel C]

theorem isSwitched_setAllEnabled (enabled : Bool) (axis : Axis C) :
    (axis.setAllEnabled enabled).IsSwitched enabled := by
  intro c' hc'
  obtain ⟨c, -, rfl⟩ := List.mem_map.1 hc'
  exact SwitchedChannel.setEnabled enabled c

theorem IsSwitched.stopAll (h : axis.IsSwitched enabled) : axis.stopAll.IsSwitched enabled :=
  h.mapChannels SwitchedChannel.stopAbrupt

/-- The end of a release energizes all drives. -/
theorem IsSwitched.endDestress {state : AxisState}
    (h : state.isDestress = false → axis.IsSwitched enabled)
    (hdestress : state.isDestress = true → enabled = true) :
    (axis.endDestress state).IsSwitched enabled := by
  unfold Axis.endDestress
  split
  · rename_i hstate
    rw [hdestress hstate]
    exact isSwitched_setAllEnabled true axis
  · rename_i hstate
    exact h (Bool.not_eq_true _ ▸ hstate)

theorem IsSwitched.issue (h : axis.IsSwitched enabled) {increments : Int}
    {velocity accel torque : Single} {now : Nat} :
    (axis.issue increments velocity accel torque now).IsSwitched enabled := by
  have hlimit := h.mapChannels (SwitchedChannel.setTorqueLimit torque)
  unfold Axis.issue
  dsimp only
  split
  · exact hlimit
  · exact hlimit.mapChannels (SwitchedChannel.moveIncrements increments velocity accel)

theorem Complies.abort (h : axis.Complies enabled) : axis.abort.IsSwitched enabled := by
  have hstopped : axis.state.isDestress = false →
      IsSwitched enabled { axis.stopAll with stopRequested := false } :=
    fun hstate => (h.switched hstate).stopAll
  unfold Axis.abort
  dsimp only
  split
  · exact IsSwitched.endDestress hstopped h.of_isDestress
  · rename_i hidle
    exact hstopped (AxisState.isDestress_of_idle (Bool.not_eq_true _ ▸ hidle))

end

/-! ## Every act leaves the drives as asked -/

section

variable [SwitchedChannel C] {axis next : Axis C} {now : Nat} {event : Option AxisEvent}
  {enabled : Bool}

/-- **An accepted call** leaves the drives as it asks, or else as they were asked to be before. -/
theorem Complies.call {call : AxisCall} (h : axis.Complies enabled)
    (hcase : axis.CallCase call next) (hoccupied : axis.channels ≠ []) :
    next.Complies (call.switch?.getD enabled) := by
  cases hcase with
  | @move _ increments velocity accel torque now hmove hstate =>
    have hbefore : axis.IsSwitched enabled := h.switched (by rw [hstate]; rfl)
    have hsame : call.switch? = none := by cases call <;> first | rfl | cases hmove
    rw [hsame]
    refine hbefore.issue.complies fun session hnext => ?_
    rcases axis.issue_cases increments velocity accel torque now with ⟨hs, -⟩ | ⟨hs, -⟩
    · rw [hs] at hnext
      cases hnext
    · rw [hs, hstate] at hnext
      cases hnext
  | home hstate htorque henabled =>
    have hbefore : axis.IsSwitched enabled := h.switched (by rw [hstate]; rfl)
    refine ⟨fun _ => hbefore.mapChannels (SwitchedChannel.setTorqueLimit _), fun _ _ => ?_⟩
    exact hbefore.eq_true henabled hoccupied
  | stop =>
    exact ⟨fun hs => (h.switched hs).mapChannels SwitchedChannel.stopDecelerated, h.homing⟩
  | clear hstate =>
    refine IsSwitched.complies (h.switched ?_) fun _ hnext => by cases hnext
    cases hs : axis.state <;> first | rfl | (rw [hs] at hstate; cases hstate)
  | unfaulted | discard => exact ⟨h.switched, h.homing⟩
  | abort => exact h.abort.complies axis.not_homing_abort
  | enable => exact ⟨fun _ => isSwitched_setAllEnabled true axis, fun _ _ => rfl⟩
  | disable => exact (isSwitched_setAllEnabled false axis.abort).complies axis.not_homing_abort

/-- **An update of a homing run** leaves every drive energized, unless it goes on to the release. -/
theorem HomingCase.isSwitched {session : HomingSession}
    (h : axis.HomingCase session now next event)
    (hbefore : session.phase.isDestress = false → axis.IsSwitched true)
    (hnext : next.state.isDestress = false) : next.IsSwitched true := by
  have phased {leg : Leg} {stage : Stage} (hphase : session.phase = .leg leg stage) :
      axis.IsSwitched true := hbefore (by rw [hphase]; rfl)
  have walked {channels : List C} (hswitched : axis.IsSwitched true)
      (hwalked : List.Forall₂ IsWalked axis.channels channels) :
      IsSwitched true { axis with channels } := by
    intro c' hc'
    obtain ⟨c, hc, rfl | rfl⟩ := exists_of_walked hwalked c' hc'
    · exact hswitched c' hc
    · rw [SwitchedChannel.stopAbrupt, hswitched c hc]
  cases h with
  | @fail channels failed fault hwalked hphase hfault =>
    have hstopAll (hstate : failed.phase.isDestress = false) :
        IsSwitched true { axis with channels }.stopAll :=
      (walked (hbefore (hphase ▸ hstate)) hwalked).stopAll
    exact IsSwitched.endDestress hstopAll fun _ => rfl
  | wait => exact hbefore hnext
  | start hphase =>
    have hlimit := (phased hphase).mapChannels (SwitchedChannel.setTorqueLimit session.torque)
    exact hlimit.mapChannels (SwitchedChannel.moveIncrements _ _ _)
  | depart hphase | retreat hphase => exact phased hphase
  | seek hphase hwalk | find hphase hwalk => exact walked (phased hphase) (walked_of_walk hwalk)
  | zero hphase =>
    have hswitched : axis.IsSwitched true := hbefore (by rw [hphase]; rfl)
    exact hswitched.mapChannels SwitchedChannel.setZero
  | release => cases hnext
  | settle => exact isSwitched_setAllEnabled true axis

/-- **An update** leaves the drives as asked. -/
theorem Complies.update (h : axis.Complies enabled) (hcase : axis.UpdateCase now next event) :
    next.Complies enabled := by
  have moving (hstate : axis.state.isMoving = true) : axis.IsSwitched enabled := by
    refine h.switched ?_
    cases hs : axis.state <;> first | rfl | (rw [hs] at hstate; cases hstate)
  cases hcase with
  | report | rest => exact ⟨h.switched, h.homing⟩
  | hardware =>
    refine IsSwitched.complies (IsSwitched.endDestress ?_ h.of_isDestress)
      fun _ hnext => by cases hnext
    intro hstate
    have hsampled : axis.sampleEffort.IsSwitched enabled := h.switched hstate
    exact hsampled.stopAll
  | go hpending hstate => exact ⟨h.switched, h.homing⟩
  | depart hpending hstate | giveUp hpending hstate | arrive hpending hstate =>
    exact IsSwitched.complies (moving (by rw [hstate]; rfl)) fun _ hnext => by cases hnext
  | @fail fault hpending hstate =>
    have hsampled : axis.sampleEffort.IsSwitched enabled := moving hstate
    have hstopped : (axis.sampleEffort.failMove fault).1.IsSwitched enabled := hsampled.stopAll
    refine hstopped.complies fun session hnext => ?_
    simp only [failMove] at hnext
    split at hnext <;> cases hnext
  | @homing session _ _ hpending hstate hcase =>
    have henabled := h.homing session hstate
    subst henabled
    refine ⟨hcase.isSwitched fun hphase => ?_, fun _ _ => rfl⟩
    exact h.switched (by rw [hstate]; exact hphase)

end

/-! ## The drives follow the requests of the past -/

/-- An axis with channels whose drives are as the past asks. -/
structure FollowsRequest (past : List (Moment C)) (axis : Axis C) : Prop where
  sound : axis.IsSound
  occupied : axis.channels ≠ []
  complies : axis.Complies (requested past)

/-- An axis that has been built with every drive energized has no past to ask for anything else. -/
theorem followsRequest_of_ofChannels {settings : AxisSettings} {channels : List C}
    {start : Axis C} (hstart : ofChannels settings channels = .ok start)
    (henabled : start.allEnabled = true) : start.FollowsRequest [] := by
  obtain ⟨hstate, -⟩ := atRest_of_ofChannels hstart
  refine ⟨isSound_of_ofChannels hstart, ?_, ?_⟩
  · unfold ofChannels at hstart
    split at hstart
    · cases hstart
    · rename_i hcount
      cases hstart
      exact fun hnil => hcount (.inl (by rw [show channels = [] from hnil]; rfl))
  · refine IsSwitched.complies (isSwitched_iff_allEnabled.2 henabled) fun session hsession => ?_
    rw [hstate] at hsession
    cases hsession

section

variable [SwitchedChannel C] {past : List (Moment C)} {axis : Axis C} {act : AxisAct C}

/-- **Every act keeps the drives as the past asks.** -/
theorem FollowsRequest.next (h : axis.FollowsRequest past)
    (hkeeps : act.KeepsSwitches) :
    (Moment.next ⟨axis, act⟩).FollowsRequest (past ++ [⟨axis, act⟩]) := by
  have hstep := Moment.step ⟨axis, act⟩
  refine ⟨hstep.isSound h.sound, ?occupied, ?complies⟩
  case occupied =>
    have hlength : (Moment.next ⟨axis, act⟩).channels.length = axis.channels.length :=
      congrArg (fun build => build.2.1) (hstep.build_eq h.sound.samples)
    exact List.ne_nil_of_length_pos (hlength ▸ List.length_pos_iff.2 h.occupied)
  case complies =>
    rw [requested_concat]
    have hrefused {call : AxisCall} (hact : act = .call call)
        (h : Moment.accepted? ⟨axis, act⟩ = none) : call.switch? = none := by
      subst hact
      exact Moment.switch?_of_refused h
    generalize Moment.next ⟨axis, act⟩ = next at hstep ⊢
    generalize Moment.event ⟨axis, act⟩ = event at hstep
    generalize Moment.accepted? ⟨axis, act⟩ = call? at hstep hrefused
    cases hstep with
    | sense feedback =>
      refine ⟨fun hstate c' hc' => ?_, h.complies.homing⟩
      obtain ⟨i, hi, rfl⟩ := List.mem_mapIdx.1 hc'
      rw [hkeeps]
      exact h.complies.switched hstate _ (List.getElem_mem hi)
    | accept hcase => exact h.complies.call hcase h.occupied
    | refuse call =>
      rw [show Moment.switch? ⟨axis, .call call⟩ = none from hrefused rfl rfl]
      exact h.complies
    | update now => exact h.complies.update (axis.update_case now)

end

end Axis

/-! ## Energized as asked -/

/-- What is right about the drives at a moment with this past. -/
structure EnergizedAsRequested (past : List (Moment C)) (moment : Moment C) : Prop where
  /-- Outside of the release at the end of a homing run, each drive is energized exactly if that
  was asked for last. -/
  asked : moment.axis.state.isDestress = false →
    ∀ c ∈ moment.axis.channels, MotorChannel.isEnabled c = requested past
  /-- Whatever ends that release energizes every drive, unless it asks for their release. -/
  leaves : moment.axis.state.isDestress = true → moment.next.state.isDestress = false →
    moment.act ≠ .call .disable → ∀ c ∈ moment.next.channels, MotorChannel.isEnabled c = true
  /-- A call for the release of the drives is carried out, and ends the release of a homing run. -/
  disabled : moment.act = .call .disable → moment.next.state.isDestress = false ∧
    ∀ c ∈ moment.next.channels, MotorChannel.isEnabled c = false

section

variable [SwitchedChannel C]

theorem Axis.FollowsRequest.energized {past : List (Moment C)} {axis : Axis C}
    (h : axis.FollowsRequest past) (act : AxisAct C) :
    EnergizedAsRequested past ⟨axis, act⟩ := by
  refine ⟨h.complies.switched, ?leaves, ?disabled⟩
  case leaves =>
    intro hstate hnext hact
    have hkeeps : act.KeepsSwitches := by
      cases act with
      | sense =>
        have hsame : axis.state.isDestress = false := hnext
        rw [show axis.state.isDestress = true from hstate] at hsame
        cases hsame
      | call | update => trivial
    have hafter := h.next hkeeps
    have hasked : requested (past ++ [⟨axis, act⟩]) = true := by
      rw [requested_concat, h.complies.of_isDestress hstate]
      cases act with
      | sense | update => rfl
      | call call =>
        cases call with
        | disable => exact absurd rfl hact
        | _ => rfl
    have hcomplies := hafter.complies
    rw [hasked] at hcomplies
    exact hcomplies.switched hnext
  case disabled =>
    intro hact
    cases hact
    have hnext : (Moment.next ⟨axis, .call .disable⟩).state.isDestress = false := by
      cases hs : axis.abort.state with
      | homing session => exact absurd hs (axis.not_homing_abort session)
      | _ => exact congrArg AxisState.isDestress hs
    exact ⟨hnext, Axis.isSwitched_setAllEnabled false axis.abort⟩

/-- **The drives are energized as asked**, whatever calls and updates come to an axis that is built
with every drive energized, at whatever times and with whatever feedback of its channels. -/
theorem energized_as_requested {settings : AxisSettings} {channels : List C} {start : Axis C}
    (hstart : Axis.ofChannels settings channels = .ok start) (henabled : start.allEnabled = true)
    (acts : List (AxisAct C)) (hacts : ∀ act ∈ acts, act.KeepsSwitches) (act : AxisAct C) :
    EnergizedAsRequested (start.moments acts) ⟨start.run acts, act⟩ := by
  have hfollows : (∀ m ∈ start.moments acts, m.act.KeepsSwitches) →
      (start.run acts).FollowsRequest (start.moments acts) := by
    refine Axis.run_induction (fun past axis => (∀ m ∈ past, m.act.KeepsSwitches) →
      axis.FollowsRequest past) ?_ acts fun _ => Axis.followsRequest_of_ofChannels hstart henabled
    intro past axis act ih hkeeps
    have hbefore := ih fun m hm => hkeeps m (List.mem_append_left _ hm)
    exact hbefore.next (hkeeps ⟨axis, act⟩ (by simp))
  exact (hfollows fun m hm => hacts m.act (Axis.act_mem_of_moments hm)).energized act

end

/-- An axis with one motor, which releases the drive at the end of a homing run. -/
def easedSpindle : Axis ScriptedChannel :=
  { spindle with settings := { homing := { destress := 100 } } }

/-- An abort comes while the drive is released. -/
theorem energized_as_requested_spindle :
    (easedSpindle.run spindleHoming).state.isDestress = true ∧
      (easedSpindle.run spindleHoming).allEnabled = false ∧
      EnergizedAsRequested (easedSpindle.moments spindleHoming)
        ⟨easedSpindle.run spindleHoming, .call .abort⟩ := by
  have hkeeps : ∀ act ∈ spindleHoming, act.KeepsSwitches := by
    have hswitch (c : ScriptedChannel) : MotorChannel.isEnabled c = c.enabled := rfl
    simp [spindleHoming, senseUpdate, AxisAct.KeepsSwitches, hswitch, ScriptedChannel.finish]
  have hbuilt : Axis.ofChannels easedSpindle.settings [{}] = .ok easedSpindle := rfl
  refine ⟨by decide +kernel, by decide +kernel, ?_⟩
  exact energized_as_requested hbuilt rfl spindleHoming hkeeps (.call .abort)

end MotionControl
