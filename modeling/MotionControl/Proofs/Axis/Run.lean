import MotionControl.Motor.Scripted
import MotionControl.Proofs.Axis.Update
import MotionControl.Proofs.Refusal

/-!
# Runs of an axis

Calls, updates and what the channels do on their own come to an axis in any order. An `AxisAct` is
one of them; a run is a list of acts, and its past is a list of moments.

* `Moment`: an axis with the act that comes to it, the axis after it, the event that it reports and
  the call that it accepts.
* `moments`, `run`: the moments of a run, the last one at the end, and the axis after it.
* `run_induction`: what every act preserves, of the axis and of the past, holds after every run.
* `Latest`, `Since`: what the past tells about the time from some moment on.
* `Step`, `Moment.step`: all that an act can do.
* `IsSound`: what holds of every axis that has been built, all along every run.
* `spindle`, `slide`: an axis with one motor, and one with simulated motors; `spindleHoming` and
  `slideHoming` are homing runs of them.
-/

namespace MotionControl

/-- What can come to an axis. -/
inductive AxisAct (C : Type) where
  /-- Each channel goes its own way, by its place. -/
  | sense (feedback : Nat → C → C)
  | call (call : AxisCall)
  | update (now : Nat)

variable {C : Type}

/-- The axis after its channels have gone their own way. -/
def Axis.sense (feedback : Nat → C → C) (axis : Axis C) : Axis C :=
  { axis with channels := axis.channels.mapIdx feedback }

/-- An axis at an act. -/
structure Moment (C : Type) where
  axis : Axis C
  act : AxisAct C

/-! ## The past of a run -/

/-- There is an element of the past for which `P` holds with what came before it, and `Q` holds of
all that has come since then. -/
def Latest {α : Type} (P : List α → α → Prop) (Q : α → Prop) (past : List α) : Prop :=
  ∃ earlier a later, past = earlier ++ a :: later ∧ P earlier a ∧ ∀ b ∈ later, Q b

section

variable {α : Type} {P : List α → α → Prop} {Q : α → Prop} {past : List α} {a : α}

theorem not_latest_nil : ¬ Latest P Q [] := by
  rintro ⟨earlier, a, later, hpast, -⟩
  simp at hpast

theorem latest_concat : Latest P Q (past ++ [a]) ↔ P past a ∨ Latest P Q past ∧ Q a := by
  constructor
  · rintro ⟨earlier, b, later, hpast, hP, hQ⟩
    rcases List.eq_nil_or_concat later with rfl | ⟨later, last, rfl⟩
    · obtain ⟨rfl, hlast⟩ := List.append_inj' hpast rfl
      cases hlast
      exact .inl hP
    · rw [List.concat_eq_append, ← List.cons_append, ← List.append_assoc] at hpast
      obtain ⟨rfl, hlast⟩ := List.append_inj' hpast rfl
      cases hlast
      refine .inr ⟨⟨earlier, b, later, rfl, hP, fun c h => hQ c (by simp [h])⟩, ?_⟩
      exact hQ a (by simp)
  · rintro (hP | ⟨⟨earlier, b, later, rfl, hP, hQ⟩, hlast⟩)
    · exact ⟨past, a, [], rfl, hP, fun _ h => (List.not_mem_nil h).elim⟩
    · refine ⟨earlier, b, later ++ [a], by simp, hP, ?_⟩
      intro c hc
      rcases List.mem_append.1 hc with h | h
      · exact hQ c h
      · rwa [List.mem_singleton.1 h]

end

/-- At some moment of the past `P` held, and at every moment since then `Q` has held. -/
def Since (P Q : Moment C → Prop) (past : List (Moment C)) : Prop :=
  ∃ earlier moment later, past = earlier ++ moment :: later ∧ P moment ∧ ∀ m ∈ later, Q m

section

variable {P Q : Moment C → Prop} {past : List (Moment C)} {moment : Moment C}

theorem not_since_nil : ¬ Since P Q [] :=
  not_latest_nil

theorem since_concat :
    Since P Q (past ++ [moment]) ↔ P moment ∨ Since P Q past ∧ Q moment :=
  latest_concat

end

/-! ## Moments -/

section

variable [MotorChannel C]

namespace Moment

/-- The axis after the act. A refused call leaves the axis as it was changed so far. -/
def next (moment : Moment C) : Axis C :=
  match moment.act with
  | .sense feedback => moment.axis.sense feedback
  | .call call =>
    match call.attempt.run moment.axis with
    | .ok () axis | .error _ axis => axis
  | .update now => (moment.axis.update now).1

/-- The event that the act reports, if it is an update. -/
def event (moment : Moment C) : Option AxisEvent :=
  match moment.act with
  | .update now => (moment.axis.update now).2
  | _ => none

/-- The call that the axis accepts, if the act is one. -/
def accepted? (moment : Moment C) : Option AxisCall :=
  match moment.act with
  | .call call =>
    match call.attempt.run moment.axis with
    | .ok .. => some call
    | .error .. => none
  | _ => none

end Moment

/-! ## One act -/

namespace Axis

/-- What an act can make of an axis, with the event that it reports and the call that it accepts. -/
inductive Step (axis : Axis C) :
    AxisAct C → Axis C → Option AxisEvent → Option AxisCall → Prop where
  | sense (feedback : Nat → C → C) : Step axis (.sense feedback) (axis.sense feedback) none none
  | accept {call : AxisCall} {next : Axis C} (hcase : axis.CallCase call next) :
      Step axis (.call call) next none (some call)
  | refuse (call : AxisCall) : Step axis (.call call) axis none none
  | update (now : Nat) :
      Step axis (.update now) (axis.update now).1 (axis.update now).2 none

end Axis

theorem AxisCall.attempt_atomic (call : AxisCall) :
    Attempt.Atomic (call.attempt : Attempt (Axis C) Unit) := by
  cases call with
  | moveTo request now => exact Axis.tryMoveTo_atomic
  | moveIncrements increments velocity accel torque now => exact Axis.tryMoveIncrements_atomic
  | home maxTravel torque now => exact Axis.tryHome_atomic
  | stopDecelerated => exact Axis.tryStopDecelerated_atomic
  | clearFault => exact Axis.tryClearFault_atomic
  | abort | discardPending | enable | disable => exact (Attempt.Always.modify _).atomic

/-- **Every act** is one of the steps. -/
theorem Moment.step (moment : Moment C) :
    moment.axis.Step moment.act moment.next moment.event moment.accepted? := by
  obtain ⟨axis, act⟩ := moment
  cases act with
  | sense feedback => exact .sense feedback
  | update now => exact .update now
  | call call =>
    cases hrun : call.attempt.run axis with
    | ok u axis' =>
      simp only [next, event, accepted?, hrun]
      exact .accept (Axis.callCase_of_run hrun)
    | error refusal axis' =>
      have hsame : axis' = axis := call.attempt_atomic _ _ _ hrun
      simp only [next, event, accepted?, hrun, hsame]
      exact .refuse call

/-- An act with an accepted call is that call, which has been carried out. -/
theorem Moment.run_of_accepted {axis : Axis C} {act : AxisAct C} {call : AxisCall}
    (h : Moment.accepted? ⟨axis, act⟩ = some call) :
    act = .call call ∧ ∃ next, call.attempt.run axis = .ok () next := by
  cases act with
  | sense | update => cases h
  | call asked =>
    cases hrun : asked.attempt.run axis with
    | error refusal next =>
      simp only [Moment.accepted?, hrun] at h
      cases h
    | ok u next =>
      simp only [Moment.accepted?, hrun, Option.some.injEq] at h
      rw [← h]
      exact ⟨rfl, next, hrun⟩

/-- An accepted move comes to an axis at rest that is referenced. -/
theorem Moment.standby_of_move {moment : Moment C} {call : AxisCall}
    (hcall : moment.accepted? = some call) (hmove : call.isMove = true) :
    moment.axis.state = .standby ∧ moment.axis.isHomed = true := by
  obtain ⟨axis, act⟩ := moment
  have hstep := Moment.step ⟨axis, act⟩
  generalize Moment.next ⟨axis, act⟩ = next at hstep
  generalize Moment.event ⟨axis, act⟩ = event at hstep
  rw [hcall] at hstep
  cases hstep with
  | accept hcase =>
    cases hcase with
    | move _ hstate hhomed => exact ⟨hstate, hhomed⟩
    | _ => cases hmove

/-! ## Runs -/

namespace Axis

/-- The moments of a run. -/
def moments : Axis C → List (AxisAct C) → List (Moment C)
  | _, [] => []
  | axis, act :: acts => ⟨axis, act⟩ :: moments (Moment.next ⟨axis, act⟩) acts

/-- The axis after a run. -/
def run : Axis C → List (AxisAct C) → Axis C
  | axis, [] => axis
  | axis, act :: acts => run (Moment.next ⟨axis, act⟩) acts

theorem act_mem_of_moments {acts : List (AxisAct C)} {axis : Axis C} {moment : Moment C}
    (h : moment ∈ axis.moments acts) : moment.act ∈ acts := by
  induction acts generalizing axis with
  | nil => cases h
  | cons act acts ih =>
    rcases List.mem_cons.1 h with rfl | hrest
    · exact .head _
    · exact .tail _ (ih hrest)

/-- **What every act preserves holds all along a run**, of the axis together with its past. -/
theorem run_induction (Inv : List (Moment C) → Axis C → Prop)
    (hstep : ∀ past axis act, Inv past axis →
      Inv (past ++ [⟨axis, act⟩]) (Moment.next ⟨axis, act⟩))
    (acts : List (AxisAct C)) {start : Axis C} (hstart : Inv [] start) :
    Inv (start.moments acts) (start.run acts) := by
  have key (past : List (Moment C)) (axis : Axis C) (h : Inv past axis) :
      Inv (past ++ axis.moments acts) (axis.run acts) := by
    -- on the acts, from whatever past: the first moment goes over from the run to the past
    induction acts generalizing past axis with
    | nil => rwa [moments, List.append_nil]
    | cons act acts ih =>
      have hrest := ih _ _ (hstep past axis act h)
      rwa [List.append_assoc] at hrest
  exact key [] start hstart

end Axis

end

/-! ## What every act keeps -/

namespace Axis

/-- What of an axis never changes: its settings, and how many channels and effort samples it has. -/
def build (axis : Axis C) : AxisSettings × Nat × Nat :=
  (axis.settings, axis.channels.length, axis.monitor.samples.length)

theorem build_sense (feedback : Nat → C → C) (axis : Axis C) :
    (axis.sense feedback).build = axis.build := by
  simp [build, sense]

section

variable [MotorChannel C] {axis next : Axis C} {now : Nat}

theorem build_sampleEffort (h : axis.monitor.samples.length = axis.channels.length) :
    axis.sampleEffort.build = axis.build := by
  simp [build, sampleEffort, h]

theorem build_endDestress (state : AxisState) (axis : Axis C) :
    (axis.endDestress state).build = axis.build := by
  unfold endDestress
  split
  · simp [build, setAllEnabled, mapChannels]
  · rfl

theorem build_abort (axis : Axis C) : axis.abort.build = axis.build := by
  unfold abort
  dsimp only
  split
  · refine (build_endDestress axis.state { axis.stopAll with stopRequested := false }).trans ?_
    simp [build, stopAll, mapChannels]
  · simp [build, stopAll, mapChannels]

theorem build_issue {increments : Int} {velocity accel torque : Single} :
    (axis.issue increments velocity accel torque now).build = axis.build := by
  unfold issue
  dsimp only
  split <;> simp [build, applyTorqueLimit, recordOrigins, mapChannels, EffortMonitor.reset]

theorem CallCase.build_eq {call : AxisCall} (h : axis.CallCase call next) :
    next.build = axis.build := by
  cases h with
  | move => exact build_issue
  | home => simp [build, applyTorqueLimit, mapChannels]
  | stop => simp [build, mapChannels]
  | clear | unfaulted | discard => rfl
  | abort => exact build_abort axis
  | enable => simp [build, Axis.enable, setAllEnabled, mapChannels]
  | disable =>
    rw [← build_abort axis]
    simp [build, Axis.disable, setAllEnabled, mapChannels]

theorem HomingCase.build_eq {session : HomingSession} {event : Option AxisEvent}
    (h : axis.HomingCase session now next event) : next.build = axis.build := by
  cases h with
  | @fail channels next fault hwalked =>
    have hstop : ({ axis with channels }.stopAll).build = axis.build := by
      simp [build, stopAll, mapChannels, hwalked.length_eq]
    exact (build_endDestress (.homing next) { axis with channels }.stopAll).trans hstop
  | wait | depart | retreat => rfl
  | start =>
    simp [build, startLeg, continueHoming, applyTorqueLimit, recordOrigins, mapChannels,
      EffortMonitor.reset]
  | seek hphase hwalk | find hphase hwalk =>
    have hlength : _ = axis.channels.length := (length_of_walk hwalk).1
    simp [build, hlength]
  | zero | settle | release => simp [build, setAllEnabled, mapChannels]

theorem UpdateCase.build_eq {event : Option AxisEvent} (h : axis.UpdateCase now next event)
    (hsamples : axis.monitor.samples.length = axis.channels.length) :
    next.build = axis.build := by
  rw [← build_sampleEffort hsamples]
  cases h with
  | report | rest | go | depart | giveUp | arrive => rfl
  | hardware =>
    refine (build_endDestress axis.state axis.sampleEffort.stopAll).trans ?_
    simp [build, stopAll, mapChannels]
  | fail => simp [build, failMove, stopAll, mapChannels]
  | homing hpending hstate hcase => exact hcase.build_eq

/-- **No act changes the build of an axis.** -/
theorem Step.build_eq {act : AxisAct C} {event : Option AxisEvent} {call? : Option AxisCall}
    (h : axis.Step act next event call?)
    (hsamples : axis.monitor.samples.length = axis.channels.length) :
    next.build = axis.build := by
  cases h with
  | sense feedback => exact build_sense feedback axis
  | accept hcase => exact hcase.build_eq
  | refuse => rfl
  | update now => exact (axis.update_case now).build_eq hsamples

end

end Axis

/-! ## Axes that have been built -/

/-- A homing run with the settings and the torque limit of its axis. -/
structure HomingSession.Fits (session : HomingSession) (axis : Axis C) : Prop where
  settings : session.settings = axis.settings.homing
  torque : isTorqueLimit session.torque = true
  limit : axis.torqueLimit = session.torque
  hits : session.hits.length = maxChannels

theorem HomingSession.Fits.congr {session : HomingSession} {axis next : Axis C}
    (h : session.Fits axis) (hsettings : next.settings = axis.settings)
    (hlimit : next.torqueLimit = axis.torqueLimit) : session.Fits next :=
  ⟨hsettings ▸ h.settings, h.torque, hlimit.trans h.limit, h.hits⟩

namespace Axis

/-- What holds of an axis that has been built, whatever comes to it: there is an effort sample for
each channel, only the end of a move or an abort waits to be reported, and a homing run is its
own. -/
structure IsSound (axis : Axis C) : Prop where
  channels_le : axis.channels.length ≤ maxChannels
  samples : axis.monitor.samples.length = axis.channels.length
  pending : ∀ event, axis.pending = some event → event = .done ∨ event = .aborted
  session : ∀ session, axis.state = .homing session → session.Fits axis

theorem atRest_of_ofChannels {settings : AxisSettings} {channels : List C} {axis : Axis C}
    (h : ofChannels settings channels = .ok axis) :
    axis.state = .standby ∧ axis.pending = none ∧ axis.isHomed = false := by
  unfold ofChannels at h
  split at h
  · cases h
  · cases h
    exact ⟨rfl, rfl, rfl⟩

/-- An axis is built from as many channels as its settings say. -/
theorem exists_ofChannels {settings : AxisSettings} {channels : List C} (hsome : channels ≠ [])
    (hfew : channels.length ≤ maxChannels) (hcount : channels.length = settings.channels.toNat) :
    ∃ axis, ofChannels settings channels = .ok axis := by
  refine ⟨_, if_neg ?_⟩
  rintro (hnone | hmany | hother)
  · exact hsome (List.isEmpty_iff.1 hnone)
  · omega
  · exact hother hcount

theorem built_of_ofChannels {settings : AxisSettings} {channels : List C} {axis : Axis C}
    (h : ofChannels settings channels = .ok axis) :
    axis.settings = settings ∧ axis.channels = channels ∧ channels ≠ [] := by
  unfold ofChannels at h
  split at h
  · cases h
  · rename_i hcount
    cases h
    have hsome : ¬ channels.isEmpty = true := (not_or.1 hcount).1
    exact ⟨rfl, rfl, fun hnone => hsome (hnone ▸ rfl)⟩

theorem isSound_of_ofChannels {settings : AxisSettings} {channels : List C} {axis : Axis C}
    (h : ofChannels settings channels = .ok axis) : axis.IsSound := by
  obtain ⟨hstate, hpending, -⟩ := atRest_of_ofChannels h
  unfold ofChannels at h
  split at h
  · cases h
  · rename_i hcount
    cases h
    have hle : channels.length ≤ maxChannels := by
      have := not_or.1 (not_or.1 hcount).2
      omega
    refine ⟨hle, by simp [EffortMonitor.ofCount, Nat.min_eq_left hle], ?_, ?_⟩
    · intro event hevent
      rw [hpending] at hevent
      cases hevent
    · intro session hsession
      rw [hstate] at hsession
      cases hsession

section

variable [MotorChannel C] {axis next : Axis C} {now : Nat}

/-- An accepted call leaves what waits to be reported, or drops it, or puts the end of a move or
an abort in its place. -/
theorem CallCase.pending {call : AxisCall} (h : axis.CallCase call next)
    (hpending : ∀ event, axis.pending = some event → event = .done ∨ event = .aborted) :
    ∀ event, next.pending = some event → event = .done ∨ event = .aborted := by
  have aborted : ∀ event, axis.abort.pending = some event → event = .done ∨ event = .aborted := by
    intro event hevent
    rcases axis.abort_cases with ⟨-, -, hp⟩ | ⟨-, -, hp⟩
    · rw [hp] at hevent
      cases hevent
      exact .inr rfl
    · exact hpending event (hp ▸ hevent)
  cases h with
  | @move _ increments velocity accel torque now =>
    intro event hevent
    rcases axis.issue_cases increments velocity accel torque now with ⟨-, hp⟩ | ⟨-, hp⟩
    · exact hpending event (hp ▸ hevent)
    · rw [hp] at hevent
      cases hevent
      exact .inl rfl
  | home | discard => nofun
  | stop | clear | unfaulted | enable => exact hpending
  | abort | disable => exact aborted

/-- An accepted call begins a homing run of the axis, or leaves the one that goes on, or ends it. -/
theorem CallCase.homing {call : AxisCall} (h : axis.CallCase call next) {session : HomingSession}
    (hstate : next.state = .homing session) :
    (axis.state = .standby ∧ ∃ maxTravel torque now, call = .home maxTravel torque now ∧
        session = .start axis.settings.homing maxTravel torque now ∧
        isTorqueLimit torque = true ∧ next.torqueLimit = torque) ∨
      axis.state = .homing session ∧ next.torqueLimit = axis.torqueLimit := by
  have aborted {axis' : Axis C} (hsame : axis'.state = axis.abort.state)
      (hstate : axis'.state = .homing session) : False := by
    rw [hsame] at hstate
    rcases axis.abort_cases with ⟨-, hs, -⟩ | ⟨hbusy, hs, -⟩
    · rw [hs] at hstate
      cases hstate
    · rw [hs] at hstate
      rw [hstate] at hbusy
      cases hbusy
  cases h with
  | @move _ increments velocity accel torque now hcall hstandby =>
    rcases axis.issue_cases increments velocity accel torque now with ⟨hs, -⟩ | ⟨hs, -⟩
    · rw [hs] at hstate
      cases hstate
    · rw [hs, hstandby] at hstate
      cases hstate
  | @home maxTravel torque now hstandby htorque =>
    cases hstate
    exact .inl ⟨hstandby, maxTravel, torque, now, rfl, rfl, htorque, rfl⟩
  | clear => cases hstate
  | stop | unfaulted | discard | enable => exact .inr ⟨hstate, rfl⟩
  | abort => exact (aborted rfl hstate).elim
  | disable => exact (aborted rfl hstate).elim

theorem HomingCase.fits {session : HomingSession} {event : Option AxisEvent}
    (h : axis.HomingCase session now next event) (hfits : session.Fits axis)
    {session' : HomingSession} (hstate : next.state = .homing session') : session'.Fits next := by
  cases h with
  | fail | zero | settle => cases hstate
  | wait => cases hstate; exact ⟨hfits.settings, hfits.torque, hfits.limit, hfits.hits⟩
  | start => cases hstate; exact ⟨hfits.settings, hfits.torque, rfl, List.length_replicate⟩
  | depart | retreat | release =>
    cases hstate; exact ⟨hfits.settings, hfits.torque, hfits.limit, hfits.hits⟩
  | @seek leg channels hits hphase hwalk | @find leg channels hits hphase hwalk =>
    have hlength : hits.length = session.hits.length := (length_of_walk hwalk).2
    cases hstate
    exact ⟨hfits.settings, hfits.torque, hfits.limit, hlength.trans hfits.hits⟩

theorem UpdateCase.fits {event : Option AxisEvent} (h : axis.UpdateCase now next event)
    (hfits : ∀ session, axis.state = .homing session → session.Fits axis)
    {session : HomingSession} (hstate : next.state = .homing session) : session.Fits next := by
  rcases h.homing_before hstate with ⟨hsame, hsettings, hlimit, -⟩ | ⟨before, hbefore, hcase⟩
  · exact (hfits session hsame).congr hsettings hlimit
  · exact hcase.fits ((hfits before hbefore).congr rfl rfl) hstate

/-- **Every act keeps an axis sound.** -/
theorem Step.isSound {act : AxisAct C} {event : Option AxisEvent} {call? : Option AxisCall}
    (h : axis.Step act next event call?) (hsound : axis.IsSound) : next.IsSound := by
  have hbuild := h.build_eq hsound.samples
  simp only [build, Prod.mk.injEq] at hbuild
  obtain ⟨hsettings, hchannels, hsamples⟩ := hbuild
  refine ⟨hchannels ▸ hsound.channels_le, ?samples, ?pending, ?session⟩
  case samples => rw [hsamples, hchannels, hsound.samples]
  case pending =>
    cases h with
    | sense | refuse => exact hsound.pending
    | accept hcase => exact hcase.pending hsound.pending
    | update now =>
      rw [axis.update_pending now]
      nofun
  case session =>
    intro session hstate
    cases h with
    | sense => exact (hsound.session session hstate).congr rfl rfl
    | refuse => exact hsound.session session hstate
    | accept hcase =>
      rcases hcase.homing hstate with ⟨-, _, _, _, -, rfl, htorque, hlimit⟩ | ⟨hsame, hlimit⟩
      · exact ⟨congrArg AxisSettings.homing hsettings.symm, htorque, hlimit,
          List.length_replicate⟩
      · exact (hsound.session session hsame).congr hsettings hlimit
    | update now => exact (axis.update_case now).fits hsound.session hstate

/-- **An axis that has been built is sound all along a run.** -/
theorem isSound_run {settings : AxisSettings} {channels : List C} {start : Axis C}
    (hstart : ofChannels settings channels = .ok start) (acts : List (AxisAct C)) :
    (start.run acts).IsSound := by
  have hstep (past : List (Moment C)) (axis : Axis C) (act : AxisAct C) (h : axis.IsSound) :
      (Moment.next ⟨axis, act⟩).IsSound := (Moment.step ⟨axis, act⟩).isSound h
  exact run_induction (fun _ axis => axis.IsSound) hstep acts (isSound_of_ofChannels hstart)

/-- The settings are those that the axis has been built with. -/
theorem settings_run {settings : AxisSettings} {channels : List C} {start : Axis C}
    (hstart : ofChannels settings channels = .ok start) (acts : List (AxisAct C)) :
    (start.run acts).settings = settings := by
  have hbuilt : start.settings = settings ∧ start.IsSound :=
    ⟨(built_of_ofChannels hstart).1, isSound_of_ofChannels hstart⟩
  refine (run_induction (fun _ axis => axis.settings = settings ∧ axis.IsSound) ?_ acts hbuilt).1
  intro past axis act ⟨hsettings, hsound⟩
  have hbuild := (Moment.step ⟨axis, act⟩).build_eq hsound.samples
  exact ⟨(congrArg Prod.fst hbuild).trans hsettings, (Moment.step ⟨axis, act⟩).isSound hsound⟩

end

end Axis

/-! ### An axis with one motor -/

/-- An axis with one motor and the default settings. -/
def spindle : Axis ScriptedChannel where
  settings := {}
  channels := [{}]
  monitor := .ofCount 1 0.2
  origins := [0]

theorem spindle_isBuilt : Axis.ofChannels {} [{}] = .ok spindle := rfl

/-- Something happens to every motor, and an update follows. -/
def senseUpdate (now : Nat) (feedback : ScriptedChannel → ScriptedChannel) :
    List (AxisAct ScriptedChannel) :=
  [.sense fun _ => feedback, .update now]

/-- A homing run: the motor stalls at the end of both searches. -/
def spindleHoming : List (AxisAct ScriptedChannel) :=
  let stall (effort : Single) (c : ScriptedChannel) : ScriptedChannel :=
    { c with effort := some effort }
  .call (.home 100 50 1) :: (List.mapIdx (fun i => senseUpdate (i + 1))
    [id, id, stall 80, stall 0, id, ScriptedChannel.finish, id, id, stall 80, stall 0, id,
      ScriptedChannel.finish, id]).flatten

/-! ### An axis with simulated motors -/

/-- An axis that homes on endstops, with a motor for each start delay. -/
def slide (delays : List UInt32) : Axis SimulatedChannel where
  settings :=
    { channels := .ofNat delays.length, stepsPerUnit := 1, travelMin := -100
      travelMax := 100000000
      homing :=
        { mode := .sensor, rapidSpeed := 100, backoffSpeed := 100, slowSpeed := 100, accel := 100
          backoffDistance := 20, slowSearchDistance := 40, offsetDistance := 20 } }
  channels := delays.map fun startDelay => .ofPosition { endstopMin := some (-20), startDelay } 0
  monitor := .ofCount delays.length 0.2
  origins := delays.map fun _ => 0

theorem slide_isBuilt :
    Axis.ofChannels (slide [0]).settings (slide [0]).channels = .ok (slide [0]) := rfl

/-- The motors are given some time, and an update follows. -/
def advanceUpdate (now dt : Nat) : List (AxisAct SimulatedChannel) :=
  [.sense fun _ => SimulatedChannel.advance dt, .update now]

/-- A homing run, which is given a number of tenths of a second. -/
def slideHoming (tenths : Nat) : List (AxisAct SimulatedChannel) :=
  .call (.home 40 50 0) :: (List.range tenths).flatMap fun i => advanceUpdate (100 * (i + 1)) 100

end MotionControl
