import MotionControl.Proofs.Energized
import MotionControl.Proofs.Offset

/-!
# Homing by torque squares an axis

Each motor of an axis that homes by torque is referenced by its own hard stop: a search ends with
every motor at rest at its stop, and from there all of them go by the same offset.

* `Drive`: what comes to an axis whose motors nothing else moves.
* `IsTorqueRig`: such an axis with one hard stop for each motor.
* `HomesSquarely`, `IsSquaring`: what every drive preserves; `IsSquaring.step`, `IsSquaring.run`.
* `homing_squares`: **a completed homing run leaves every motor off its own stop by the offset.**
* `homing_squares_not`: an offset towards the stops leaves them where they are.
-/

namespace MotionControl

/-! ## Axes and what comes to them -/

/-- What comes to an axis whose motors nothing else moves: a call, an update, or some time, the
same for every motor. -/
inductive Drive where
  | call (call : AxisCall)
  | update (now : Nat)
  | advance (dt : Nat)
deriving DecidableEq

namespace Drive

def act : Drive → AxisAct SimulatedChannel
  | call axisCall => .call axisCall
  | update now => .update now
  | advance dt => .sense fun _ => SimulatedChannel.advance dt

/-- The torque limit of a homing run that is called for. -/
def homingTorque? : Drive → Option Single
  | call (.home _ torque _) => some torque
  | _ => none

/-- A homing run is not called for with a torque limit below the effort of stepping freely. -/
def Spares (channels : List SimulatedChannel) (drive : Drive) : Prop :=
  ∀ torque ∈ drive.homingTorque?, ∀ c ∈ channels, c.mechanics.baseEffort.abs ≤ torque

instance (channels : List SimulatedChannel) (drive : Drive) : Decidable (drive.Spares channels) :=
  inferInstanceAs (Decidable (∀ torque ∈ drive.homingTorque?, ∀ c ∈ channels,
    c.mechanics.baseEffort.abs ≤ torque))

end Drive

/-- An axis that homes by torque. Each motor has a hard stop on the side of the reference and none
on the other side, and all have one start delay. -/
structure IsTorqueRig (settings : AxisSettings) (channels : List SimulatedChannel) : Prop where
  mode : settings.homing.mode = .torque
  stops : ∀ c ∈ channels, c.HasOneStop settings.homing.direction
  delay : ∃ delay, ∀ c ∈ channels, c.mechanics.startDelay = delay

/-! ## Exact runs -/

namespace Axis

/-- The leg that the next update starts, if it does. -/
def startedLeg? {C : Type} (axis : Axis C) : Option (HomingSession × Leg) :=
  match axis.state with
  | .homing session =>
    match session.phase with
    | .leg leg .start => some (session, leg)
    | _ => none
  | _ => none

/-- The displacement of a leg, before it is read as increments. -/
def legDisplacement {C : Type} (session : HomingSession) (leg : Leg) (axis : Axis C) : Single :=
  leg.sign session.settings * leg.distance session.settings session.maxTravel *
    axis.settings.stepsPerUnit

/-- Nothing is rounded or cut off in what comes to an axis: neither the displacement of a leg and
where it goes to, nor the sums of the motors. -/
def IsExactFor (axis : Axis SimulatedChannel) : Drive → Prop
  | .call _ => True
  | .update _ => ∀ started ∈ axis.startedLeg?,
      (axis.legDisplacement started.1 started.2).ReadsExactly ∧
        ∀ c ∈ axis.channels, c.StartsExactly (axis.legIncrements started.1 started.2)
  | .advance dt => ∀ c ∈ axis.channels, c.AdvancesExactly dt

instance (axis : Axis SimulatedChannel) (drive : Drive) : Decidable (axis.IsExactFor drive) :=
  match drive with
  | .call _ => .isTrue trivial
  | .update _ => inferInstanceAs (Decidable (∀ started ∈ axis.startedLeg?,
      (axis.legDisplacement started.1 started.2).ReadsExactly ∧
        ∀ c ∈ axis.channels, c.StartsExactly (axis.legIncrements started.1 started.2)))
  | .advance dt => inferInstanceAs (Decidable (∀ c ∈ axis.channels, c.AdvancesExactly dt))

/-- Nothing is rounded or cut off in a run. -/
def RunsExactly : Axis SimulatedChannel → List Drive → Prop
  | _, [] => True
  | axis, drive :: drives =>
    axis.IsExactFor drive ∧ RunsExactly (Moment.next ⟨axis, drive.act⟩) drives

instance decidableRunsExactly :
    (axis : Axis SimulatedChannel) → (drives : List Drive) → Decidable (axis.RunsExactly drives)
  | _, [] => .isTrue trivial
  | axis, drive :: drives =>
    have := decidableRunsExactly (Moment.next ⟨axis, drive.act⟩) drives
    inferInstanceAs (Decidable (axis.IsExactFor drive ∧
      RunsExactly (Moment.next ⟨axis, drive.act⟩) drives))

/-! ## What every drive preserves -/

open SimulatedChannel (Stands)

/-- A homing run on the way to square the axis, whose motors were `bases` at first. -/
structure HomesSquarely (settings : AxisSettings) (bases : List SimulatedChannel)
    (axis : Axis SimulatedChannel) (session : HomingSession) : Prop where
  spared : ∀ c ∈ bases, c.mechanics.baseEffort.abs ≤ session.torque
  energized : session.phase.isDestress = false → axis.IsSwitched true
  noHits : ∀ leg, session.phase = .leg leg .waitStart → session.hits = HomingSession.noHits
  /-- A motor that has been hit rests at its stop. -/
  hits : ∀ leg, session.phase = .leg leg .moving → ∀ (i : Nat) c, axis.channels[i]? = some c →
    session.hits[i]? = some true → c.AtStop settings.homing.direction
  course : OffsetCourse settings axis.channels axis.origins session.phase

/-- An axis whose motors were `bases` at first. -/
structure IsSquaring (settings : AxisSettings) (bases : List SimulatedChannel)
    (axis : Axis SimulatedChannel) : Prop where
  sound : axis.IsSound
  built : axis.settings = settings
  tied : axis.IsTied (Stands settings.homing.direction) bases
  homing : ∀ session, axis.state = .homing session → axis.HomesSquarely settings bases session

section

variable {settings : AxisSettings} {bases : List SimulatedChannel}
  {axis next : Axis SimulatedChannel} {session session' : HomingSession} {now : Nat}
  {event : Option AxisEvent}

theorem IsSquaring.stands (h : axis.IsSquaring settings bases) {c : SimulatedChannel}
    (hc : c ∈ axis.channels) :
    c.HasOneStop settings.homing.direction ∧ ∃ b ∈ bases, c.mechanics = b.mechanics := by
  obtain ⟨b, hb, hstands⟩ := h.tied.of_mem hc
  exact ⟨hstands.oneStop, b, hb, hstands.mechanics⟩

/-- The walk of a search leaves every motor that it has hit at rest at its stop. -/
theorem IsSquaring.walk (h : axis.IsSquaring settings bases)
    (hmode : settings.homing.mode = .torque) (hstate : axis.state = .homing session) {leg : Leg}
    (hphase : session.phase = .leg leg .moving) {channels : List SimulatedChannel}
    {hits : List Bool} {failure : Option HomingFailure}
    (hwalk : searchChannels session.settings.mode axis.sampleEffort.torqueLimit
      axis.sampleEffort.channels axis.sampleEffort.monitor.samples session.hits =
        (channels, hits, failure)) :
    ∀ (i : Nat) c, channels[i]? = some c → hits[i]? = some true →
      c.AtStop settings.homing.direction := by
  have hhoming := h.homing session hstate
  refine atStop_of_walk (h.sound.session session hstate) (h.built ▸ hmode) ?_ hwalk
    (hhoming.hits leg hphase)
  intro c hc
  obtain ⟨hone, b, hb, hmechanics⟩ := h.stands hc
  exact ⟨hone, hmechanics ▸ hhoming.spared b hb⟩

/-- A hit is that of a motor that rests at its stop. -/
theorem IsSquaring.hits (h : axis.IsSquaring settings bases)
    (hmode : settings.homing.mode = .torque) (hstate : axis.state = .homing session)
    (hcase : axis.sampleEffort.HomingCase session now next event)
    (hnext : next.state = .homing session') {leg : Leg}
    (hphase : session'.phase = .leg leg .moving) (i : Nat) (c : SimulatedChannel)
    (hc : next.channels[i]? = some c) (hhit : session'.hits[i]? = some true) :
    c.AtStop settings.homing.direction := by
  have hhoming := h.homing session hstate
  cases hcase with
  | fail | zero | settle => cases hnext
  | wait =>
    cases hnext
    exact hhoming.hits leg hphase i c hc hhit
  | start | release =>
    cases hnext
    cases hphase
  | depart hwait =>
    cases hnext
    cases hphase
    -- the hits of the leg before were cleared as this one started
    have hnone : session.hits[i]? = some true := hhit
    rw [hhoming.noHits leg hwait] at hnone
    simp [HomingSession.noHits, List.getElem?_replicate] at hnone
  | seek hmoving hwalk =>
    cases hnext
    exact h.walk hmode hstate hmoving hwalk i c hc hhit
  | find | retreat =>
    cases hnext
    cases HomingPhase.stage_of_after hphase

/-- A search that ends leaves every motor at rest at its stop. -/
theorem IsSquaring.found (h : axis.IsSquaring settings bases)
    (hmode : settings.homing.mode = .torque) (hstate : axis.state = .homing session) {leg : Leg}
    (hphase : session.phase = .leg leg .moving) {channels : List SimulatedChannel}
    {hits : List Bool} {failure : Option HomingFailure}
    (hwalk : searchChannels session.settings.mode axis.sampleEffort.torqueLimit
      axis.sampleEffort.channels axis.sampleEffort.monitor.samples session.hits =
        (channels, hits, failure))
    (hall : { session with hits }.allHit channels.length = true) :
    ∀ c ∈ channels, c.AtStop settings.homing.direction := by
  obtain ⟨hchannels, hhits⟩ := length_of_walk hwalk
  have hlength : hits.length = maxChannels :=
    hhits.trans (h.sound.session session hstate).hits
  have hcount : channels.length ≤ hits.length := by
    rw [hlength, hchannels]
    exact h.sound.channels_le
  intro c hc
  obtain ⟨i, hi, rfl⟩ := List.getElem_of_mem hc
  exact h.walk hmode hstate hphase hwalk i _ (List.getElem?_eq_getElem hi)
    (HomingSession.hit_of_allHit hall hcount hi)

/-- The increments of the offset leg. -/
theorem IsSquaring.legIncrements_eq (h : axis.IsSquaring settings bases)
    (hstate : axis.state = .homing session)
    (hexact : (axis.legDisplacement session .setOffset).ReadsExactly) :
    axis.legIncrements session .setOffset =
      -settings.homing.direction.toInt * settings.offsetIncrements := by
  have hsettings : session.settings = settings.homing :=
    h.built ▸ (h.sound.session session hstate).settings
  have hread : axis.legIncrements session .setOffset =
      (axis.legDisplacement session .setOffset).nearestInt := hexact.toCounter
  have hdisplacement : axis.legDisplacement session .setOffset =
      -settings.homing.direction.sign * settings.homing.offsetDistance *
        settings.stepsPerUnit := by
    rw [legDisplacement, hsettings, h.built]
    rfl
  have hfinite := hexact.finite
  rw [hdisplacement] at hfinite hread
  rw [hread, Single.nearestInt_away_mul _ hfinite]
  rfl

/-- **The start of the offset leg** takes the motors from their stops on their way. -/
theorem IsSquaring.departs (h : axis.IsSquaring settings bases) (hrig : IsTorqueRig settings bases)
    (hexact : axis.IsExactFor (.update now)) (hstate : axis.state = .homing session)
    (hphase : session.phase = .leg .setOffset .start) :
    OffsetLeg settings (axis.startLeg session .setOffset now).1.channels
      (axis.startLeg session .setOffset now).1.origins .waitStart := by
  have hhoming := h.homing session hstate
  have hstops : ∀ c ∈ axis.channels, c.AtStop settings.homing.direction := by
    have hcourse := hhoming.course
    rw [hphase] at hcourse
    exact hcourse
  have hlimited : OffsetLeg settings
      (axis.channels.map (MotorChannel.setTorqueLimit session.torque)) axis.origins .start :=
    List.forall_mem_map.2 fun c hc => ⟨(hstops c hc).rests, (hstops c hc).touches⟩
  have henabled : axis.IsSwitched true := hhoming.energized (by rw [hphase]; rfl)
  obtain ⟨delay, hdelay⟩ := hrig.delay
  have hdelayed : ∀ c ∈ axis.channels.map (MotorChannel.setTorqueLimit session.torque),
      c.mechanics.startDelay = delay := by
    refine List.forall_mem_map.2 fun c hc => ?_
    obtain ⟨-, b, hb, hmechanics⟩ := h.stands hc
    exact (congrArg Mechanics.startDelay hmechanics).trans (hdelay b hb)
  have hstarted : (session, Leg.setOffset) ∈ axis.startedLeg? := by
    simp [startedLeg?, hstate, hphase]
  obtain ⟨hread, hsums⟩ := hexact _ hstarted
  exact hlimited.depart (List.forall_mem_map.2 henabled)
    (List.forall_mem_map.2 fun c hc => (h.stands hc).1.healthy) hdelayed
    (h.legIncrements_eq hstate hread)
    (List.forall_mem_map.2 fun c hc => ⟨(hsums c hc).value, (hsums c hc).target⟩)

/-- **An update of a homing run** takes the motors further on their course. -/
theorem IsSquaring.course (h : axis.IsSquaring settings bases) (hrig : IsTorqueRig settings bases)
    (hexact : axis.IsExactFor (.update now)) (hstate : axis.state = .homing session)
    (hcase : axis.sampleEffort.HomingCase session now next event)
    (hnext : next.state = .homing session') :
    OffsetCourse settings next.channels next.origins session'.phase := by
  have hhoming := h.homing session hstate
  have hcourse := hhoming.course
  cases hcase with
  | fail | zero | settle => cases hnext
  | wait =>
    cases hnext
    exact hcourse
  | @start leg hphase =>
    cases hnext
    cases leg with
    | rapidSearch | backoff | slowSearch => exact trivial
    | setOffset =>
      exact h.departs hrig hexact hstate hphase
  | @depart leg hphase hmotion =>
    cases hnext
    cases leg with
    | rapidSearch | backoff | slowSearch => exact trivial
    | setOffset =>
      rw [hphase] at hcourse
      obtain ⟨hway, hwait | hstarted⟩ := hcourse
      · -- the leg goes on only when motion shows, which waiting motors do not do
        have hstill : axis.motionStarted = false := AllWait.not_motionStarted hwait
        have hmotion : axis.motionStarted = true := hmotion
        rw [hstill] at hmotion
        cases hmotion
      · exact ⟨hway, hstarted⟩
  | @seek leg channels hits hphase hwalk hsearch =>
    cases hnext
    show OffsetCourse settings channels axis.origins session.phase
    rw [hphase]
    cases leg with
    | rapidSearch | slowSearch => exact trivial
    | backoff | setOffset => cases hsearch
  | @find leg channels hits hphase hwalk hall hsearch =>
    cases hnext
    cases leg with
    | rapidSearch => exact trivial
    | slowSearch => exact h.found hrig.mode hstate hphase hwalk hall
    | backoff | setOffset => cases hsearch
  | @retreat leg hphase hretreat hrest =>
    cases hnext
    cases leg with
    | rapidSearch | slowSearch => cases hretreat
    | backoff => exact trivial
    | setOffset =>
      rw [hphase] at hcourse
      -- none waits any more, so where nothing steps every motor has arrived
      have hleg : OffsetLeg settings axis.channels axis.origins .moving := hcourse
      refine hleg.arrive fun c hc hstepping => ?_
      have hany : axis.anyStepping = true :=
        List.any_eq_true.2 ⟨c, hc, beq_iff_eq.2 hstepping⟩
      have hrest : axis.anyStepping = false := hrest
      rw [hrest] at hany
      cases hany
  | release hphase =>
    cases hnext
    rw [hphase] at hcourse
    refine List.forall_mem_map.2 (List.forall_mem_map.2 fun c hc => ?_)
    obtain ⟨hsquare, hzero⟩ := (hcourse c hc).setZero
    exact ⟨⟨rfl, hsquare.clear⟩, hzero⟩

/-- **An update of a homing run** keeps it on the way to square the axis. -/
theorem IsSquaring.homesSquarely (h : axis.IsSquaring settings bases)
    (hrig : IsTorqueRig settings bases) (hexact : axis.IsExactFor (.update now))
    (hstate : axis.state = .homing session)
    (hcase : axis.sampleEffort.HomingCase session now next event)
    (hnext : next.state = .homing session') : next.HomesSquarely settings bases session' := by
  have hhoming := h.homing session hstate
  refine ⟨?spared, ?energized, ?noHits, ?hits, h.course hrig hexact hstate hcase hnext⟩
  case spared =>
    rw [(hcase.goesOn hnext).torque]
    exact hhoming.spared
  case energized =>
    intro hphase
    exact hcase.isSwitched hhoming.energized (by rw [hnext]; exact hphase)
  case noHits => exact fun leg hphase => hcase.noHits hnext hphase (hhoming.noHits leg)
  case hits => exact fun leg hphase => h.hits hrig.mode hstate hcase hnext hphase

/-- What an accepted call leaves of a homing run, or begins. -/
theorem CallCase.homing_channels {call : AxisCall} (h : axis.CallCase call next)
    (hnext : next.state = .homing session) :
    (∃ maxTravel torque now, call = .home maxTravel torque now ∧
        session = .start axis.settings.homing maxTravel torque now ∧ axis.allEnabled = true ∧
        next.channels = axis.channels.map (MotorChannel.setTorqueLimit torque)) ∨
      axis.state = .homing session ∧ next.origins = axis.origins ∧
        (next.channels = axis.channels ∨
          next.channels = axis.channels.map (SimulatedChannel.setEnabled true)) := by
  cases h with
  | @move _ increments velocity accel torque now hmove hstandby =>
    rcases axis.issue_cases increments velocity accel torque now with ⟨hs, -⟩ | ⟨hs, -⟩
    · rw [hs] at hnext
      cases hnext
    · rw [hs, hstandby] at hnext
      cases hnext
  | home hstandby htorque henabled =>
    cases hnext
    exact .inl ⟨_, _, _, rfl, rfl, henabled, rfl⟩
  | stop hmoving =>
    rw [show axis.state = .homing session from hnext] at hmoving
    cases hmoving
  | clear => cases hnext
  | unfaulted | discard => exact .inr ⟨hnext, rfl, .inl rfl⟩
  | abort => exact absurd hnext (axis.not_homing_abort session)
  | enable => exact .inr ⟨hnext, rfl, .inr rfl⟩
  | disable => exact absurd hnext (axis.not_homing_abort session)

/-- What leaves every motor energized, at its stop and on its course keeps the run on its way. -/
theorem HomesSquarely.map {f : SimulatedChannel → SimulatedChannel}
    (h : axis.HomesSquarely settings bases session)
    (hchannels : next.channels = axis.channels.map f)
    (henabled : ∀ c, c.enabled = true → (f c).enabled = true)
    (hstop : ∀ c, c.AtStop settings.homing.direction → (f c).AtStop settings.homing.direction)
    (hcourse : OffsetCourse settings (axis.channels.map f) next.origins session.phase) :
    next.HomesSquarely settings bases session := by
  refine ⟨h.spared, fun hphase => ?_, h.noHits, fun leg hphase i c hc hhit => ?_, ?_⟩
  · unfold IsSwitched
    rw [hchannels]
    exact List.forall_mem_map.2 fun c hc => henabled c (h.energized hphase c hc)
  · rw [hchannels, List.getElem?_map, Option.map_eq_some_iff] at hc
    obtain ⟨before, hbefore, rfl⟩ := hc
    exact hstop before (h.hits leg hphase i before hbefore hhit)
  · rw [hchannels]
    exact hcourse

theorem HomesSquarely.congr (h : axis.HomesSquarely settings bases session)
    (hchannels : next.channels = axis.channels) (horigins : next.origins = axis.origins) :
    next.HomesSquarely settings bases session := by
  have hsame : next.channels = axis.channels.map id := by rw [hchannels, List.map_id]
  refine h.map hsame (fun _ => id) (fun _ => id) ?_
  rw [List.map_id, horigins]
  exact h.course

theorem HomesSquarely.enable (h : axis.HomesSquarely settings bases session)
    (hchannels : next.channels = axis.channels.map (SimulatedChannel.setEnabled true))
    (horigins : next.origins = axis.origins) : next.HomesSquarely settings bases session := by
  refine h.map hchannels (fun _ _ => rfl) (fun _ hstop => ⟨hstop.rests, hstop.touches⟩) ?_
  rw [horigins]
  exact h.course.enable

/-- **An accepted call** leaves a homing run on the way to square the axis, or begins one. -/
theorem IsSquaring.call (h : axis.IsSquaring settings bases) {axisCall : AxisCall}
    (hspares : (Drive.call axisCall).Spares bases) (hcase : axis.CallCase axisCall next)
    (hnext : next.state = .homing session) : next.HomesSquarely settings bases session := by
  rcases hcase.homing_channels hnext with
    ⟨maxTravel, torque, now, rfl, rfl, henabled, hchannels⟩ | ⟨hstate, horigins, hchannels⟩
  · refine ⟨hspares torque rfl, fun _ => ?_, fun leg hphase => ?_, fun leg hphase => ?_, trivial⟩
    rotate_left
    · cases hphase
    · cases hphase
    unfold IsSwitched
    rw [hchannels]
    exact List.forall_mem_map.2 (isSwitched_iff_allEnabled.2 henabled)
  · rcases hchannels with hsame | henable
    · exact (h.homing session hstate).congr hsame horigins
    · exact (h.homing session hstate).enable henable horigins

/-- **Time** keeps a homing run on the way to square the axis. -/
theorem IsSquaring.advance (h : axis.IsSquaring settings bases)
    (hexact : axis.IsExactFor (.advance dt)) :
    (axis.sense fun _ => SimulatedChannel.advance dt).IsSquaring settings bases := by
  have hchannels : (axis.sense fun _ => SimulatedChannel.advance dt).channels =
      axis.channels.map (SimulatedChannel.advance dt) :=
    List.ext_getElem? fun i => by simp [sense]
  refine ⟨Step.isSound (.sense _) h.sound, h.built, ?tied, fun session hstate => ?homing⟩
  case tied =>
    unfold IsTied
    rw [hchannels]
    exact List.forall₂_map_right_iff.2 (h.tied.imp fun _ _ hstands => hstands.advance dt)
  case homing =>
    have hhoming := h.homing session hstate
    refine hhoming.map hchannels (fun c henabled => ?_) (fun _ hstop => hstop.advance dt) ?_
    · exact (SimulatedChannel.enabled_advance dt c).trans henabled
    · exact hhoming.course.advance (fun c hc => (h.stands hc).1) hexact

/-- **A homing run that is completed** leaves every motor square and zeroed. -/
theorem IsSquaring.completed (h : axis.IsSquaring settings bases)
    (hcase : axis.UpdateCase now next (some .homed)) :
    ∀ c ∈ next.channels,
      c.IsSquare settings.homing.direction settings.offsetIncrements ∧ c.position = 0 := by
  cases hcase with
  | report hreport => rcases h.sound.pending _ hreport with h | h <;> cases h
  | arrive hnone hstate hfree hrest hevent => split at hevent <;> cases hevent
  | @homing session _ _ hnone hstate hcase =>
    have hcourse := (h.homing session hstate).course
    cases hcase with
    | zero hphase =>
      rw [hphase] at hcourse
      exact List.forall_mem_map.2 fun c hc => (hcourse c hc).setZero
    | settle hphase =>
      rw [hphase] at hcourse
      exact (OffsetCourse.enable hcourse :)

/-- **Every drive** keeps an axis on the way to be squared. -/
theorem IsSquaring.step (h : axis.IsSquaring settings bases) (hrig : IsTorqueRig settings bases)
    {drive : Drive} (hspares : drive.Spares bases) (hexact : axis.IsExactFor drive)
    {accepted? : Option AxisCall} (hstep : axis.Step drive.act next event accepted?) :
    next.IsSquaring settings bases := by
  have hstands := SimulatedChannel.withstands_stands settings.homing.direction
  have hsound := hstep.isSound h.sound
  have hbuilt : next.settings = settings :=
    (congrArg Prod.fst (hstep.build_eq h.sound.samples)).trans h.built
  cases drive with
  | advance dt =>
    cases hstep
    exact h.advance hexact
  | update now =>
    cases hstep
    have hcase := axis.update_case now
    refine ⟨hsound, hbuilt, hcase.isTied hstands h.tied, fun session hnext => ?_⟩
    -- the run has been left as it was, or taken one phase further
    rcases hcase.homing_before hnext with
      ⟨hstate, -, -, hchannels, horigins⟩ | ⟨before, hstate, hcase⟩
    · exact (h.homing session hstate).congr hchannels horigins
    · exact h.homesSquarely hrig hexact hstate hcase hnext
  | call axisCall =>
    cases hstep with
    | accept hcase =>
      exact ⟨hsound, hbuilt, hcase.isTied hstands h.tied, fun session => h.call hspares hcase⟩
    | refuse => exact h

/-- **A run of drives** keeps an axis on the way to be squared. -/
theorem IsSquaring.run (h : axis.IsSquaring settings bases) (hrig : IsTorqueRig settings bases)
    {drives : List Drive} (hspares : ∀ drive ∈ drives, drive.Spares bases)
    (hexact : axis.RunsExactly drives) :
    (axis.run (drives.map Drive.act)).IsSquaring settings bases := by
  induction drives generalizing axis with
  | nil => exact h
  | cons drive drives ih =>
    have hnext := h.step hrig (hspares drive (.head _)) hexact.1 (Moment.step ⟨axis, drive.act⟩)
    exact ih hnext (fun d hd => hspares d (.tail _ hd)) hexact.2

theorem isSquaring_of_ofChannels {channels : List SimulatedChannel}
    (hstart : ofChannels settings channels = .ok axis) (hrig : IsTorqueRig settings channels) :
    axis.channels = channels ∧ axis.IsSquaring settings channels := by
  have hsound := isSound_of_ofChannels hstart
  unfold ofChannels at hstart
  split at hstart
  · cases hstart
  · cases hstart
    refine ⟨rfl, hsound, rfl, List.forall₂_same.2 fun c hc => ⟨rfl, hrig.stops c hc⟩, ?_⟩
    intro session hsession
    cases hsession

end

/-- Nothing is rounded or cut off in a run and the update after it, from the stops as they are given
to the positions as they are read. -/
structure LosesNothing (axis : Axis SimulatedChannel) (drives : List Drive) (now : Nat) : Prop where
  stops : ∀ c ∈ axis.channels, ∀ stop ∈ c.mechanics.hardStop? axis.settings.homing.direction,
    (Single.ofInt stop).HasValue stop
  run : axis.RunsExactly drives
  readings : ∀ c ∈ ((axis.run (drives.map Drive.act)).update now).1.channels,
    c.mechanical.ReadsExactly

end Axis

/-! ## Squares -/

/-- What a motor `c` has become when its axis is homed: it stands at the logical zero, off its own
hard stop by the offset. An offset towards the stop does not move it from there. -/
structure Squared (settings : AxisSettings) (c c' : SimulatedChannel) : Prop where
  position : c'.position = 0
  mechanicalPosition : ∃ stop, c.mechanics.hardStop? settings.homing.direction = some stop ∧
    c'.mechanicalPosition =
      stop - settings.homing.direction.toInt * max 0 settings.offsetIncrements

/-- **A completed homing run squares the axis**: every motor stands off its own hard stop by the
offset, whatever the stops are and whatever time passes between the updates. -/
theorem homing_squares {settings : AxisSettings} {channels : List SimulatedChannel}
    {start : Axis SimulatedChannel} (hstart : Axis.ofChannels settings channels = .ok start)
    (hrig : IsTorqueRig settings channels) (drives : List Drive)
    (hspares : ∀ drive ∈ drives, drive.Spares channels) {now : Nat}
    (hexact : start.LosesNothing drives now)
    (hhomed : ((start.run (drives.map Drive.act)).update now).2 = some .homed) :
    List.Forall₂ (Squared settings) channels
      ((start.run (drives.map Drive.act)).update now).1.channels := by
  obtain ⟨rfl, hbegin⟩ := Axis.isSquaring_of_ofChannels hstart hrig
  have hlast := hbegin.run hrig hspares hexact.run
  have hcase := (start.run (drives.map Drive.act)).update_case now
  rw [hhomed] at hcase
  have hsquare := hlast.completed hcase
  have hstands := hcase.isTied (SimulatedChannel.withstands_stands _) hlast.tied
  -- motor by motor: it is still the motor it was, and it is square
  refine List.forall₂_of_length_eq_of_get hstands.length_eq fun i hi hi' => ?_
  have hstand := hstands.get hi hi'
  have hb := List.getElem_mem hi
  have hc := List.getElem_mem hi'
  obtain ⟨stop, hstop⟩ := Option.isSome_iff_exists.1 (hrig.stops _ hb).stop
  have hvalue : (Single.ofInt stop).HasValue stop :=
    hexact.stops _ hb stop (by rw [hbegin.built]; exact hstop)
  obtain ⟨hclear, hzero⟩ := hsquare _ hc
  refine ⟨hzero, stop, hstop, ?_⟩
  exact hclear.mechanicalPosition (hstand.mechanics ▸ hstop) hvalue (hexact.readings _ hc)

/-! ### A gantry -/

/-- A motor that has been put somewhere and has one hard stop. -/
theorem SimulatedChannel.hasOneStop_ofPosition {direction : Direction} {mechanics : Mechanics}
    (position : Int) (hstop : (mechanics.hardStop? direction).isSome = true)
    (hfree : mechanics.hardStop? direction.opposite = none) :
    (ofPosition mechanics position).HasOneStop direction :=
  ⟨hstop, hfree, rfl, rfl, nofun⟩

/-- An axis that homes by torque, with a motor for each hard stop. -/
def gantry (stops : List Int) (slowSearch offset : Single) : Axis SimulatedChannel where
  settings :=
    { channels := .ofNat stops.length, stepsPerUnit := 1, torqueAlpha := 1
      homing :=
        { rapidSpeed := 100, backoffSpeed := 100, slowSpeed := 100, accel := 100
          backoffDistance := 20, slowSearchDistance := slowSearch, offsetDistance := offset } }
  channels := stops.map fun stop => .ofPosition { hardStopMin := some stop } 0
  monitor := .ofCount stops.length 1
  origins := stops.map fun _ => 0

/-- A homing run with some updates, and some time after each of them. -/
def gantryHoming (maxTravel : Single) (updates dt : Nat) : List Drive :=
  .call (.home maxTravel 50 0) ::
    (List.range updates).flatMap fun i => [.update (dt * i), .advance dt]

theorem gantry_isTorqueRig (stops : List Int) (slowSearch offset : Single) :
    IsTorqueRig (gantry stops slowSearch offset).settings
      (gantry stops slowSearch offset).channels :=
  ⟨rfl, List.forall_mem_map.2 fun _ _ => SimulatedChannel.hasOneStop_ofPosition 0 rfl rfl,
    0, List.forall_mem_map.2 fun _ _ => rfl⟩

/-- The two motors of a gantry find their stops one after the other. -/
theorem homing_squares_gantry :
    (((gantry [-20, -35] 40 20).run ((gantryHoming 60 15 100).map Drive.act)).update 1500).2 =
        some .homed ∧
      List.Forall₂ (Squared (gantry [-20, -35] 40 20).settings)
        (gantry [-20, -35] 40 20).channels
        (((gantry [-20, -35] 40 20).run
          ((gantryHoming 60 15 100).map Drive.act)).update 1500).1.channels := by
  have hhomed : (((gantry [-20, -35] 40 20).run
      ((gantryHoming 60 15 100).map Drive.act)).update 1500).2 = some .homed := by
    decide +kernel
  refine ⟨hhomed, homing_squares rfl (gantry_isTorqueRig ..) (gantryHoming 60 15 100)
    (by decide +kernel) ⟨by decide +kernel, by decide +kernel, by decide +kernel⟩ hhomed⟩

/-- **An offset towards the stops does not move a motor from its stop**: everything else is as it
is to be, the run is completed, and the motor is not where the offset would take it. -/
theorem homing_squares_not :
    Axis.ofChannels (gantry [-20] 300 (-20)).settings (gantry [-20] 300 (-20)).channels =
        .ok (gantry [-20] 300 (-20)) ∧
      IsTorqueRig (gantry [-20] 300 (-20)).settings (gantry [-20] 300 (-20)).channels ∧
      (∀ drive ∈ gantryHoming 300 12 1000, drive.Spares (gantry [-20] 300 (-20)).channels) ∧
      (gantry [-20] 300 (-20)).LosesNothing (gantryHoming 300 12 1000) 12000 ∧
      (gantry [-20] 300 (-20)).settings.offsetIncrements = -20 ∧
      (((gantry [-20] 300 (-20)).run ((gantryHoming 300 12 1000).map Drive.act)).update
        12000).2 = some .homed ∧
      (((gantry [-20] 300 (-20)).run ((gantryHoming 300 12 1000).map Drive.act)).update
        12000).1.channels.map SimulatedChannel.mechanicalPosition = [-20] ∧
      -20 - (gantry [-20] 300 (-20)).settings.homing.direction.toInt *
        (gantry [-20] 300 (-20)).settings.offsetIncrements = -40 :=
  ⟨rfl, gantry_isTorqueRig .., by decide +kernel,
    ⟨by decide +kernel, by decide +kernel, by decide +kernel⟩, by decide +kernel,
    by decide +kernel, by decide +kernel, by decide +kernel⟩

end MotionControl
