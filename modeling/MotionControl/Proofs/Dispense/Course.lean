import MotionControl.Proofs.Lockstep
import MotionControl.Proofs.Numeric.Whole

/-!
# The course of an operation

An operation has a course: where it starts, which way it goes and how many increments it is to go.
It counts its travel in segments, and a segment is counted from where the move began that it is
part of.

* `SteadyChannel`: a channel whose position no command changes at once.
* `Course.Counts`: an operation that has counted its travel up to the start of the segment.
* `Course.Counts.dispensed_foldSegment`: **counting a segment counts all of its travel.**
* `Dispenser.OnCourse`: the invariant of a dispense and its axis; `Obeys.onCourse` and
  `OnCourse.update` keep it.
* `onCourse_of_start`, `OnCourse.resume`: **a start and a resume command the move to the same
  target.**
* `OnCourse.takes_completed`, `OnCourse.obeys_completed`: what is completed at the target has gone
  all of its course.
-/

namespace MotionControl

/-! ## Positions -/

/-- A channel that carries out its commands on its own: one may start or end a motion, but when it
returns the position is what it was. -/
class SteadyChannel (C : Type) [MotorChannel C] : Prop extends
    IgnoresStops (MotorChannel.position : C → Int) where
  moveIncrements : ∀ increments velocity accel (c : C),
    MotorChannel.position (MotorChannel.moveIncrements increments velocity accel c) =
      MotorChannel.position c
  setTorqueLimit : ∀ percent (c : C),
    MotorChannel.position (MotorChannel.setTorqueLimit percent c) = MotorChannel.position c

instance : SteadyChannel ScriptedChannel where
  stopAbrupt _ := rfl
  stopDecelerated _ := rfl
  setEnabled _ _ := rfl
  moveIncrements _ _ _ _ := rfl
  setTorqueLimit _ _ := rfl

instance : SteadyChannel PlainChannel where
  stopAbrupt _ := rfl
  stopDecelerated _ := rfl
  setEnabled _ _ := rfl
  moveIncrements _ _ _ _ := rfl
  setTorqueLimit _ _ := rfl

/-- A simulated channel keeps its step counter and its zero. -/
instance : SteadyChannel SimulatedChannel where
  stopAbrupt _ := rfl
  stopDecelerated c := by
    show c.stopDecelerated.position = c.position
    unfold SimulatedChannel.stopDecelerated
    split <;> rfl
  setEnabled enabled c := by
    cases enabled <;> rfl
  moveIncrements increments velocity accel c := by
    show (SimulatedChannel.moveIncrements increments velocity accel c).position = c.position
    unfold SimulatedChannel.moveIncrements
    dsimp only
    split <;> rfl
  setTorqueLimit _ _ := rfl

open MotorChannel in
theorem Motor.position_map {f : ScriptedChannel → ScriptedChannel}
    {g : PlainChannel → PlainChannel} {h : SimulatedChannel → SimulatedChannel}
    (hf : ∀ c, position (f c) = position c) (hg : ∀ c, position (g c) = position c)
    (hh : ∀ c, position (h c) = position c) (c : Motor) : position (c.map f g h) = position c := by
  cases c with
  | scripted c => exact hf c
  | plain c => exact hg c
  | simulated c => exact hh c

open SteadyChannel in
instance : SteadyChannel Motor where
  stopAbrupt :=
    Motor.position_map toIgnoresStops.stopAbrupt toIgnoresStops.stopAbrupt
      toIgnoresStops.stopAbrupt
  stopDecelerated :=
    Motor.position_map toIgnoresStops.stopDecelerated toIgnoresStops.stopDecelerated
      toIgnoresStops.stopDecelerated
  setEnabled enabled :=
    Motor.position_map (toIgnoresStops.setEnabled enabled) (toIgnoresStops.setEnabled enabled)
      (toIgnoresStops.setEnabled enabled)
  moveIncrements n v a :=
    Motor.position_map (moveIncrements n v a) (moveIncrements n v a) (moveIncrements n v a)
  setTorqueLimit percent :=
    Motor.position_map (setTorqueLimit percent) (setTorqueLimit percent) (setTorqueLimit percent)

variable {C : Type} [MotorChannel C]

namespace Axis

variable {axis axis' : Axis C} {now : Nat}

/-- The position of an axis is a reading of its channels. -/
theorem positionIncrements_eq_headD (axis : Axis C) :
    axis.positionIncrements = (axis.channels.map MotorChannel.position).headD 0 := by
  unfold positionIncrements
  cases axis.channels <;> rfl

theorem positionIncrements_congr
    (h : axis'.channels.map MotorChannel.position = axis.channels.map MotorChannel.position) :
    axis'.positionIncrements = axis.positionIncrements := by
  rw [positionIncrements_eq_headD, positionIncrements_eq_headD, h]

theorem positionIncrements_mapChannels {f : C → C}
    (h : ∀ c, MotorChannel.position (f c) = MotorChannel.position c) :
    (axis.mapChannels f).positionIncrements = axis.positionIncrements := by
  refine positionIncrements_congr ?_
  rw [mapChannels, List.map_map]
  exact List.map_congr_left fun c _ => h c

variable [SteadyChannel C]

/-- A move begins where the axis is. -/
theorem moveOrigin_issue (increments : Int) (velocity accel torque : Single) :
    (axis.issue increments velocity accel torque now).moveOrigin = axis.positionIncrements := by
  have horigin : ((axis.applyTorqueLimit torque).recordOrigins).moveOrigin =
      axis.positionIncrements := by
    refine (positionIncrements_eq_headD (axis.applyTorqueLimit torque)).symm.trans ?_
    exact positionIncrements_mapChannels (SteadyChannel.setTorqueLimit torque)
  unfold issue
  dsimp only
  split <;> exact horigin

/-- The command of a move does not move the axis yet. -/
theorem positionIncrements_issue (increments : Int) (velocity accel torque : Single) :
    (axis.issue increments velocity accel torque now).positionIncrements =
      axis.positionIncrements := by
  have hlimit : (axis.applyTorqueLimit torque).positionIncrements = axis.positionIncrements :=
    positionIncrements_mapChannels (SteadyChannel.setTorqueLimit torque)
  unfold issue
  dsimp only
  split
  · exact hlimit
  · refine Eq.trans ?_ hlimit
    exact positionIncrements_mapChannels
      (SteadyChannel.moveIncrements increments velocity accel)

/-- Outside of homing an update leaves position and origin of an axis alone. -/
theorem update_position (now : Nat) (hstate : ∀ session, axis.state ≠ .homing session) :
    (axis.update now).1.positionIncrements = axis.positionIncrements ∧
      (axis.update now).1.moveOrigin = axis.moveOrigin := by
  obtain ⟨hposition, horigins⟩ :=
    axis.update_keeps now SteadyChannel.toIgnoresStops.stopAbrupt hstate
  exact ⟨positionIncrements_congr hposition, congrArg (List.headD · 0) horigins⟩

/-- The commands that an axis takes during a dispense leave its position and origin alone. -/
theorem Obeys.position {command : Command} (hobeys : Obeys now true command axis axis')
    (hfault : axis.state.isFault = false) :
    axis'.positionIncrements = axis.positionIncrements ∧ axis'.moveOrigin = axis.moveOrigin := by
  obtain ⟨-, -, horigins⟩ := hobeys.keeps hfault
  exact ⟨positionIncrements_congr (hobeys.readings SteadyChannel.toIgnoresStops),
    congrArg (List.headD · 0) horigins⟩

/-- A move is commanded that ends at a position. -/
def MovesTo (target : Int) (now : Nat) (axis axis' : Axis C) : Prop :=
  ∃ increments velocity accel torque,
    axis' = axis.issue increments velocity accel torque now ∧
      axis.positionIncrements + increments = target

end Axis

/-! ## Courses -/

/-- The course of an operation. -/
structure Course where
  start : Int
  direction : Direction
  /-- The increments that it is to go. -/
  total : Int
deriving DecidableEq

namespace Course

/-- The increments from the start to a position, in the direction of the course. -/
def travel (course : Course) (position : Int) : Int :=
  course.direction.toInt * (position - course.start)

/-- The position after some increments. -/
def after (course : Course) (increments : Int) : Int :=
  course.start + course.direction.toInt * increments

/-- The position after all of them. -/
def target (course : Course) : Int := course.after course.total

variable {course : Course} {operation : DispenseOperation} {position : Int}

@[simp] theorem travel_after (course : Course) (increments : Int) :
    course.travel (course.after increments) = increments := by
  rw [travel, after, Int.add_comm, Int.add_sub_cancel, Direction.toInt_mul_toInt_mul]

theorem after_travel (course : Course) (position : Int) :
    course.after (course.travel position) = position := by
  rw [travel, after, Direction.toInt_mul_toInt_mul]
  omega

theorem after_add (course : Course) (m n : Int) :
    course.after m + course.direction.toInt * n = course.after (m + n) := by
  rw [after, after, Int.mul_add]
  omega

/-- The account of an operation on its course, at a position: the segments that it has counted
reach from the start to where the current segment begins, and the rest is still ahead. -/
structure Counts (course : Course) (operation : DispenseOperation) (position : Int) : Prop where
  start : operation.startPosition = course.start
  direction : operation.direction = course.direction.sign
  total : operation.total = course.total
  remaining : operation.remaining = course.total - operation.dispensed
  segment : operation.segmentStart = course.after operation.dispensed
  nonneg : 0 ≤ operation.dispensed
  reached : operation.dispensed ≤ course.travel position
  within : course.travel position ≤ course.total

namespace Counts

/-- The account stays right while the axis goes on. -/
theorem move {position' : Int} (h : course.Counts operation position)
    (hforward : course.travel position ≤ course.travel position')
    (hwithin : course.travel position' ≤ course.total) : course.Counts operation position' :=
  { h with reached := Int.le_trans h.reached hforward, within := hwithin }

/-- The travel of the current segment. -/
theorem segmentTravel_eq (h : course.Counts operation position) (htotal : course.total ≤ 2 ^ 24) :
    operation.segmentTravel position = course.travel position - operation.dispensed := by
  have hreached := h.reached
  have hnonneg := h.nonneg
  have hwithin := h.within
  -- the segment is as long as the travel that is not counted yet, up to the direction
  have hlength : position - operation.segmentStart =
      course.direction.toInt * (course.travel position - operation.dispensed) := by
    have hposition := course.after_travel position
    rw [after] at hposition
    rw [h.segment, after, Int.mul_sub]
    omega
  have hbits : (position - operation.segmentStart).natAbs ≤ 2 ^ 24 := by
    rw [hlength]
    cases course.direction <;> simp only [Direction.toInt] <;> omega
  have hcounter : wrap (position - operation.segmentStart) = position - operation.segmentStart := by
    apply wrap_of_range
    · unfold counterMin
      omega
    · unfold counterMax
      omega
  rw [DispenseOperation.segmentTravel, hcounter, h.direction,
    Single.toCounter_ofInt_mul_sign course.direction hbits, hlength,
    Direction.toInt_mul_toInt_mul]
  omega

/-- **Counting a segment counts all of its travel**, and no more. -/
theorem dispensed_foldSegment (h : course.Counts operation position)
    (htotal : course.total ≤ 2 ^ 24) :
    (operation.foldSegment position).dispensed = course.travel position := by
  have hreached := h.reached
  have hnonneg := h.nonneg
  have hwithin := h.within
  have hsum : operation.dispensed + operation.segmentTravel position = course.travel position := by
    rw [h.segmentTravel_eq htotal]
    omega
  have hsaturate : saturate (course.travel position) = course.travel position := by
    unfold saturate counterMin counterMax
    omega
  show min (saturate (operation.dispensed + operation.segmentTravel position)) operation.total = _
  rw [hsum, hsaturate, h.total]
  omega

/-- The account is right when the segment has been counted. -/
theorem foldSegment (h : course.Counts operation position) (htotal : course.total ≤ 2 ^ 24) :
    course.Counts (operation.foldSegment position) position := by
  have hdispensed := h.dispensed_foldSegment htotal
  have hreached := h.reached
  have hnonneg := h.nonneg
  have hwithin := h.within
  have hremaining : (operation.foldSegment position).remaining =
      operation.total - (operation.foldSegment position).dispensed := by
    have hsame := h.total
    apply DispenseOperation.remaining_foldSegment
    · omega
    · omega
    · unfold counterMax
      omega
  refine ⟨h.start, h.direction, h.total, ?_, ?_, ?_, ?_, hwithin⟩
  · rw [hremaining, h.total]
  · rw [hdispensed, after_travel]
    rfl
  · rw [hdispensed]
    omega
  · rw [hdispensed]

/-- **The rest of an operation ends at the target**, from where the segment begins. -/
theorem segmentStart_add_displacement (h : course.Counts operation position)
    (htotal : course.total ≤ 2 ^ 24) :
    operation.segmentStart +
        DispenseOperation.displacement operation.direction operation.remaining =
      course.target := by
  have hreached := h.reached
  have hnonneg := h.nonneg
  have hwithin := h.within
  have hbits : operation.remaining.natAbs ≤ 2 ^ 24 := by
    rw [h.remaining]
    omega
  rw [DispenseOperation.displacement, h.direction,
    Single.toCounter_sign_mul_ofInt course.direction hbits, h.segment, after_add, h.remaining,
    target]
  congr 1
  omega

end Counts

end Course

/-! ## A dispense on its course -/

/-- An operation on its course, with the phase of the dispense and the axis: until a move has
started its origin is where the segment begins, and a paused axis rests there. -/
structure DispenseOperation.OnCourse (course : Course) (phase : DispensePhase) (axis : Axis C)
    (operation : DispenseOperation) : Prop where
  counts : course.Counts operation axis.positionIncrements
  origin : phase = .starting ∨ phase = .resuming → axis.moveOrigin = operation.segmentStart
  paused : phase = .paused → axis.positionIncrements = operation.segmentStart

namespace Dispenser

/-- **The invariant of a dispense and its axis**: the operation, if there is one, is on its
course. -/
def OnCourse (course : Course) (dispenser : Dispenser) (axis : Axis C) : Prop :=
  ∀ operation, dispenser.operation? = some operation →
    operation.OnCourse course dispenser.phase axis

variable {course : Course} {dispenser dispenser' : Dispenser} {axis axis' : Axis C} {now : Nat}
  {command : Command}

/-- Without an operation there is nothing to keep. -/
theorem onCourse_of_none (h : dispenser.operation? = none) : dispenser.OnCourse course axis := by
  intro operation hoperation
  rw [h] at hoperation
  cases hoperation

theorem onCourse_of_finalizeLater (closed : Dispenser) (outcome : DispenseOutcome) :
    (closed.finalizeLater outcome).OnCourse course axis :=
  onCourse_of_none (finalize_idle outcome closed).2.1

theorem onCourse_of_idle (h : dispenser.InStep axis) (hongoing : dispenser.isOngoing = false) :
    dispenser.OnCourse course axis := by
  refine onCourse_of_none ?_
  simpa [hongoing] using h.stored

/-- An axis goes on along the course, and does not move during a pause. -/
theorem OnCourse.move (h : dispenser.OnCourse course axis)
    (hforward : course.travel axis.positionIncrements ≤ course.travel axis'.positionIncrements)
    (hwithin : course.travel axis'.positionIncrements ≤ course.total)
    (hpaused : dispenser.phase = .paused → axis'.positionIncrements = axis.positionIncrements)
    (horigin : axis'.moveOrigin = axis.moveOrigin) : dispenser.OnCourse course axis' := by
  intro operation hoperation
  have hon := h operation hoperation
  refine ⟨hon.counts.move hforward hwithin, fun hphase => ?_, fun hphase => ?_⟩
  · exact horigin.trans (hon.origin hphase)
  · exact (hpaused hphase).trans (hon.paused hphase)

theorem OnCourse.congr (h : dispenser.OnCourse course axis)
    (hposition : axis'.positionIncrements = axis.positionIncrements)
    (horigin : axis'.moveOrigin = axis.moveOrigin) : dispenser.OnCourse course axis' := by
  intro operation hoperation
  have hon := h operation hoperation
  refine ⟨?_, ?_, ?_⟩
  · rw [hposition]
    exact hon.counts
  · rw [horigin]
    exact hon.origin
  · rw [hposition]
    exact hon.paused

/-- The course of an operation that starts at a position. -/
def courseOf (request : DispenseRequest) (position : Int) (settings : DispenseSettings) :
    Course where
  start := position
  direction := settings.injectDirection
  total := (request.volume * settings.stepsPerVolume).toCounter

/-- An operation that starts has its course ahead. -/
theorem counts_operationOf {request : DispenseRequest} {position : Int}
    {settings : DispenseSettings} (h : 0 ≤ (courseOf request position settings).total) :
    (courseOf request position settings).Counts (operationOf request position settings)
      position := by
  have htravel : (courseOf request position settings).travel position = 0 := by
    show _ * (position - position) = 0
    rw [Int.sub_self, Int.mul_zero]
  refine ⟨rfl, rfl, rfl, (Int.sub_zero _).symm, ?_, Int.le_refl 0, ?_, ?_⟩
  · show position = position + _ * 0
    rw [Int.mul_zero, Int.add_zero]
  · rw [htravel]
    exact Int.le_refl 0
  · rw [htravel]
    exact h

/-! ### Commands -/

section Commands

variable [SteadyChannel C]

/-- A dispense whose axis has taken the move of an operation. -/
theorem onCourse_of_move {operation : DispenseOperation} {velocity accel torque : Single}
    (hrun : (Axis.tryMoveIncrements
      (DispenseOperation.displacement operation.direction operation.remaining) velocity accel
      torque now).run axis = .ok () axis')
    (hstored : dispenser.operation? = some operation)
    (hcounts : course.Counts operation axis.positionIncrements)
    (hrest : axis.positionIncrements = operation.segmentStart) (htotal : course.total ≤ 2 ^ 24) :
    dispenser.OnCourse course axis' ∧ axis.MovesTo course.target now axis' := by
  obtain ⟨-, -, -, -, -, rfl⟩ := Axis.tryMoveIncrements_ok.1 hrun
  refine ⟨fun operation' hoperation => ?_, _, velocity, accel, torque, rfl, ?_⟩
  · cases hstored.symm.trans hoperation
    refine ⟨?_, fun _ => ?_, fun _ => ?_⟩
    · rw [Axis.positionIncrements_issue]
      exact hcounts
    · rw [Axis.moveOrigin_issue]
      exact hrest
    · rw [Axis.positionIncrements_issue]
      exact hrest
  · rw [hrest]
    exact hcounts.segmentStart_add_displacement htotal

/-- **A start sets an operation on its course** and commands the move to the target. -/
theorem onCourse_of_start {request : DispenseRequest}
    (hrun : (tryStart request now).run (dispenser, axis) = .ok () (dispenser', axis'))
    (hcourse : courseOf request axis.positionIncrements dispenser.settings = course)
    (htotal : course.total ≤ 2 ^ 24) :
    dispenser'.OnCourse course axis' ∧ axis.MovesTo course.target now axis' := by
  obtain ⟨-, hpositive, hfactor, operation, hoperation, hmove, rfl⟩ := tryStart_ok.1 hrun
  simp only [Bool.and_eq_true] at hpositive
  have hnonneg : 0 ≤ course.total := by
    rw [← hcourse]
    exact Single.toCounter_mul_nonneg hpositive.1.1 hfactor
  subst hcourse
  subst hoperation
  exact onCourse_of_move hmove rfl (counts_operationOf hnonneg) rfl htotal

/-- **A resume commands the move to the target again**, unless the operation has nothing left. -/
theorem OnCourse.resume (h : dispenser.OnCourse course axis)
    (hrun : (tryResume now).run (dispenser, axis) = .ok () (dispenser', axis'))
    (htotal : course.total ≤ 2 ^ 24) :
    dispenser'.OnCourse course axis' ∧
      (axis.MovesTo course.target now axis' ∨
        ∃ operation, dispenser.operation? = some operation ∧ operation.remaining = 0) := by
  obtain ⟨hphase, operation, hoperation, ⟨hnothing, rfl, rfl⟩ | ⟨-, hmove, rfl⟩⟩ :=
    tryResume_ok.1 hrun
  · exact ⟨onCourse_of_finalizeLater _ _, .inr ⟨operation, hoperation, hnothing⟩⟩
  · have hon := h operation hoperation
    have hrest := hon.paused hphase
    -- the segment that a resume records begins where the counted ones end
    have hsame : { operation with segmentStart := axis.positionIncrements } = operation := by
      rw [hrest]
    rw [hsame]
    have hstored : ({ dispenser with operation? := some operation, phase := .resuming } :
        Dispenser).operation? = some operation := rfl
    obtain ⟨hcourse, hmoves⟩ := onCourse_of_move hmove hstored hon.counts hrest htotal
    exact ⟨hcourse, .inl hmoves⟩

/-- **No command takes an ongoing dispense off its course.** -/
theorem Obeys.onCourse (hobeys : Obeys now command (dispenser, axis) (dispenser', axis'))
    (h : dispenser.OnCourse course axis) (hongoing : dispenser.isOngoing = true)
    (htotal : course.total ≤ 2 ^ 24) : dispenser'.OnCourse course axis' := by
  cases hobeys with
  | start hrun =>
    have hidle := (tryStart_ok.1 hrun).1
    rw [hongoing] at hidle
    cases hidle
  | pause hrun =>
    obtain ⟨-, hstop, rfl⟩ := tryPause_ok.1 hrun
    obtain ⟨-, rfl⟩ := Axis.tryStopDecelerated_ok.1 hstop
    intro operation hoperation
    refine ⟨?_, nofun, nofun⟩
    have hposition : (axis.mapChannels MotorChannel.stopDecelerated).positionIncrements =
        axis.positionIncrements :=
      Axis.positionIncrements_mapChannels SteadyChannel.toIgnoresStops.stopDecelerated
    exact hposition ▸ (h operation hoperation).counts
  | resume hrun => exact (h.resume hrun htotal).1
  | cancel hrun | abort hrun | disable hrun =>
    obtain ⟨-, -, rfl⟩ := tryCancel_ok.1 hrun
    exact onCourse_of_finalizeLater _ _

end Commands

/-! ### Updates -/

/-- **An update keeps an ongoing dispense on its course.** -/
theorem OnCourse.takes {event : Option AxisEvent} {result : Dispenser × Option DispenseEvent}
    (h : dispenser.OnCourse course axis) (htakes : dispenser.Takes axis event result)
    (htotal : course.total ≤ 2 ^ 24) : result.1.OnCourse course axis := by
  intro operation' hoperation'
  cases htakes with
  | stay => exact h operation' hoperation'
  | begin hphase =>
    obtain ⟨operation, hoperation, rfl⟩ := Option.map_eq_some_iff.1 hoperation'
    have hon := h operation hoperation
    -- the move has begun where the segment begins, so that the note of it changes nothing
    have hsame : { operation with segmentStart := axis.moveOrigin } = operation := by
      rw [hon.origin hphase]
    rw [hsame]
    exact ⟨hon.counts, nofun, nofun⟩
  | pause =>
    obtain ⟨operation, hoperation, rfl⟩ := Option.map_eq_some_iff.1 hoperation'
    exact ⟨(h operation hoperation).counts.foldSegment htotal, nofun, fun _ => rfl⟩
  | @finish event outcome =>
    have hnone := (finalize_idle outcome (dispenser.fold axis.positionIncrements)).2.1
    exact onCourse_of_none hnone operation' hoperation'

variable [SteadyChannel C]

/-- **An update keeps a dispense and its axis on the course.** -/
theorem OnCourse.update (h : dispenser.OnCourse course axis) (hpoised : dispenser.Poised axis)
    (htotal : course.total ≤ 2 ^ 24) (now : Nat) :
    (dispenser.update (axis.update now).1 (axis.update now).2).1.OnCourse course
      (axis.update now).1 := by
  cases hongoing : dispenser.isOngoing with
  | true =>
    obtain ⟨hposition, horigin⟩ :=
      axis.update_position now (hpoised.state_ne_homing hongoing)
    exact (h.congr hposition horigin).takes (hpoised.takes hongoing now) htotal
  | false => exact onCourse_of_idle (hpoised.update_inStep now) (isOngoing_update hongoing)

end Dispenser

/-! ## The end of a course -/

/-- An event tells of an operation that has gone all of its course. -/
structure DispenseEvent.Completes (course : Course) (operation : DispenseOperation)
    (ended : DispenseEvent) : Prop where
  dispensed : operation.dispensed = course.total
  volume : ended.volume = operation.dispensedVolume

namespace Dispenser

variable {course : Course} {dispenser dispenser' : Dispenser} {axis axis' : Axis C} {now : Nat}
  {command : Command} {ended : DispenseEvent}

/-- An operation that an update completes at the target has gone all of its course. -/
theorem OnCourse.takes_completed {event : Option AxisEvent} {after : Dispenser}
    (h : dispenser.OnCourse course axis) (htakes : dispenser.Takes axis event (after, some ended))
    (hstored : dispenser.operation?.isSome = true) (hcompleted : ended.outcome = .completed)
    (htarget : axis.positionIncrements = course.target) (htotal : course.total ≤ 2 ^ 24) :
    ∃ operation, dispenser.operation? = some operation ∧
      ended.Completes course (operation.foldSegment axis.positionIncrements) := by
  obtain ⟨operation, hoperation⟩ := Option.isSome_iff_exists.1 hstored
  refine ⟨operation, hoperation, ?_, ?_⟩
  · rw [(h operation hoperation).counts.dispensed_foldSegment htotal, htarget, Course.target,
      Course.travel_after]
  · generalize hresult : (after, some ended) = result at htakes
    cases htakes with
    | stay | begin | pause => cases hresult
    | finish =>
      cases hresult
      obtain rfl : _ = DispenseOutcome.completed := hcompleted
      show dispensedVolume (dispenser.fold axis.positionIncrements) = _
      rw [dispensedVolume, fold, hoperation]
      rfl

/-- An event that an update reports is one that a command has left, or it has ended the operation
just now. -/
theorem OnCourse.update_completed [SteadyChannel C] (h : dispenser.OnCourse course axis)
    (hpoised : dispenser.Poised axis)
    (hended : (dispenser.update (axis.update now).1 (axis.update now).2).2 = some ended)
    (hcompleted : ended.outcome = .completed)
    (htarget : (axis.update now).1.positionIncrements = course.target)
    (htotal : course.total ≤ 2 ^ 24) :
    (dispenser.operation? = none ∧ dispenser.pending = some ended) ∨
      ∃ operation, dispenser.operation? = some operation ∧
        ended.Completes course (operation.foldSegment (axis.update now).1.positionIncrements) := by
  cases hongoing : dispenser.isOngoing with
  | true =>
    obtain ⟨hstored, -⟩ := hpoised.of_ongoing hongoing
    obtain ⟨hposition, horigin⟩ :=
      axis.update_position now (hpoised.state_ne_homing hongoing)
    have htakes := hpoised.takes hongoing now
    rw [← Prod.eta (dispenser.update _ _), hended] at htakes
    exact .inr ((h.congr hposition horigin).takes_completed htakes hstored hcompleted htarget
      htotal)
  | false =>
    have hphase := isOngoing_eq_false.1 hongoing
    cases hpending : dispenser.pending with
    | none =>
      rw [update_of_idle hpending hphase] at hended
      cases hended
    | some done =>
      rw [update_of_pending hpending] at hended
      refine .inl ⟨?_, hended⟩
      cases hpoised with
      | inStep hin => simpa [hongoing] using hin.stored
      | done hstart => rcases hstart with hstart | hstart <;> rw [hphase] at hstart <;> cases hstart
      | ended _ hstored => exact hstored

/-- An operation that a command completes has gone all of its course before. -/
theorem OnCourse.obeys_completed [SteadyChannel C] (h : dispenser.OnCourse course axis)
    (hobeys : Obeys now command (dispenser, axis) (dispenser', axis'))
    (hin : dispenser.InStep axis) (hended : dispenser'.pending = some ended)
    (hcompleted : ended.outcome = .completed) (htotal : course.total ≤ 2 ^ 24) :
    ∃ operation, dispenser.operation? = some operation ∧
      ended.Completes course (operation.foldSegment (axis'.update now).1.positionIncrements) := by
  have hnot : dispenser.pending ≠ some ended := by
    rw [hin.settled]
    nofun
  cases hobeys with
  | start hrun =>
    obtain ⟨-, -, -, _, -, -, rfl⟩ := tryStart_ok.1 hrun
    cases hended
  | pause hrun =>
    obtain ⟨-, -, rfl⟩ := tryPause_ok.1 hrun
    exact absurd hended hnot
  | resume hrun =>
    obtain ⟨hphase, operation, hoperation, ⟨hnothing, rfl, rfl⟩ | ⟨-, -, rfl⟩⟩ :=
      tryResume_ok.1 hrun
    · have hon := h operation hoperation
      have hstate : axis.state = .standby := by
        have hfits := hin.fits
        rw [hphase] at hfits
        exact hfits
      have hposition : (axis.update now).1.positionIncrements = axis.positionIncrements := by
        refine (axis.update_position now fun session => ?_).1
        rw [hstate]
        exact AxisState.noConfusion
      have hfold := hon.counts.dispensed_foldSegment htotal
      have htravel : course.travel axis.positionIncrements = operation.dispensed := by
        rw [hon.paused hphase, hon.counts.segment, Course.travel_after]
      have hrest := hon.counts.remaining
      rw [hnothing] at hrest
      refine ⟨operation, hoperation, ?_, ?_⟩
      · rw [hposition, hfold, htravel]
        omega
      · cases hended
        show dispensedVolume dispenser = Single.ofInt _ / operation.stepsPerVolume
        rw [hposition, hfold, htravel, dispensedVolume, hoperation]
        rfl
    · exact absurd hended hnot
  | cancel hrun | abort hrun | disable hrun =>
    obtain ⟨-, -, rfl⟩ := tryCancel_ok.1 hrun
    cases hended
    cases hcompleted

end Dispenser

end MotionControl
