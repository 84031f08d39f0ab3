import MotionControl.Proofs.Dispense.Course

/-!
# Pausing never shifts the target of a dispense

* `Visit.Follows`: what the position of the axis does between two ticks of an operation: it goes on
  along the course, not beyond the target, and stays where it is during a pause.
* `Visit.KeepsCourse`: what the operation does in the tick that follows.
* `Visit.keepsCourse`: a turn that follows the course keeps it.
* `pausing_keeps_target`: **every turn of an operation does**, with any number of pauses.
-/

namespace MotionControl

variable {C : Type}

namespace Machine

/-- The axis of the dispense. -/
def dispenseAxis? (machine : Machine C) : Option (Axis C) :=
  machine.dispense.bind fun station => machine.axes[station.axisIndex]?

/-- The phase of the dispense. -/
def dispensePhase (machine : Machine C) : DispensePhase :=
  machine.dispense.elim .idle (·.dispenser.phase)

/-- The operation that is going on. -/
def operation? (machine : Machine C) : Option DispenseOperation :=
  machine.dispense.bind (·.dispenser.operation?)

variable {machine : Machine C} {station : DispenseStation} {axis : Axis C}

theorem dispenseAxis?_eq (hstation : machine.dispense = some station)
    (haxis : machine.axes[station.axisIndex]? = some axis) :
    machine.dispenseAxis? = some axis := by
  rw [dispenseAxis?, hstation]
  exact haxis

theorem dispensePhase_eq (hstation : machine.dispense = some station) :
    machine.dispensePhase = station.dispenser.phase := by
  rw [dispensePhase, hstation]
  rfl

theorem operation?_eq (hstation : machine.dispense = some station) :
    machine.operation? = station.dispenser.operation? := by
  rw [operation?, hstation]
  rfl

variable [MotorChannel C]

/-- The position of the axis of the dispense. -/
def dispensePosition (machine : Machine C) : Int :=
  machine.dispenseAxis?.elim 0 Axis.positionIncrements

/-- The course of the operation that a request starts. -/
def course? (request : DispenseRequest) (machine : Machine C) : Option Course :=
  machine.dispense.map fun station =>
    Dispenser.courseOf request machine.dispensePosition station.dispenser.settings

/-- The operation is on its course. -/
def OnCourse (course : Course) (machine : Machine C) : Prop :=
  ∀ station, machine.dispense = some station → ∃ axis,
    machine.axes[station.axisIndex]? = some axis ∧ station.dispenser.OnCourse course axis

/-- **The invariant of the turns of an operation.** -/
structure Underway (course : Course) (machine : Machine C) : Prop where
  inStep : machine.InStep
  length_le : machine.axes.length ≤ maxAxes
  onCourse : machine.OnCourse course

theorem dispensePosition_eq (hstation : machine.dispense = some station)
    (haxis : machine.axes[station.axisIndex]? = some axis) :
    machine.dispensePosition = axis.positionIncrements := by
  rw [dispensePosition, dispenseAxis?_eq hstation haxis]
  rfl

end Machine

namespace Visit

variable [MotorChannel C]

/-- The operation that the tick is about: the one that is going on, or the one that the command of
the tick has ended. -/
def operation? (visit : Visit C) : Option DispenseOperation :=
  visit.handled.operation?.or visit.sensed.operation?

/-- The command has the axis of the dispense move to a position. -/
def MovesTo (target : Int) (visit : Visit C) : Prop :=
  ∃ axis axis', visit.sensed.dispenseAxis? = some axis ∧
    visit.handled.dispenseAxis? = some axis' ∧ axis.MovesTo target visit.turn.now axis'

/-- Before the tick of an ongoing operation its axis goes on along the course, not beyond the
target, and not at all during a pause. -/
structure Follows (course : Course) (visit : Visit C) : Prop where
  ongoing : visit.machine.dispensePhase.isOngoing = true
  forward : course.travel visit.machine.dispensePosition ≤
    course.travel visit.sensed.dispensePosition
  within : course.travel visit.sensed.dispensePosition ≤ course.total
  paused : visit.machine.dispensePhase = .paused →
    visit.sensed.dispensePosition = visit.machine.dispensePosition

/-- The tick keeps the operation on its course. -/
structure KeepsCourse (course : Course) (visit : Visit C) : Prop where
  /-- The operation that goes on has this course. -/
  operation : ∀ operation, visit.next.operation? = some operation →
    operation.startPosition = course.start ∧ operation.direction = course.direction.sign ∧
      operation.total = course.total
  /-- The axis is paused where the count says. -/
  paused : visit.next.dispensePhase = .paused →
    ∃ operation, visit.next.operation? = some operation ∧
      visit.next.dispensePosition = course.after operation.dispensed
  /-- The first move ends at the target. -/
  started : ∀ request, visit.accepted? = some (.dispense request) → visit.MovesTo course.target
  /-- Every other move ends at the target as well. -/
  resumed : visit.accepted? = some .resume → visit.MovesTo course.target ∨
    ∃ operation, visit.sensed.operation? = some operation ∧ operation.remaining = 0
  /-- An operation that is completed at the target has counted all of its course. -/
  completed : ∀ ended ∈ visit.dispenseEvents, ended.outcome = .completed →
    visit.next.dispensePosition = course.target →
      ∃ operation, visit.operation? = some operation ∧
        ended.Completes course (operation.foldSegment visit.next.dispensePosition)

variable {visit : Visit C} {course : Course} {station : DispenseStation} {axis : Axis C}

/-- An accepted command, at the dispense and its axis. -/
theorem handled_station (hstation : visit.sensed.dispense = some station)
    (haxis : visit.sensed.axes[station.axisIndex]? = some axis) :
    ∃ dispenser axis', visit.handled.dispense = some { station with dispenser } ∧
      visit.handled.axes[station.axisIndex]? = some axis' ∧
      ((∃ command, visit.accepted? = some command ∧
          Dispenser.Obeys visit.turn.now command (station.dispenser, axis) (dispenser, axis')) ∨
        dispenser = station.dispenser ∧
          (∀ command, visit.accepted? = some command →
            command.axis? = none → command = .status) ∧
          (axis' = axis ∨ ∃ command,
            Axis.Obeys visit.turn.now station.dispenser.isOngoing command axis axis')) := by
  rcases visit.handled_cases with ⟨command, haccept, hcarries⟩ | ⟨haccept, hsame⟩
  · obtain ⟨dispenser, axis', hstation', haxis', hobeys | ⟨rfl, hcommand, hkept⟩⟩ :=
      hcarries.station hstation haxis
    · exact ⟨dispenser, axis', hstation', haxis', .inl ⟨command, haccept, hobeys⟩⟩
    · refine ⟨_, axis', hstation', haxis', .inr ⟨rfl, fun command' haccept' => ?_, ?_⟩⟩
      · cases haccept.symm.trans haccept'
        exact hcommand
      · exact hkept.imp_right fun hobeys => ⟨command, hobeys⟩
  · refine ⟨station.dispenser, axis, hsame ▸ hstation, hsame ▸ haxis,
      .inr ⟨rfl, fun command haccept' => ?_, .inl rfl⟩⟩
    rw [haccept] at haccept'
    cases haccept'

/-- What is left to be seen of a tick when its command has kept the operation on its course. -/
theorem keepsCourse_of_handled [SteadyChannel C] (h : visit.machine.InStep)
    (hlength : visit.machine.axes.length ≤ maxAxes)
    (hstation : visit.handled.dispense = some station)
    (haxis : visit.handled.axes[station.axisIndex]? = some axis)
    (hcourse : station.dispenser.OnCourse course axis) (htotal : course.total ≤ 2 ^ 24)
    (hstarted : ∀ request, visit.accepted? = some (.dispense request) →
      visit.MovesTo course.target)
    (hresumed : visit.accepted? = some .resume → visit.MovesTo course.target ∨
      ∃ operation, visit.sensed.operation? = some operation ∧ operation.remaining = 0)
    (hended : ∀ ended, station.dispenser.pending = some ended → ended.outcome = .completed →
      ∃ operation, visit.sensed.operation? = some operation ∧
        ended.Completes course
          (operation.foldSegment (axis.update visit.turn.now).1.positionIncrements)) :
    visit.KeepsCourse course ∧ visit.next.OnCourse course := by
  obtain ⟨_, haxis₁, hpoised⟩ := (visit.poised h).dispense station hstation
  cases haxis.symm.trans haxis₁
  -- what the updates make of the dispense and its axis
  have hnext : visit.next.dispense = _ :=
    visit.dispense_next.trans (Machine.dispense_update hstation haxis)
  have hnextAxis : visit.next.axes[station.axisIndex]? = some (axis.update visit.turn.now).1 := by
    rw [axes_next, Machine.axes_update, List.getElem?_map, haxis]
    rfl
  have hposition : visit.next.dispensePosition = _ :=
    Machine.dispensePosition_eq hnext hnextAxis
  have hoperation : visit.next.operation? = _ := Machine.operation?_eq hnext
  have hafter := hcourse.update hpoised htotal visit.turn.now
  have hinStep := hpoised.update_inStep visit.turn.now
  have hevents := visit.dispenseEvents_eq (visit.length_handled ▸ hlength) hstation haxis
  refine ⟨⟨?_, ?_, hstarted, hresumed, ?_⟩, ?_⟩
  · intro operation hsome
    have hcounts := (hafter operation (hoperation.symm.trans hsome)).counts
    exact ⟨hcounts.start, hcounts.direction, hcounts.total⟩
  · intro hphase
    rw [Machine.dispensePhase_eq hnext] at hphase
    have hstored := hinStep.stored
    rw [Dispenser.isOngoing, hphase] at hstored
    obtain ⟨operation, hsome⟩ := Option.isSome_iff_exists.1 hstored
    have hon := hafter operation hsome
    refine ⟨operation, hoperation.trans hsome, ?_⟩
    rw [hposition, hon.paused hphase, hon.counts.segment]
  · intro ended hmem hcompleted htarget
    rw [hevents, Option.mem_toList] at hmem
    rw [hposition] at htarget ⊢
    rcases hcourse.update_completed hpoised hmem hcompleted htarget htotal with
      ⟨hnone, hpending⟩ | ⟨operation, hsome, hcompletes⟩
    · obtain ⟨operation, hsome, hcompletes⟩ := hended ended hpending hcompleted
      refine ⟨operation, ?_, hcompletes⟩
      rw [Visit.operation?, Machine.operation?_eq hstation, hnone, Option.none_or, hsome]
    · refine ⟨operation, ?_, hcompletes⟩
      rw [Visit.operation?, Machine.operation?_eq hstation, hsome, Option.some_or]
  · intro station' hstation'
    cases hnext.symm.trans hstation'
    exact ⟨_, hnextAxis, hafter⟩

/-- **The tick that starts an operation** sets it on its course. -/
theorem keepsCourse_of_start [SteadyChannel C] (h : visit.machine.InStep)
    (hlength : visit.machine.axes.length ≤ maxAxes) {request : DispenseRequest}
    (haccept : visit.accepted? = some (.dispense request))
    (hcourse : visit.sensed.course? request = some course) (htotal : course.total ≤ 2 ^ 24) :
    visit.KeepsCourse course ∧ visit.next.OnCourse course := by
  obtain ⟨station, hstation, hcourse⟩ := Option.map_eq_some_iff.1 hcourse
  obtain ⟨axis, haxis, -⟩ := (h.sense visit.turn.feedback).dispense station hstation
  obtain ⟨dispenser, axis', hstation', haxis', hchange⟩ := visit.handled_station hstation haxis
  rw [Machine.dispensePosition_eq hstation haxis] at hcourse
  rcases hchange with ⟨command, haccept', hobeys⟩ | ⟨-, hcommand, -⟩
  · cases haccept.symm.trans haccept'
    cases hobeys with
    | start hrun =>
      obtain ⟨hon, hmoves⟩ := Dispenser.onCourse_of_start hrun hcourse htotal
      refine keepsCourse_of_handled h hlength hstation' haxis' hon htotal ?_ ?_ ?_
      · intro _ _
        exact ⟨axis, axis', Machine.dispenseAxis?_eq hstation haxis,
          Machine.dispenseAxis?_eq hstation' haxis', hmoves⟩
      · intro hresume
        rw [haccept] at hresume
        cases hresume
      · intro ended hpending
        obtain ⟨-, -, -, _, -, -, rfl⟩ := Dispenser.tryStart_ok.1 hrun
        cases hpending
  · cases hcommand _ haccept rfl

/-- A dispense that follows its course is going on. -/
theorem Follows.ongoing_station (hfollows : visit.Follows course) :
    ∃ station, visit.machine.dispense = some station ∧ station.dispenser.isOngoing = true := by
  have hongoing := hfollows.ongoing
  cases hstation : visit.machine.dispense with
  | none =>
    rw [Machine.dispensePhase, hstation] at hongoing
    cases hongoing
  | some station =>
    rw [Machine.dispensePhase_eq hstation] at hongoing
    exact ⟨station, rfl, hongoing⟩

/-- The tick finds the operation on its course still. -/
theorem Follows.onCourse_sensed (hfollows : visit.Follows course)
    (hcourse : visit.machine.OnCourse course) : visit.sensed.OnCourse course := by
  intro station hstation
  obtain ⟨axis, haxis, hon⟩ := hcourse station hstation
  have hsensed : visit.sensed.axes[station.axisIndex]? =
      some (axis.sense (visit.turn.feedback station.axisIndex)) := by
    rw [sensed, Machine.getElem?_sense, haxis]
    rfl
  have hposition : visit.machine.dispensePosition = axis.positionIncrements :=
    Machine.dispensePosition_eq hstation haxis
  have hposition' : visit.sensed.dispensePosition = _ :=
    Machine.dispensePosition_eq hstation hsensed
  have hforward := hfollows.forward
  have hwithin := hfollows.within
  have hpaused := hfollows.paused
  rw [hposition, hposition'] at hforward hpaused
  rw [hposition'] at hwithin
  refine ⟨_, hsensed, hon.move hforward hwithin (fun hphase => hpaused ?_) rfl⟩
  exact (Machine.dispensePhase_eq hstation).trans hphase

/-- **Every other tick of an operation** keeps it on its course. -/
theorem Follows.keepsCourse [SteadyChannel C] (hfollows : visit.Follows course)
    (h : visit.machine.Underway course) (htotal : course.total ≤ 2 ^ 24) :
    visit.KeepsCourse course ∧ visit.next.Underway course := by
  obtain ⟨station, hstation, hongoing⟩ := hfollows.ongoing_station
  obtain ⟨axis, haxis, hon⟩ := hfollows.onCourse_sensed h.onCourse station hstation
  obtain ⟨_, haxis₁, hin⟩ := (h.inStep.sense visit.turn.feedback).dispense station hstation
  cases haxis.symm.trans haxis₁
  obtain ⟨dispenser, axis', hstation', haxis', hchange⟩ := visit.handled_station hstation haxis
  have hoperation : visit.sensed.operation? = _ := Machine.operation?_eq hstation
  suffices hkeeps : visit.KeepsCourse course ∧ visit.next.OnCourse course from
    ⟨hkeeps.1, inStep_next h.inStep, length_next.trans_le h.length_le, hkeeps.2⟩
  rcases hchange with ⟨command, haccept, hobeys⟩ | ⟨rfl, hcommand, hkept⟩
  · refine keepsCourse_of_handled h.inStep h.length_le hstation' haxis'
      (hobeys.onCourse hon hongoing htotal) htotal ?_ ?_ ?_
    · intro request hstart
      cases haccept.symm.trans hstart
      cases hobeys with
      | start hrun =>
        have hidle := (Dispenser.tryStart_ok.1 hrun).1
        rw [hongoing] at hidle
        cases hidle
    · intro hresume
      cases haccept.symm.trans hresume
      cases hobeys with
      | resume hrun =>
        rw [hoperation]
        refine (hon.resume hrun htotal).2.imp_left fun hmoves => ?_
        exact ⟨axis, axis', Machine.dispenseAxis?_eq hstation haxis,
          Machine.dispenseAxis?_eq hstation' haxis', hmoves⟩
    · intro ended hpending hcompleted
      rw [hoperation]
      exact hon.obeys_completed hobeys hin hpending hcompleted htotal
  · have hon' : station.dispenser.OnCourse course axis' := by
      rcases hkept with rfl | ⟨command, hobeys⟩
      · exact hon
      · rw [hongoing] at hobeys
        obtain ⟨hposition, horigin⟩ := hobeys.position (hin.fits.cases hongoing).2
        exact hon.congr hposition horigin
    refine keepsCourse_of_handled h.inStep h.length_le hstation' haxis' hon' htotal ?_ ?_ ?_
    · intro request hstart
      cases hcommand _ hstart rfl
    · intro hresume
      cases hcommand _ hresume rfl
    · intro ended hpending
      rw [hin.settled] at hpending
      cases hpending

end Visit

/-- **Pausing never shifts the target of a dispense.** In a run of a machine that was built from
settings, take a tick that starts an operation of at most `2 ^ 24` increments, and any turns during
which the operation goes on and its axis follows the course, with pauses and resumes wherever they
come. Then every tick keeps the course: a paused axis is where the count says, every move ends at
the target of the first, and what is completed there has counted all of its increments. -/
theorem pausing_keeps_target [MotorChannel C] [SteadyChannel C] {machine : Machine C}
    (h : machine.IsBuilt) (before : List (Turn C)) {first : Turn C} {during : List (Turn C)}
    {request : DispenseRequest} {course : Course}
    (haccept : Visit.accepted? ⟨machine.run before, first⟩ = some (.dispense request))
    (hcourse : (Visit.sensed ⟨machine.run before, first⟩).course? request = some course)
    (htotal : course.total ≤ 2 ^ 24)
    (hfollows : ∀ visit ∈ (Visit.next ⟨machine.run before, first⟩).visits during,
      visit.Follows course) :
    ∀ visit ∈ (machine.run before).visits (first :: during), visit.KeepsCourse course := by
  obtain ⟨-, hin, hlength⟩ := h.run_inStep before
  obtain ⟨hfirst, hon⟩ := Visit.keepsCourse_of_start hin hlength haccept hcourse htotal
  have hsecond : (Visit.next ⟨machine.run before, first⟩).Underway course :=
    ⟨Visit.inStep_next hin, Visit.length_next.trans_le hlength, hon⟩
  have hvisits := Machine.run_invariant (Machine.Underway course) hsecond fun visit hvisit hinv =>
    ((hfollows visit hvisit).keepsCourse hinv htotal).2
  intro visit hvisit
  rcases List.mem_cons.1 hvisit with rfl | hvisit
  · exact hfirst
  · exact ((hfollows visit hvisit).keepsCourse (hvisits.1 visit hvisit) htotal).1

/-- Whether a turn follows a course can be tested. -/
instance [MotorChannel C] (course : Course) (visit : Visit C) :
    Decidable (visit.Follows course) :=
  decidable_of_iff
    (visit.machine.dispensePhase.isOngoing = true ∧
      course.travel visit.machine.dispensePosition ≤
        course.travel visit.sensed.dispensePosition ∧
      course.travel visit.sensed.dispensePosition ≤ course.total ∧
      (visit.machine.dispensePhase = .paused →
        visit.sensed.dispensePosition = visit.machine.dispensePosition))
    ⟨fun ⟨ongoing, forward, within, paused⟩ => ⟨ongoing, forward, within, paused⟩,
      fun h => ⟨h.ongoing, h.forward, h.within, h.paused⟩⟩

/-- The rest of a dispense that was paused once: it is paused again and then completed. -/
def plungerRest : List (Turn ScriptedChannel) :=
  [.of 17 id (some .resume), .of 18 (ScriptedChannel.advance 200) (some .pause),
    .of 19 ScriptedChannel.halt none, .of 20 id (some .resume),
    .of 21 ScriptedChannel.finish none]

/-- The course of that dispense. -/
def plungerCourse : Course where
  start := 0
  direction := .positive
  total := 800

/-- A dispense of 800 increments is paused after 300 and after 500 of them, and completed. -/
theorem pausing_keeps_target_twice :
    plunger.IsBuilt ∧
      ((plunger.run plungerHoming).visits (plungerPause ++ plungerRest)).map
          (fun visit => (visit.next.dispensePhase, visit.next.dispensePosition)) =
        [(.active, 0), (.pausing, 300), (.paused, 300), (.active, 300), (.pausing, 500),
          (.paused, 500), (.active, 500), (.idle, 800)] ∧
      ∀ visit ∈ (plunger.run plungerHoming).visits (plungerPause ++ plungerRest),
        visit.KeepsCourse plungerCourse := by
  have haccept : Visit.accepted? ⟨plunger.run plungerHoming,
      .of 14 id (some (.dispense ⟨.inject, 1, 1, 1, 50⟩))⟩ =
        some (.dispense ⟨.inject, 1, 1, 1, 50⟩) := by decide +kernel
  refine ⟨plunger_isBuilt, by decide +kernel, ?_⟩
  exact pausing_keeps_target plunger_isBuilt plungerHoming haccept (by decide +kernel)
    (by decide) (by decide +kernel)

end MotionControl
