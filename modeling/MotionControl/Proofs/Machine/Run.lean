import MotionControl.Proofs.Axis.Run
import MotionControl.Proofs.Machine.Command
import MotionControl.Proofs.Machine.Update

/-!
# Runs of a machine

Between two ticks the channels go their own way, and with each tick comes the time and perhaps a
command. A `Turn` is both; a run is a list of turns.

* `Visit`: a machine at the beginning of a turn, with the stages of that turn.
* `visits`, `run`: the visits of a run, and the machine after it.
* `run_invariant`, `run_induction`: what every turn preserves holds all along a run, and so it does
  together with the visits of the past.
* `IsBuilt.isFresh`: what a machine is like when it has been built from settings.
-/

namespace MotionControl

/-- What comes to a machine from outside between two ticks and with the second of them. -/
structure Turn (C : Type) where
  /-- What becomes of each channel, by the place of its axis and its own place there. -/
  feedback : Nat → Nat → C → C
  now : Nat
  command : Option Command

variable {C : Type}

namespace Machine

/-- The machine after its channels have gone their own way. -/
def sense (feedback : Nat → Nat → C → C) (machine : Machine C) : Machine C :=
  { machine with axes := machine.axes.mapIdx fun index axis => axis.sense (feedback index) }

theorem getElem?_sense (feedback : Nat → Nat → C → C) (machine : Machine C) (i : Nat) :
    (machine.sense feedback).axes[i]? = machine.axes[i]?.map (Axis.sense (feedback i)) := by
  simp [sense]

variable [MotorChannel C]

/-- **A command is carried out, or it changes nothing.** -/
theorem accept_cases (machine : Machine C) (command : Option Command) (now : Nat) :
    (∃ given, command = some given ∧ (machine.accept command now).2 = some (.ok ()) ∧
        machine.Carries now given (machine.accept command now).1) ∨
      ((machine.accept command now).2 ≠ some (.ok ()) ∧
        (machine.accept command now).1 = machine) := by
  cases command with
  | none => exact .inr ⟨nofun, rfl⟩
  | some given =>
    cases hrun : (handle given now).run machine with
    | ok u machine' =>
      have haccept : machine.accept (some given) now = (machine', some (.ok ())) := by
        simp [accept, hrun]
      rw [haccept]
      exact .inl ⟨given, rfl, rfl, handle_ok hrun⟩
    | error refusal machine' =>
      have haccept : machine.accept (some given) now = (machine', some (.error refusal)) := by
        simp [accept, hrun]
      rw [haccept]
      exact .inr ⟨nofun, handle_atomic _ _ _ _ _ hrun⟩

end Machine

/-- A machine at the beginning of a turn. -/
structure Visit (C : Type) where
  machine : Machine C
  turn : Turn C

namespace Visit

variable [MotorChannel C]

/-- The machine that the tick finds. -/
def sensed (visit : Visit C) : Machine C := visit.machine.sense visit.turn.feedback

/-- The machine when the command has been handled. -/
def handled (visit : Visit C) : Machine C :=
  (visit.sensed.accept visit.turn.command visit.turn.now).1

/-- The machine after the tick. -/
def next (visit : Visit C) : Machine C :=
  (visit.sensed.tick visit.turn.now visit.turn.command).1

/-- What the tick has produced. -/
def output (visit : Visit C) : TickOutput :=
  (visit.sensed.tick visit.turn.now visit.turn.command).2

/-- The command of the turn, if the tick has accepted it. -/
def accepted? (visit : Visit C) : Option Command :=
  match visit.output.reply with
  | some (.ok ()) => visit.turn.command
  | _ => none

theorem axes_next (visit : Visit C) :
    visit.next.axes = (visit.handled.update visit.turn.now).1.axes :=
  Machine.axes_tick ..

theorem dispense_next (visit : Visit C) :
    visit.next.dispense = (visit.handled.update visit.turn.now).1.dispense :=
  Machine.dispense_tick ..

theorem events_output (visit : Visit C) :
    visit.output.events = (visit.handled.update visit.turn.now).2 := rfl

/-- The events of the dispense that the tick reports. -/
def dispenseEvents (visit : Visit C) : List DispenseEvent :=
  visit.output.events.filterMap MachineEvent.ofDispense?

theorem mem_dispenseEvents {visit : Visit C} {ended : DispenseEvent} :
    ended ∈ visit.dispenseEvents ↔ MachineEvent.dispense ended ∈ visit.output.events := by
  rw [dispenseEvents, List.mem_filterMap]
  constructor
  · rintro ⟨event, hevent, hof⟩
    cases event with
    | axis => cases hof
    | dispense => cases hof; exact hevent
  · intro hevent
    exact ⟨_, hevent, rfl⟩

theorem dispenseEvents_eq {visit : Visit C} (hlength : visit.handled.axes.length ≤ maxAxes)
    {station : DispenseStation} (hstation : visit.handled.dispense = some station) {axis : Axis C}
    (haxis : visit.handled.axes[station.axisIndex]? = some axis) :
    visit.dispenseEvents =
      (station.dispenser.update (axis.update visit.turn.now).1
        (axis.update visit.turn.now).2).2.toList := by
  rw [dispenseEvents, events_output, Machine.events_update hlength, hstation]
  exact (Machine.dispense_updateAxes _ (Nat.zero_le _) haxis).2

theorem dispenseEvents_eq_nil {visit : Visit C} (hlength : visit.handled.axes.length ≤ maxAxes)
    (hnone : visit.handled.dispense = none) : visit.dispenseEvents = [] := by
  rw [dispenseEvents, events_output, Machine.events_update hlength, hnone]
  exact (Machine.dispense_updateAxes_none 0 _).2

/-- A command is carried out, or the tick goes on with the machine that it found. -/
theorem handled_cases (visit : Visit C) :
    (∃ command, visit.accepted? = some command ∧
        visit.sensed.Carries visit.turn.now command visit.handled) ∨
      (visit.accepted? = none ∧ visit.handled = visit.sensed) := by
  have hreply : visit.output.reply =
      (visit.sensed.accept visit.turn.command visit.turn.now).2 := rfl
  rcases visit.sensed.accept_cases visit.turn.command visit.turn.now with
    ⟨command, hcommand, haccept, hcarries⟩ | ⟨hnot, hsame⟩
  · refine .inl ⟨command, ?_, hcarries⟩
    rw [accepted?, hreply, haccept]
    exact hcommand
  · refine .inr ⟨?_, hsame⟩
    rw [accepted?, hreply]
    split
    · rename_i haccept
      exact absurd haccept hnot
    · rfl

end Visit

/-! ## Runs -/

namespace Machine

section Runs

variable [MotorChannel C]

/-- The visits of a run. -/
def visits : Machine C → List (Turn C) → List (Visit C)
  | _, [] => []
  | machine, turn :: turns => ⟨machine, turn⟩ :: visits (Visit.next ⟨machine, turn⟩) turns

/-- The machine after a run. -/
def run : Machine C → List (Turn C) → Machine C
  | machine, [] => machine
  | machine, turn :: turns => run (Visit.next ⟨machine, turn⟩) turns

/-- **What every turn preserves holds at every visit of a run, and after it.** -/
theorem run_invariant (Inv : Machine C → Prop) {machine : Machine C} {turns : List (Turn C)}
    (hstart : Inv machine)
    (hstep : ∀ visit ∈ machine.visits turns, Inv visit.machine → Inv visit.next) :
    (∀ visit ∈ machine.visits turns, Inv visit.machine) ∧ Inv (machine.run turns) := by
  -- on the turns, from whatever machine they start: the machine after the first keeps the property
  induction turns generalizing machine with
  | nil => exact ⟨fun visit h => (List.not_mem_nil h).elim, hstart⟩
  | cons turn turns ih =>
    have hfirst : Inv (Visit.next ⟨machine, turn⟩) := hstep ⟨machine, turn⟩ (.head _) hstart
    obtain ⟨hvisits, hrun⟩ := ih hfirst fun visit h => hstep visit (.tail _ h)
    refine ⟨fun visit h => ?_, hrun⟩
    rcases List.mem_cons.1 h with rfl | h
    · exact hstart
    · exact hvisits visit h

/-- **What every turn preserves holds all along a run**, of the machine together with its past. -/
theorem run_induction (Inv : List (Visit C) → Machine C → Prop)
    (hstep : ∀ past visit, Inv past visit.machine → Inv (past ++ [visit]) visit.next)
    (turns : List (Turn C)) {start : Machine C} (hstart : Inv [] start) :
    Inv (start.visits turns) (start.run turns) := by
  have key (past : List (Visit C)) (machine : Machine C) (h : Inv past machine) :
      Inv (past ++ machine.visits turns) (machine.run turns) := by
    -- on the turns, from whatever past: the first visit goes over from the run to the past
    induction turns generalizing past machine with
    | nil => rwa [visits, List.append_nil]
    | cons turn turns ih =>
      have hrest := ih _ _ (hstep past ⟨machine, turn⟩ h)
      rwa [List.append_assoc] at hrest
  exact key [] start hstart

end Runs

/-! ## Machines that have just been built -/

/-- The machine comes from settings, with channels from a function that may have effects. -/
def IsBuilt (machine : Machine C) : Prop :=
  ∃ (σ : Type) (makeChannel : AxisSettings → Nat → StateM σ C) (settings : MachineSettings) (s : σ),
    ((ofSettings makeChannel settings).run s).1 = .ok machine

/-- Every axis is at rest and the dispense, if there is one, is idle on an axis that is there. -/
structure IsFresh (machine : Machine C) : Prop where
  length_le : machine.axes.length ≤ maxAxes
  axes : ∀ axis ∈ machine.axes, axis.state = .standby ∧ axis.pending = none
  dispense : ∀ station ∈ machine.dispense,
    station.axisIndex < machine.axes.length ∧ station.dispenser.phase = .idle ∧
      station.dispenser.operation? = none ∧ station.dispenser.pending = none

section Building

variable {σ : Type} {makeChannel : AxisSettings → Nat → StateM σ C} {s s' : σ}

/-- A sequence of steps that may fail succeeds step by step. -/
theorem run_bindT_ok {α β : Type} {f : ExceptT SettingsError (StateM σ) α}
    {g : α → ExceptT SettingsError (StateM σ) β} {b : β}
    (h : (ExceptT.run (f >>= g)).run s = (.ok b, s')) :
    ∃ a s₁, (ExceptT.run f).run s = (.ok a, s₁) ∧ (ExceptT.run (g a)).run s₁ = (.ok b, s') := by
  rw [ExceptT.run_bind, StateT.run_bind] at h
  cases hf : (ExceptT.run f).run s with
  | mk result s₁ =>
    rw [hf] at h
    cases result with
    | ok a => exact ⟨a, s₁, rfl, h⟩
    | error e => cases h

theorem atRest_of_buildAxis {settings : AxisSettings} {axis : Axis C}
    (h : (ExceptT.run (buildAxis makeChannel settings)).run s = (.ok axis, s')) :
    axis.state = .standby ∧ axis.pending = none := by
  obtain ⟨channels, s₁, -, h⟩ := run_bindT_ok h
  obtain ⟨hstate, hpending, -⟩ := Axis.atRest_of_ofChannels (congrArg Prod.fst h)
  exact ⟨hstate, hpending⟩

theorem atRest_of_mapM {settings : List AxisSettings} {axes : List (Axis C)}
    (h : (ExceptT.run (settings.mapM (buildAxis makeChannel))).run s = (.ok axes, s')) :
    axes.length = settings.length ∧
      ∀ axis ∈ axes, axis.state = .standby ∧ axis.pending = none := by
  induction settings generalizing axes s s' with
  | nil =>
    cases h
    simp
  | cons first rest ih =>
    rw [List.mapM_cons] at h
    obtain ⟨axis, s₁, haxis, h⟩ := run_bindT_ok h
    obtain ⟨axes', s₂, haxes, h⟩ := run_bindT_ok h
    cases h
    obtain ⟨hlen, hrest⟩ := ih haxes
    exact ⟨by simp [hlen], List.forall_mem_cons.2 ⟨atRest_of_buildAxis haxis, hrest⟩⟩

end Building

/-- **A machine that has just been built is at rest.** -/
theorem IsBuilt.isFresh {machine : Machine C} (h : machine.IsBuilt) : machine.IsFresh := by
  obtain ⟨σ, makeChannel, settings, s, h⟩ := h
  obtain ⟨s', h⟩ : ∃ s', ((ofSettings makeChannel settings).run s) = (.ok machine, s') :=
    ⟨_, Prod.ext h rfl⟩
  obtain ⟨_, _, -, h⟩ := run_bindT_ok h
  obtain ⟨axes, s₁, haxes, h⟩ := run_bindT_ok h
  obtain ⟨dispense, s₂, hdispense, h⟩ := run_bindT_ok h
  cases h
  obtain ⟨hlen, hrest⟩ := atRest_of_mapM haxes
  refine ⟨hlen ▸ settings.axes_length_le, hrest, fun station hstation => ?_⟩
  have hdispense : stationOf settings = .ok dispense := congrArg Prod.fst hdispense
  unfold stationOf at hdispense
  split at hdispense
  · cases hdispense; cases hstation
  split at hdispense
  · cases hdispense
  · rename_i index hindex
    cases hdispense
    cases hstation
    refine ⟨?_, rfl, rfl, rfl⟩
    rw [hlen]
    exact (List.findIdx?_eq_some_iff_getElem.1 hindex).1

end Machine

/-! ### A machine with one axis -/

/-- The name of the axis. -/
def plungerName : Label := ⟨"plunger", by decide⟩

/-- The settings of the plunger. -/
def plungerSettings : MachineSettings where
  axes := [{ name := plungerName }]
  dispense := some { axis := plungerName }

/-- A machine with one motor and a dispense on it. -/
def plunger : Machine ScriptedChannel where
  axes :=
    [{ settings := { name := plungerName }, channels := [{}], origins := [0]
       monitor := .ofCount 1 0.2 }]
  dispense := some { axisIndex := 0, dispenser := { settings := { axis := plungerName } } }
  telemetryInterval := 250

theorem plunger_isBuilt : plunger.IsBuilt :=
  ⟨Unit, fun _ _ => pure {}, plungerSettings, (), rfl⟩

/-- A turn in which something happens to every channel. -/
def Turn.of (now : Nat) (feedback : ScriptedChannel → ScriptedChannel)
    (command : Option Command) : Turn ScriptedChannel where
  feedback _ _ := feedback
  now
  command

/-- A homing run: the motor stalls at the end of both searches. -/
def plungerHoming : List (Turn ScriptedChannel) :=
  let stall (effort : Single) (c : ScriptedChannel) : ScriptedChannel :=
    { c with effort := some effort }
  [.of 1 id (some (.home plungerName 100 50)), .of 2 id none, .of 3 (stall 80) none,
    .of 4 (stall 0) none, .of 5 id none, .of 6 ScriptedChannel.finish none,
    .of 7 id none, .of 8 id none, .of 9 (stall 80) none,
    .of 10 (stall 0) none, .of 11 id none, .of 12 ScriptedChannel.finish none, .of 13 id none]

/-- A dispense that is paused after 300 of its 800 increments. -/
def plungerPause : List (Turn ScriptedChannel) :=
  [.of 14 id (some (.dispense ⟨.inject, 1, 1, 1, 50⟩)),
    .of 15 (ScriptedChannel.advance 300) (some .pause), .of 16 ScriptedChannel.halt none]

end MotionControl
