import MotionControl.Proofs.Ledger
import MotionControl.Proofs.Machine.Layout
import MotionControl.Proofs.Recording
import Mathlib.Data.List.Forall2

/-!
# No axis disturbs another

All axes of a machine share its ticks, its commands and its dispense. What an axis does depends
only on the time, on its own channels and on the commands that concern it: two runs that differ in
nothing else are alike in all that can be seen of the axis.

* `Command.Concerns`: the commands for an axis; those of the dispense are for the axis that it has.
* `Machine.AlikeAt`: two machines with the same axis at a place, and the same dispense on it.
* `AlikeAt.handle`, `Carries.alikeAt`: commands for the axis keep the machines alike, and others do
  not reach it.
* `Parallel.tick`: a tick keeps them alike.
* `axis_isolated`: **no axis disturbs another**, in any two runs.
-/

namespace MotionControl

open Attempt

/-! ## The commands for an axis -/

/-- The dispense is on the axis at a place. -/
def MachineSettings.DispensesOn (settings : MachineSettings) (place : Nat) : Prop :=
  ∃ dispense, settings.dispense = some dispense ∧ settings.HasName place dispense.axis

/-- A command is for the axis at a place: it names the axis, or it is for the dispense on it. -/
def Command.Concerns (settings : MachineSettings) (place : Nat) (command : Command) : Prop :=
  match command.axis? with
  | some name => settings.HasName place name
  | none => command ≠ .status ∧ settings.DispensesOn place

theorem MachineSettings.dispensesOn_iff {settings : MachineSettings} {place : Nat}
    (hvalid : settings.validate = .ok ()) :
    settings.DispensesOn place ↔ settings.dispensePlace? = some place := by
  simp only [DispensesOn, dispensePlace?, Option.bind_eq_some_iff, axisIndex?_eq_some_iff hvalid]

variable {C : Type}

theorem Machine.Fits.onPlace {settings : MachineSettings} {machine : Machine C} {place : Nat}
    (h : machine.Fits settings) (hvalid : settings.validate = .ok ())
    (hon : settings.DispensesOn place) :
    ∀ station ∈ machine.dispense, station.axisIndex = place := by
  intro station hstation
  have hplace := h.place
  rw [(MachineSettings.dispensesOn_iff hvalid).1 hon,
    show machine.dispense = some station from hstation] at hplace
  exact Option.some.inj hplace

/-! ## Machines that are alike at a place -/

namespace Machine

/-- Two machines with the same axis at a place and, if it is there, the same dispense. -/
structure AlikeAt (place : Nat) (machine₁ machine₂ : Machine C) : Prop where
  axis : machine₁.axes[place]? = machine₂.axes[place]?
  dispense : machine₁.dispense.filter (·.axisIndex == place) =
    machine₂.dispense.filter (·.axisIndex == place)

namespace AlikeAt

variable {place : Nat} {machine₁ machine₂ machine₃ : Machine C}

theorem refl (machine : Machine C) : AlikeAt place machine machine := ⟨rfl, rfl⟩

theorem symm (h : AlikeAt place machine₁ machine₂) : AlikeAt place machine₂ machine₁ :=
  ⟨h.axis.symm, h.dispense.symm⟩

theorem trans (h : AlikeAt place machine₁ machine₂) (h' : AlikeAt place machine₂ machine₃) :
    AlikeAt place machine₁ machine₃ :=
  ⟨h.axis.trans h'.axis, h.dispense.trans h'.dispense⟩

theorem isDispensingOn_eq (h : AlikeAt place machine₁ machine₂) :
    machine₁.isDispensingOn place = machine₂.isDispensingOn place := by
  have hfilter (machine : Machine C) : machine.isDispensingOn place =
      (machine.dispense.filter (·.axisIndex == place)).any (·.dispenser.isOngoing) := by
    unfold isDispensingOn
    cases machine.dispense with
    | none => rfl
    | some station =>
      cases hplace : station.axisIndex == place <;> simp [Option.filter, hplace]
  rw [hfilter, hfilter, h.dispense]

/-- A dispense on the axis is the same. -/
theorem dispense_eq (h : AlikeAt place machine₁ machine₂)
    (h₁ : ∀ station ∈ machine₁.dispense, station.axisIndex = place)
    (h₂ : ∀ station ∈ machine₂.dispense, station.axisIndex = place) :
    machine₁.dispense = machine₂.dispense := by
  have hall (machine : Machine C)
      (hm : ∀ station ∈ machine.dispense, station.axisIndex = place) :
      machine.dispense.filter (·.axisIndex == place) = machine.dispense := by
    cases hd : machine.dispense with
    | none => rfl
    | some station => simp [Option.filter, hm station hd]
  rw [← hall machine₁ h₁, ← hall machine₂ h₂, h.dispense]

theorem sense (h : AlikeAt place machine₁ machine₂) {feedback₁ feedback₂ : Nat → Nat → C → C}
    (hfeedback : feedback₁ place = feedback₂ place) :
    AlikeAt place (machine₁.sense feedback₁) (machine₂.sense feedback₂) := by
  refine ⟨?_, h.dispense⟩
  rw [getElem?_sense, getElem?_sense, h.axis, hfeedback]

theorem modifyAxis (h : AlikeAt place machine₁ machine₂) (f : Axis C → Axis C) :
    AlikeAt place (machine₁.modifyAxis place f) (machine₂.modifyAxis place f) := by
  refine ⟨?_, h.dispense⟩
  rw [getElem?_modifyAxis, getElem?_modifyAxis, h.axis]

end AlikeAt

variable {place : Nat}

/-- Two machines with the layout of the same settings that are alike at a place. -/
structure Parallel (settings : MachineSettings) (place : Nat)
    (machine₁ machine₂ : Machine C) : Prop where
  fits₁ : machine₁.Fits settings
  fits₂ : machine₂.Fits settings
  alike : AlikeAt place machine₁ machine₂

/-- A dispense on the axis is the same on both machines. -/
theorem Parallel.dispense_eq {settings : MachineSettings} {machine₁ machine₂ : Machine C}
    (h : Parallel settings place machine₁ machine₂) (hvalid : settings.validate = .ok ())
    (hon : settings.DispensesOn place) : machine₁.dispense = machine₂.dispense :=
  h.alike.dispense_eq (h.fits₁.onPlace hvalid hon) (h.fits₂.onPlace hvalid hon)

/-! ### Recorders -/

theorem Fits.recorded {settings : MachineSettings} {machine : Machine C}
    (h : machine.Fits settings) : machine.recorded.Fits settings := by
  refine ⟨?_, h.place⟩
  rw [← h.axes]
  exact List.map_map

theorem AlikeAt.recorded {machine₁ machine₂ : Machine C} (h : AlikeAt place machine₁ machine₂) :
    AlikeAt place machine₁.recorded machine₂.recorded := by
  refine ⟨?_, h.dispense⟩
  show (machine₁.axes.map _)[place]? = (machine₂.axes.map _)[place]?
  rw [List.getElem?_map, List.getElem?_map, h.axis]

/-! ### Commands for the axis -/

theorem alike_onAxis (attempt : Attempt (Axis C) Unit) :
    Simulates (AlikeAt place) Eq (onAxis place attempt) (onAxis place attempt) := by
  refine .bind .get fun machine₁ machine₂ h => ?_
  rw [h.axis]
  cases machine₂.axes[place]? with
  | none => exact .throw _
  | some axis =>
    refine .onPart (.refl attempt) (fun _ _ _ => rfl) ?_
    rintro axis' _ _ _ rfl hmachines
    exact hmachines.modifyAxis _

/-- The dispense, where it is on the axis. -/
structure SameStation (place : Nat) (machine₁ machine₂ : Machine C) : Prop where
  axis : machine₁.axes[place]? = machine₂.axes[place]?
  dispense : machine₁.dispense = machine₂.dispense
  onAxis : ∀ station ∈ machine₂.dispense, station.axisIndex = place

theorem SameStation.alikeAt {machine₁ machine₂ : Machine C}
    (h : SameStation place machine₁ machine₂) : AlikeAt place machine₁ machine₂ :=
  ⟨h.axis, by rw [h.dispense]⟩

theorem sameStation_onDispense (attempt : Attempt (Dispenser × Axis C) Unit) :
    Simulates (SameStation place) Eq (onDispense attempt) (onDispense attempt) := by
  refine .bind .get fun machine₁ machine₂ h => ?_
  rw [h.dispense]
  cases hstation : machine₂.dispense with
  | none => exact .throw _
  | some station =>
    have hplace : station.axisIndex = place := h.onAxis station hstation
    subst hplace
    refine .bind .get fun machine₁ machine₂ h => ?_
    rw [h.axis]
    cases machine₂.axes[station.axisIndex]? with
    | none => exact .throw _
    | some axis =>
      refine .onPart (.refl attempt) (fun _ _ _ => rfl) ?_
      rintro ⟨dispenser, axis'⟩ _ machine₁ machine₂ rfl h
      refine ⟨?_, rfl, fun station' hstation' => ?_⟩
      · exact (h.alikeAt.modifyAxis fun _ => axis').axis
      · cases hstation'
        rfl

theorem AlikeAt.agree_onDispense {machine₁ machine₂ : Machine C}
    (h : AlikeAt place machine₁ machine₂)
    (h₁ : ∀ station ∈ machine₁.dispense, station.axisIndex = place)
    (h₂ : ∀ station ∈ machine₂.dispense, station.axisIndex = place)
    (attempt : Attempt (Dispenser × Axis C) Unit) :
    Agree (AlikeAt place) Eq ((onDispense attempt).run machine₁)
      ((onDispense attempt).run machine₂) :=
  have hsame : SameStation place machine₁ machine₂ := ⟨h.axis, h.dispense_eq h₁ h₂, h₂⟩
  (sameStation_onDispense attempt _ _ hsame).mono fun _ _ h => h.alikeAt

/-- A dispense that is going on at the axis is the same on both machines. -/
theorem AlikeAt.agree_onDispense_of_busy {machine₁ machine₂ : Machine C}
    (h : AlikeAt place machine₁ machine₂) (hbusy : machine₂.isDispensingOn place = true)
    (attempt : Attempt (Dispenser × Axis C) Unit) :
    Agree (AlikeAt place) Eq ((onDispense attempt).run machine₁)
      ((onDispense attempt).run machine₂) := by
  have onPlace {machine : Machine C} (hbusy : machine.isDispensingOn place = true) :
      ∀ station ∈ machine.dispense, station.axisIndex = place := by
    obtain ⟨station, hstation, hplace, -⟩ := isDispensingOn_eq_true.1 hbusy
    intro station' hstation'
    cases hstation.symm.trans hstation'
    exact hplace
  exact h.agree_onDispense (onPlace (h.isDispensingOn_eq.trans hbusy)) (onPlace hbusy) attempt

/-- Whether a dispense is going on at the axis decides the same on both machines. -/
theorem alike_dispensing {busy idle : Attempt (Machine C) Unit}
    (hbusy : ∀ {machine₁ machine₂ : Machine C}, AlikeAt place machine₁ machine₂ →
      machine₂.isDispensingOn place = true →
        Agree (AlikeAt place) Eq (busy.run machine₁) (busy.run machine₂))
    (hidle : Simulates (AlikeAt place) Eq idle idle) :
    Simulates (AlikeAt place) Eq
      (get >>= fun machine => if machine.isDispensingOn place then busy else idle)
      (get >>= fun machine => if machine.isDispensingOn place then busy else idle) := by
  intro machine₁ machine₂ h
  rw [EStateM.run_bind, EStateM.run_bind, EStateM.run_get, EStateM.run_get]
  dsimp only
  rw [h.isDispensingOn_eq]
  split
  · rename_i hdispensing
    exact hbusy h hdispensing
  · exact hidle _ _ h

/-- What goes on after the axis with a name has been found. -/
theorem agree_lookup {machine₁ machine₂ : Machine C} (h : AlikeAt place machine₁ machine₂)
    {name : Label} {next : Nat → Attempt (Machine C) Unit}
    (h₁ : machine₁.axes.findIdx? (·.settings.name.text == name.text) = some place)
    (h₂ : machine₂.axes.findIdx? (·.settings.name.text == name.text) = some place)
    (hnext : Simulates (AlikeAt place) Eq (next place) (next place)) :
    Agree (AlikeAt place) Eq ((lookup name >>= next).run machine₁)
      ((lookup name >>= next).run machine₂) := by
  have hfound : Agree (AlikeAt place) (fun index₁ index₂ => index₁ = place ∧ index₂ = place)
      ((lookup name).run machine₁) ((lookup name).run machine₂) := by
    rw [lookup_ok.2 ⟨h₁, rfl⟩, lookup_ok.2 ⟨h₂, rfl⟩]
    exact .ok ⟨rfl, rfl⟩ h
  refine hfound.bind ?_
  rintro _ _ ⟨rfl, rfl⟩
  exact hnext

section

variable [MotorChannel C] {settings : MachineSettings} {machine₁ machine₂ : Machine C} {now : Nat}

/-- **A command for the axis has the same answer, and keeps the machines alike.** -/
theorem AlikeAt.handle {command : Command} (hvalid : settings.validate = .ok ())
    (h₁ : machine₁.Fits settings) (h₂ : machine₂.Fits settings)
    (h : AlikeAt place machine₁ machine₂) (hconcerns : command.Concerns settings place) :
    Agree (AlikeAt place) Eq ((handle command now).run machine₁)
      ((handle command now).run machine₂) := by
  have found {machine : Machine C} (hfits : machine.Fits settings) {name : Label}
      (hname : settings.HasName place name) :
      machine.axes.findIdx? (·.settings.name.text == name.text) = some place := by
    rw [hfits.findIdx?_eq]
    exact (MachineSettings.axisIndex?_eq_some_iff hvalid).2 hname
  have started {name : Label} (attempt : Attempt (Axis C) Unit)
      (hname : settings.HasName place name) :
      Agree (AlikeAt place) Eq ((startOnAxis name attempt).run machine₁)
        ((startOnAxis name attempt).run machine₂) := by
    refine agree_lookup h (found h₁ hname) (found h₂ hname) ?_
    refine .bind .get fun machine₁ machine₂ h => ?_
    rw [h.isDispensingOn_eq]
    exact .bind (.require _ _) fun _ _ _ => alike_onAxis attempt
  cases command with
  | move name request => exact started _ hconcerns
  | home name maxTravel torque => exact started _ hconcerns
  | abort name =>
    refine agree_lookup h (found h₁ hconcerns) (found h₂ hconcerns) ?_
    exact alike_dispensing (fun h hbusy => h.agree_onDispense_of_busy hbusy _) (alike_onAxis _)
  | enable name =>
    exact agree_lookup h (found h₁ hconcerns) (found h₂ hconcerns) (alike_onAxis _)
  | disable name =>
    refine agree_lookup h (found h₁ hconcerns) (found h₂ hconcerns) ?_
    refine alike_dispensing (fun h hbusy => ?_) (alike_onAxis _)
    exact (h.agree_onDispense_of_busy hbusy _).bind fun _ _ _ => alike_onAxis _
  | clearFault name =>
    exact agree_lookup h (found h₁ hconcerns) (found h₂ hconcerns) (alike_onAxis _)
  | dispense | pause | resume | cancel =>
    exact h.agree_onDispense (h₁.onPlace hvalid hconcerns.2) (h₂.onPlace hvalid hconcerns.2) _
  | status => exact absurd rfl hconcerns.1

/-! ### Commands for other axes -/

/-- **A command that is not for the axis does not reach it.** -/
theorem Carries.alikeAt {machine machine' : Machine C} {command : Command}
    (hcarries : machine.Carries now command machine') (hvalid : settings.validate = .ok ())
    (hfits : machine.Fits settings) (hnot : ¬ command.Concerns settings place) :
    AlikeAt place machine' machine := by
  have elsewhere {name : Label} {index : Nat} (hname : command.axis? = some name)
      (hfind : machine.axes.findIdx? (·.settings.name.text == name.text) = some index) :
      index ≠ place := by
    rintro rfl
    rw [hfits.findIdx?_eq] at hfind
    refine hnot ?_
    unfold Command.Concerns
    rw [hname]
    exact MachineSettings.hasName_of_axisIndex? hfind
  cases hcarries with
  | axis hname hfind haxis hobeys =>
    refine ⟨?_, rfl⟩
    rw [getElem?_modifyAxis, if_neg (elsewhere hname hfind)]
  | @dispense _ station axis axis' dispenser hstation haxis hobeys hplace =>
    have hne : station.axisIndex ≠ place := by
      cases hname : command.axis? with
      | some name => exact elsewhere hname (hplace name hname)
      | none =>
        -- a command of the dispense: it is for the axis that the dispense has
        rintro rfl
        have hon : settings.DispensesOn station.axisIndex := by
          rw [MachineSettings.dispensesOn_iff hvalid, ← hfits.place, hstation]
          rfl
        refine hnot ?_
        unfold Command.Concerns
        rw [hname]
        refine ⟨fun hstatus => ?_, hon⟩
        subst hstatus
        cases hobeys
    refine ⟨?_, ?_⟩
    · rw [getElem?_store, if_neg hne]
    · rw [hstation]
      simp [store, Option.filter, hne]
  | status => exact ⟨rfl, rfl⟩

/-- A tick takes no command for the axis. -/
theorem accept_alikeAt {machine : Machine C} {command : Option Command}
    (hvalid : settings.validate = .ok ()) (hfits : machine.Fits settings)
    (hnot : ∀ given, given.Concerns settings place → command ≠ some given) :
    AlikeAt place (machine.accept command now).1 machine := by
  rcases machine.accept_cases command now with ⟨given, rfl, -, hcarries⟩ | ⟨-, hsame⟩
  · exact hcarries.alikeAt hvalid hfits fun hconcerns => hnot given hconcerns rfl
  · rw [hsame]
    exact .refl machine

/-- **Two ticks with the same commands for the axis** give the same answers to them, and keep the
machines alike. -/
theorem AlikeAt.accept {command₁ command₂ : Option Command} (hvalid : settings.validate = .ok ())
    (h₁ : machine₁.Fits settings) (h₂ : machine₂.Fits settings)
    (h : AlikeAt place machine₁ machine₂)
    (hcommand : ∀ given, given.Concerns settings place →
      (command₁ = some given ↔ command₂ = some given)) :
    AlikeAt place (machine₁.accept command₁ now).1 (machine₂.accept command₂ now).1 ∧
      ∀ given, given.Concerns settings place → command₁ = some given →
        (machine₁.accept command₁ now).2 = (machine₂.accept command₂ now).2 := by
  by_cases hgiven : ∃ given, given.Concerns settings place ∧ command₁ = some given
  · obtain ⟨given, hconcerns, rfl⟩ := hgiven
    obtain rfl := (hcommand given hconcerns).1 rfl
    have hagree : Agree (AlikeAt place) Eq ((Machine.handle given now).run machine₁)
        ((Machine.handle given now).run machine₂) := h.handle hvalid h₁ h₂ hconcerns
    simp only [Machine.accept]
    generalize (Machine.handle given now).run machine₁ = result₁ at hagree ⊢
    generalize (Machine.handle given now).run machine₂ = result₂ at hagree ⊢
    cases hagree with
    | ok hvalue hstate => exact ⟨hstate, fun _ _ _ => rfl⟩
    | error hstate => exact ⟨hstate, fun _ _ _ => rfl⟩
  · have hnot₁ : ∀ given, given.Concerns settings place → command₁ ≠ some given :=
      fun given hconcerns hsome => hgiven ⟨given, hconcerns, hsome⟩
    have hnot₂ : ∀ given, given.Concerns settings place → command₂ ≠ some given :=
      fun given hconcerns hsome => hnot₁ given hconcerns ((hcommand given hconcerns).2 hsome)
    refine ⟨?_, fun given hconcerns hsome => absurd hsome (hnot₁ given hconcerns)⟩
    exact (accept_alikeAt hvalid h₁ hnot₁).trans (h.trans (accept_alikeAt hvalid h₂ hnot₂).symm)

/-! ### Updates -/

/-- **The updates keep machines alike.** -/
theorem AlikeAt.update (h₁ : machine₁.Fits settings) (h₂ : machine₂.Fits settings)
    (h : AlikeAt place machine₁ machine₂) (now : Nat) :
    AlikeAt place (machine₁.update now).1 (machine₂.update now).1 := by
  refine ⟨?_, ?_⟩
  · rw [axes_update, axes_update, List.getElem?_map, List.getElem?_map, h.axis]
  · -- the dispense of another axis has it still, and one of this axis is updated with it
    have hfilter {machine : Machine C} (hfits : machine.Fits settings) :
        (machine.update now).1.dispense.filter (·.axisIndex == place) =
          (machine.dispense.filter (·.axisIndex == place)).bind fun station =>
            machine.axes[place]?.map fun axis =>
              { station with
                dispenser :=
                  (station.dispenser.update (axis.update now).1 (axis.update now).2).1 } := by
      cases hstation : machine.dispense with
      | none =>
        rw [dispense_update_none hstation]
        rfl
      | some station =>
        obtain ⟨axis, haxis⟩ := hfits.exists_axis hstation
        rw [dispense_update hstation haxis]
        by_cases hplace : station.axisIndex = place
        · subst hplace
          simp [Option.filter, haxis]
        · simp [Option.filter, hplace]
    rw [hfilter h₁, hfilter h₂, h.axis, h.dispense]

end

end Machine

/-! ## Turns and runs -/

/-- Two turns with the same time and the same feedback of the channels of an axis, and with the
same command as far as it is for the axis. -/
structure Turn.AlikeAt (settings : MachineSettings) (place : Nat) (turn₁ turn₂ : Turn C) :
    Prop where
  now : turn₁.now = turn₂.now
  feedback : turn₁.feedback place = turn₂.feedback place
  command : ∀ given, given.Concerns settings place →
    (turn₁.command = some given ↔ turn₂.command = some given)

variable [MotorChannel C]

/-- Two ticks that are alike in all that can be seen of an axis. -/
structure Visit.AlikeAt (settings : MachineSettings) (place : Nat) (visit₁ visit₂ : Visit C) :
    Prop where
  /-- The axis comes out of them the same. -/
  axis : visit₁.next.axes[place]? = visit₂.next.axes[place]?
  /-- Its channels receive the same commands. -/
  received : visit₁.received place = visit₂.received place
  /-- A command for it has the same answer. -/
  reply : ∀ given, given.Concerns settings place → visit₁.turn.command = some given →
    visit₁.output.reply = visit₂.output.reply
  /-- The same events of it are reported. -/
  events : visit₁.axisEvents place = visit₂.axisEvents place
  /-- The dispense on it comes out the same. -/
  dispense : settings.DispensesOn place → visit₁.next.dispense = visit₂.next.dispense
  /-- The same events of that dispense are reported. -/
  dispenseEvents : settings.DispensesOn place → visit₁.dispenseEvents = visit₂.dispenseEvents

namespace Machine

section

variable {settings : MachineSettings} {place : Nat} {machine₁ machine₂ : Machine C}

theorem Parallel.accept (h : Parallel settings place machine₁ machine₂)
    (hvalid : settings.validate = .ok ()) {command₁ command₂ : Option Command} (now : Nat)
    (hcommand : ∀ given, given.Concerns settings place →
      (command₁ = some given ↔ command₂ = some given)) :
    Parallel settings place (machine₁.accept command₁ now).1 (machine₂.accept command₂ now).1 :=
  ⟨h.fits₁.accept _ _, h.fits₂.accept _ _,
    (h.alike.accept hvalid h.fits₁ h.fits₂ hcommand).1⟩

/-- **A tick keeps machines alike.** -/
theorem Parallel.tick (h : Parallel settings place machine₁ machine₂)
    (hvalid : settings.validate = .ok ()) {command₁ command₂ : Option Command} (now : Nat)
    (hcommand : ∀ given, given.Concerns settings place →
      (command₁ = some given ↔ command₂ = some given)) :
    Parallel settings place (machine₁.tick now command₁).1 (machine₂.tick now command₂).1 := by
  have haccept := h.accept hvalid now hcommand
  have hupdate := haccept.alike.update haccept.fits₁ haccept.fits₂ now
  refine ⟨h.fits₁.tick _ _, h.fits₂.tick _ _, ?_, ?_⟩
  · rw [axes_tick, axes_tick]
    exact hupdate.axis
  · rw [dispense_tick, dispense_tick]
    exact hupdate.dispense

end

end Machine

namespace Visit

variable {settings : MachineSettings} {place : Nat} {visit₁ visit₂ : Visit C}

/-- **Turns that are alike make ticks that are alike**, on machines that are alike. -/
theorem alikeAt (hvalid : settings.validate = .ok ())
    (hmachine : Machine.Parallel settings place visit₁.machine visit₂.machine)
    (hturn : Turn.AlikeAt settings place visit₁.turn visit₂.turn) :
    Visit.AlikeAt settings place visit₁ visit₂ ∧
      Machine.Parallel settings place visit₁.next visit₂.next := by
  have hsensed : Machine.Parallel settings place visit₁.sensed visit₂.sensed :=
    ⟨hmachine.fits₁.sense _, hmachine.fits₂.sense _, hmachine.alike.sense hturn.feedback⟩
  have hhandled : Machine.Parallel settings place visit₁.handled visit₂.handled := by
    unfold handled
    rw [← hturn.now]
    exact hsensed.accept hvalid visit₁.turn.now hturn.command
  have hnext : Machine.Parallel settings place visit₁.next visit₂.next := by
    unfold Visit.next
    rw [← hturn.now]
    exact hsensed.tick hvalid visit₁.turn.now hturn.command
  have hroom {machine : Machine C} (hfits : machine.Fits settings) :
      machine.axes.length ≤ maxAxes := hfits.length_eq ▸ settings.axes_length_le
  refine ⟨⟨hnext.alike.axis, ?received, ?reply, ?events, hnext.dispense_eq hvalid,
    ?dispenseEvents⟩, hnext⟩
  case received =>
    have hrecorded : Machine.Parallel settings place visit₁.sensed.recorded
        visit₂.sensed.recorded :=
      ⟨hsensed.fits₁.recorded, hsensed.fits₂.recorded, hsensed.alike.recorded⟩
    unfold received
    dsimp only
    rw [← hturn.now, (hrecorded.tick hvalid visit₁.turn.now hturn.command).alike.axis]
  case reply =>
    show ∀ given, _ → _ → (visit₁.sensed.accept _ _).2 = (visit₂.sensed.accept _ _).2
    rw [← hturn.now]
    exact (hsensed.alike.accept hvalid hsensed.fits₁ hsensed.fits₂ hturn.command).2
  case events =>
    rw [axisEvents_eq place (hroom hhandled.fits₁), axisEvents_eq place (hroom hhandled.fits₂),
      hhandled.alike.isDispensingOn_eq, hhandled.alike.axis, hturn.now]
  case dispenseEvents =>
    intro hon
    have hsame := hhandled.dispense_eq hvalid hon
    cases hstation : visit₂.handled.dispense with
    | none =>
      rw [dispenseEvents_eq_nil (hroom hhandled.fits₁) (hsame.trans hstation),
        dispenseEvents_eq_nil (hroom hhandled.fits₂) hstation]
    | some station =>
      obtain rfl := hhandled.fits₂.onPlace hvalid hon station hstation
      obtain ⟨axis, haxis⟩ := hhandled.fits₂.exists_axis hstation
      rw [dispenseEvents_eq (hroom hhandled.fits₁) (hsame.trans hstation)
          (hhandled.alike.axis.trans haxis),
        dispenseEvents_eq (hroom hhandled.fits₂) hstation haxis, hturn.now]

end Visit

/-- **No axis disturbs another.** Take two machines built from the same valid settings, with the
same channels on the axis at some place, and two runs of them: with the same times, the same
feedback of the channels of that axis, and the same commands for it at the same turns. Then every
tick is alike in all that can be seen of the axis, whatever the other axes are made of, whatever
their channels do and whatever they are commanded. -/
theorem axis_isolated {settings : MachineSettings} {machine₁ machine₂ : Machine C}
    (h₁ : machine₁.IsBuiltFrom settings) (h₂ : machine₂.IsBuiltFrom settings) {place : Nat}
    (haxis : machine₁.axes[place]? = machine₂.axes[place]?) {turns₁ turns₂ : List (Turn C)}
    (hturns : List.Forall₂ (Turn.AlikeAt settings place) turns₁ turns₂) :
    List.Forall₂ (Visit.AlikeAt settings place) (machine₁.visits turns₁)
      (machine₂.visits turns₂) := by
  obtain ⟨hvalid, -, hstation₁⟩ := h₁.taken
  obtain ⟨-, -, hstation₂⟩ := h₂.taken
  have hdispense : machine₁.dispense = machine₂.dispense :=
    Except.ok.inj (hstation₁.symm.trans hstation₂)
  have hparallel : Machine.Parallel settings place machine₁ machine₂ :=
    ⟨h₁.fits, h₂.fits, haxis, by rw [hdispense]⟩
  clear h₁ h₂ haxis hstation₁ hstation₂ hdispense
  -- on the turns: each pair of them starts from machines that are alike, and leaves such
  induction hturns generalizing machine₁ machine₂ with
  | nil => exact .nil
  | @cons turn₁ turn₂ _ _ hturn _ ih =>
    have hfirst : Visit.AlikeAt settings place ⟨machine₁, turn₁⟩ ⟨machine₂, turn₂⟩ ∧
        Machine.Parallel settings place (Visit.next ⟨machine₁, turn₁⟩)
          (Visit.next ⟨machine₂, turn₂⟩) := Visit.alikeAt hvalid hparallel hturn
    exact .cons hfirst.1 (ih hfirst.2)

/-! ### A machine with two axes -/

/-- The name of the second axis. -/
def gateName : Label := ⟨"gate", by decide⟩

/-- The settings of a machine with a dispense on the first of its two axes. -/
def gatedSettings : MachineSettings where
  axes := [{ name := plungerName }, { name := gateName }]
  dispense := some { axis := plungerName }

/-- That machine, with one motor for each axis. -/
def gatedPlunger : Machine ScriptedChannel :=
  { plunger with
    axes := plunger.axes ++
      [{ settings := { name := gateName }, channels := [{}], origins := [0]
         monitor := .ofCount 1 0.2 }] }

theorem gatedPlunger_isBuilt : gatedPlunger.IsBuiltFrom gatedSettings :=
  ⟨Unit, fun _ _ => pure {}, (), rfl⟩

/-- A turn in which the second axis is homed when the first is not commanded, and its motors do
something else. -/
def Turn.disturb (turn : Turn ScriptedChannel) : Turn ScriptedChannel where
  feedback index := if index = 0 then turn.feedback 0 else fun _ => ScriptedChannel.finish
  now := turn.now
  command := turn.command <|> some (.home gateName 100 50)

theorem Turn.alikeAt_disturb (turn : Turn ScriptedChannel) :
    Turn.AlikeAt gatedSettings 0 turn turn.disturb := by
  refine ⟨rfl, rfl, fun given hconcerns => ?_⟩
  cases hcommand : turn.command with
  | some command => simp [disturb, hcommand]
  | none =>
    have hnot : ¬ Command.Concerns gatedSettings 0 (.home gateName 100 50) := by
      simp [Command.Concerns, Command.axis?, MachineSettings.HasName, gatedSettings, plungerName,
        gateName]
    have hne : Command.home gateName 100 50 ≠ given := fun hsame => hnot (hsame ▸ hconcerns)
    simp [disturb, hcommand, hne]

/-- The first axis is homed and dispenses, while the second one is homed again and again. -/
theorem axis_isolated_plunger :
    (gatedPlunger.run (plungerHoming ++ plungerPause)).dispense.map (·.dispenser.phase) =
        some .paused ∧
      (gatedPlunger.run ((plungerHoming ++ plungerPause).map Turn.disturb)).axes[1]?.map
        (·.state.name) = some "Homing" ∧
      List.Forall₂ (Visit.AlikeAt gatedSettings 0)
        (gatedPlunger.visits (plungerHoming ++ plungerPause))
        (gatedPlunger.visits ((plungerHoming ++ plungerPause).map Turn.disturb)) := by
  refine ⟨by decide +kernel, by decide +kernel, ?_⟩
  refine axis_isolated gatedPlunger_isBuilt gatedPlunger_isBuilt rfl ?_
  exact List.forall₂_map_right_iff.2 (List.forall₂_same.2 fun turn _ => turn.alikeAt_disturb)

end MotionControl
