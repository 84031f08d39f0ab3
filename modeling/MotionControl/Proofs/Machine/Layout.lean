import MotionControl.Proofs.Dispense.Command
import MotionControl.Proofs.Machine.Run
import MotionControl.Proofs.Settings.Validity

/-!
# A machine keeps the layout of its settings

* `Machine.IsBuiltFrom`, `Machine.Fits`: a machine that has been built from settings has the axes
  and the place of the dispense that they say.
* `Machine.Fits.carries`, `Machine.Fits.update`, `Machine.Fits.tick`: nothing changes that.
-/

namespace MotionControl

/-! ## Axes keep their settings -/

variable {C : Type} [MotorChannel C]

namespace Axis

variable {axis axis' : Axis C} {now : Nat}

theorem update_settings (axis : Axis C) (now : Nat) :
    (axis.update now).1.settings = axis.settings := by
  cases hpending : axis.pending with
  | some event =>
    rw [update_of_pending hpending]
    rfl
  | none => exact (axis.update_step now hpending).settings

theorem settings_of_run (call : AxisCall) {u : Unit} (h : call.attempt.run axis = .ok u axis') :
    axis'.settings = axis.settings :=
  congrArg (fun build => build.1) (callCase_of_run h).build_eq

theorem Obeys.settings_eq {isDispensing : Bool} {command : Command}
    (h : Obeys now isDispensing command axis axis') : axis'.settings = axis.settings := by
  cases h with
  | @move _ request _ _ hrun => exact settings_of_run (.moveTo request now) hrun
  | @home _ maxTravel torque _ _ hrun =>
    exact settings_of_run (.home maxTravel torque now) hrun
  | abort => exact settings_of_run .abort rfl
  | enable => exact settings_of_run .enable rfl
  | disable => exact settings_of_run .disable rfl
  | clearFault hrun => exact settings_of_run .clearFault hrun

end Axis

theorem Dispenser.Obeys.settings_eq {now : Nat} {command : Command}
    {dispenser dispenser' : Dispenser} {axis axis' : Axis C}
    (h : Obeys now command (dispenser, axis) (dispenser', axis')) :
    axis'.settings = axis.settings := by
  have moved {increments : Int} {velocity accel torque : Single}
      (hmove : (Axis.tryMoveIncrements increments velocity accel torque now).run axis =
        .ok () axis') : axis'.settings = axis.settings :=
    Axis.settings_of_run (.moveIncrements increments velocity accel torque now) hmove
  have aborted : axis.abort.settings = axis.settings :=
    Axis.settings_of_run .abort rfl
  cases h with
  | start hrun =>
    obtain ⟨-, -, -, operation, -, hmove, -⟩ := tryStart_ok.1 hrun
    exact moved hmove
  | pause hrun =>
    obtain ⟨-, hstop, -⟩ := tryPause_ok.1 hrun
    exact Axis.settings_of_run .stopDecelerated hstop
  | resume hrun =>
    obtain ⟨-, operation, -, ⟨-, -, rfl⟩ | ⟨-, hmove, -⟩⟩ := tryResume_ok.1 hrun
    · rfl
    · exact moved hmove
  | cancel hrun | abort hrun =>
    obtain ⟨-, rfl, -⟩ := tryCancel_ok.1 hrun
    exact aborted
  | disable hrun =>
    obtain ⟨-, rfl, -⟩ := tryCancel_ok.1 hrun
    exact (Axis.settings_of_run .disable rfl).trans aborted

/-! ## Machines keep their layout -/

namespace Machine

/-- The machine comes from these settings, with channels from a function that may have effects. -/
def IsBuiltFrom {C : Type} (settings : MachineSettings) (machine : Machine C) : Prop :=
  ∃ (σ : Type) (makeChannel : AxisSettings → Nat → StateM σ C) (s : σ),
    ((ofSettings makeChannel settings).run s).1 = .ok machine

/-- The machine has the axes and the place of the dispense that the settings say. -/
structure Fits {C : Type} (settings : MachineSettings) (machine : Machine C) : Prop where
  axes : machine.axes.map (·.settings) = settings.axes
  place : machine.dispense.map (·.axisIndex) = settings.dispensePlace?

section

variable {C : Type} {settings : MachineSettings} {machine machine' : Machine C}

theorem Fits.congr (h : machine.Fits settings)
    (haxes : machine'.axes.map (·.settings) = machine.axes.map (·.settings))
    (hplace : machine'.dispense.map (·.axisIndex) = machine.dispense.map (·.axisIndex)) :
    machine'.Fits settings :=
  ⟨haxes.trans h.axes, hplace.trans h.place⟩

theorem Fits.length_eq (h : machine.Fits settings) :
    machine.axes.length = settings.axes.length := by
  rw [← h.axes, List.length_map]

theorem Fits.findIdx?_eq (h : machine.Fits settings) (name : Label) :
    machine.axes.findIdx? (·.settings.name.text == name.text) = settings.axisIndex? name.text := by
  unfold MachineSettings.axisIndex?
  rw [← h.axes, List.findIdx?_map]
  rfl

/-- The axis of the dispense is there. -/
theorem Fits.exists_axis (h : machine.Fits settings) {station : DispenseStation}
    (hstation : machine.dispense = some station) :
    ∃ axis, machine.axes[station.axisIndex]? = some axis := by
  have hplace := h.place
  rw [hstation] at hplace
  have hlt := MachineSettings.lt_of_dispensePlace? hplace.symm
  rw [← h.length_eq] at hlt
  exact ⟨_, List.getElem?_eq_getElem hlt⟩

theorem settings_modify {axes : List (Axis C)} {index : Nat} {axis axis' : Axis C}
    (haxis : axes[index]? = some axis) (h : axis'.settings = axis.settings) :
    (axes.modify index fun _ => axis').map (·.settings) = axes.map (·.settings) := by
  refine List.ext_getElem? fun i => ?_
  simp only [List.getElem?_map, List.getElem?_modify]
  split
  · rename_i hi
    subst hi
    simp [haxis, h]
  · simp

theorem Fits.sense (h : machine.Fits settings) (feedback : Nat → Nat → C → C) :
    (machine.sense feedback).Fits settings := by
  refine h.congr (List.ext_getElem? fun i => ?_) rfl
  rw [List.getElem?_map, List.getElem?_map, getElem?_sense, Option.map_map]
  rfl

section Building

variable {σ : Type} {makeChannel : AxisSettings → Nat → StateM σ C} {s s' : σ}

theorem settings_of_buildAxis {settings : AxisSettings} {axis : Axis C}
    (h : (ExceptT.run (buildAxis makeChannel settings)).run s = (.ok axis, s')) :
    axis.settings = settings := by
  obtain ⟨channels, s₁, -, h⟩ := run_bindT_ok h
  have hbuilt : Axis.ofChannels settings channels = .ok axis := congrArg Prod.fst h
  unfold Axis.ofChannels at hbuilt
  split at hbuilt
  · cases hbuilt
  · cases hbuilt
    rfl

theorem settings_of_mapM {settings : List AxisSettings} {axes : List (Axis C)}
    (h : (ExceptT.run (settings.mapM (buildAxis makeChannel))).run s = (.ok axes, s')) :
    axes.map (·.settings) = settings := by
  induction settings generalizing axes s s' with
  | nil =>
    cases h
    rfl
  | cons first rest ih =>
    rw [List.mapM_cons] at h
    obtain ⟨axis, s₁, haxis, h⟩ := run_bindT_ok h
    obtain ⟨axes', s₂, haxes, h⟩ := run_bindT_ok h
    cases h
    rw [List.map_cons, settings_of_buildAxis haxis, ih haxes]

end Building

/-- What a machine takes over from the settings that it is built from. -/
theorem IsBuiltFrom.taken (h : machine.IsBuiltFrom settings) :
    settings.validate = .ok () ∧ machine.axes.map (·.settings) = settings.axes ∧
      stationOf settings = .ok machine.dispense := by
  obtain ⟨σ, makeChannel, s, h⟩ := h
  obtain ⟨s', h⟩ : ∃ s', ((ofSettings makeChannel settings).run s) = (.ok machine, s') :=
    ⟨_, Prod.ext h rfl⟩
  obtain ⟨_, _, hvalid, h⟩ := run_bindT_ok h
  obtain ⟨axes, s₁, haxes, h⟩ := run_bindT_ok h
  obtain ⟨dispense, s₂, hdispense, h⟩ := run_bindT_ok h
  cases h
  exact ⟨congrArg Prod.fst hvalid, settings_of_mapM haxes, congrArg Prod.fst hdispense⟩

/-- **A machine has the layout of the settings that it is built from.** -/
theorem IsBuiltFrom.fits (h : machine.IsBuiltFrom settings) : machine.Fits settings := by
  obtain ⟨-, haxes, hdispense⟩ := h.taken
  refine ⟨haxes, ?_⟩
  unfold stationOf at hdispense
  unfold MachineSettings.dispensePlace?
  cases hd : settings.dispense with
  | none =>
    rw [hd] at hdispense
    rw [← Except.ok.inj hdispense]
    rfl
  | some dispense =>
    rw [hd] at hdispense
    dsimp only at hdispense
    split at hdispense
    · cases hdispense
    · rename_i index hindex
      have hstation : some _ = machine.dispense := Except.ok.inj hdispense
      rw [← hstation]
      exact hindex.symm

end

variable {settings : MachineSettings} {machine machine' : Machine C} {now : Nat}

/-- **A command does not change the layout.** -/
theorem Fits.carries {command : Command} (h : machine.Fits settings)
    (hcarries : machine.Carries now command machine') : machine'.Fits settings := by
  cases hcarries with
  | axis hname hfind haxis hobeys =>
    exact h.congr (settings_modify haxis hobeys.settings_eq) rfl
  | dispense hstation haxis hobeys =>
    refine h.congr (settings_modify haxis hobeys.settings_eq) ?_
    rw [hstation]
    rfl
  | status => exact ⟨h.axes, h.place⟩

theorem Fits.accept (h : machine.Fits settings) (command : Option Command) (now : Nat) :
    (machine.accept command now).1.Fits settings := by
  rcases machine.accept_cases command now with ⟨given, -, -, hcarries⟩ | ⟨-, hsame⟩
  · exact h.carries hcarries
  · rw [hsame]
    exact h

/-- **The updates do not change it either.** -/
theorem Fits.update (h : machine.Fits settings) (now : Nat) :
    (machine.update now).1.Fits settings := by
  refine h.congr ?_ ?_
  · rw [axes_update, List.map_map]
    exact List.map_congr_left fun axis _ => axis.update_settings now
  · cases hstation : machine.dispense with
    | none => rw [dispense_update_none hstation]
    | some station =>
      obtain ⟨axis, haxis⟩ := h.exists_axis hstation
      rw [dispense_update hstation haxis]
      rfl

theorem Fits.tick (h : machine.Fits settings) (now : Nat) (command : Option Command) :
    (machine.tick now command).1.Fits settings := by
  have hafter := (h.accept command now).update now
  exact ⟨axes_tick machine now command ▸ hafter.axes,
    dispense_tick machine now command ▸ hafter.place⟩

end Machine

end MotionControl
