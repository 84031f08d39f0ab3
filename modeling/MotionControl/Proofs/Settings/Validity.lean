import MotionControl.Settings.Validity

/-!
# What valid settings are like

* `AxisSettings.nodup_of_listFault?`: axes without a problem have names of their own.
* `AxisSettings.timeLeft_of_fault?`: a homing run and its moves may take some time.
* `MachineSettings.fault?_of_validate`: none of the axes has a problem.
* `MachineSettings.axisIndex?_eq_some_iff`: so a name stands for one place.
-/

namespace MotionControl

/-! ## Names -/

theorem Label.ext {label label' : Label} (h : label.text = label'.text) : label = label' := by
  cases label
  cases label'
  cases h
  rfl

namespace AxisSettings

/-- Axes without a problem have names of their own. -/
theorem nodup_of_listFault? {earlier : List Label} {axes : List AxisSettings}
    (h : listFault? earlier axes = none) :
    (axes.map (·.name)).Nodup ∧ ∀ axis ∈ axes, axis.name ∉ earlier := by
  induction axes generalizing earlier with
  | nil => exact ⟨List.nodup_nil, fun _ h => (List.not_mem_nil h).elim⟩
  | cons axis rest ih =>
    simp only [listFault?] at h
    split at h
    · cases h
    split at h
    · cases h
    rename_i hnew
    split at h
    · cases h
    obtain ⟨hnodup, hearlier⟩ := ih h
    refine ⟨List.nodup_cons.2 ⟨?_, hnodup⟩, ?_⟩
    · intro hmem
      obtain ⟨other, hother, hname⟩ := List.mem_map.1 hmem
      exact hearlier other hother (hname ▸ .head _)
    · intro other hother
      rcases List.mem_cons.1 hother with rfl | hrest
      · exact hnew
      · exact fun hmem => hearlier other hrest (.tail _ hmem)

/-- Where the list of the axes has no problem, each of them has a name and none has a problem. -/
theorem sound_of_listFault? {earlier : List Label} {axes : List AxisSettings}
    (h : listFault? earlier axes = none) :
    ∀ axis ∈ axes, axis.name.isEmpty = false ∧ axis.fault? = none := by
  induction axes generalizing earlier with
  | nil => exact fun _ h => (List.not_mem_nil h).elim
  | cons axis rest ih =>
    simp only [listFault?] at h
    split at h
    · cases h
    rename_i hnamed
    split at h
    · cases h
    split at h
    · cases h
    rename_i hfirst
    intro other hother
    rcases List.mem_cons.1 hother with rfl | hrest
    · exact ⟨Bool.not_eq_true _ ▸ hnamed, hfirst⟩
    · exact ih h other hrest

/-! ## Counts and times -/

/-- An axis without a problem has a channel, and not too many. -/
theorem channels_of_fault? {axis : AxisSettings} (h : axis.fault? = none) :
    0 < axis.channels.toNat ∧ axis.channels.toNat ≤ maxChannels := by
  unfold fault? at h
  split at h
  · cases h
  · rename_i hcount
    obtain ⟨hsome, hfew⟩ := not_or.1 hcount
    have hpositive : axis.channels.toNat ≠ 0 := fun hzero => hsome (UInt8.toNat_inj.1 hzero)
    omega

/-- A homing run of an axis without a problem may take some time, and so may the start of each of
its moves. -/
theorem timeLeft_of_fault? {axis : AxisSettings} (h : axis.fault? = none) :
    0 < axis.homing.startTimeout.toNat ∧ 0 < axis.homing.timeout.toNat := by
  have hsome : ¬ (axis.homing.startTimeout = 0 ∨ axis.homing.timeout = 0) := by
    intro hzero
    simp only [fault?, if_pos hzero] at h
    -- the times are tested last: whatever comes before them, there is a problem
    repeat' split at h
    all_goals cases h
  have hpositive (time : UInt32) (htime : time ≠ 0) : 0 < time.toNat :=
    Nat.pos_of_ne_zero fun hzero => htime (UInt32.toNat_inj.1 hzero)
  exact ⟨hpositive _ (not_or.1 hsome).1, hpositive _ (not_or.1 hsome).2⟩

/-- The scale, the travel and the homing sequence of an axis without a problem can be used. -/
theorem usable_of_fault? {axis : AxisSettings} (h : axis.fault? = none) :
    axis.stepsPerUnit.isPositive = true ∧ axis.travelUsable = true ∧
      axis.homing.speedsUsable = true ∧ axis.homing.distancesUsable = true := by
  unfold fault? at h
  split at h
  · cases h
  split at h
  · cases h
  split at h
  · cases h
  split at h
  · cases h
  split at h
  · cases h
  split at h
  · cases h
  rename_i hscale htravel _ _ hhoming
  simp only [Bool.not_eq_true', Bool.not_eq_false, Bool.and_eq_true] at hscale htravel hhoming
  exact ⟨hscale, htravel, hhoming⟩

theorem finite_of_fault? {axis : AxisSettings} (h : axis.fault? = none) :
    axis.travelMin.rank < Single.infinityRank ∧ axis.travelMax.rank < Single.infinityRank := by
  obtain ⟨-, htravel, -⟩ := usable_of_fault? h
  simp only [travelUsable, Single.isFinite, Bool.and_eq_true, decide_eq_true_eq] at htravel
  exact htravel.1

theorem withinTravel_iff {axis : AxisSettings} {position : Single} :
    axis.withinTravel position = true ↔ axis.travelMin ≤ position ∧ position ≤ axis.travelMax := by
  simp [withinTravel]

end AxisSettings

namespace MachineSettings

/-- The axis at a place has a name. -/
def HasName (settings : MachineSettings) (place : Nat) (name : Label) : Prop :=
  settings.axes[place]?.map (·.name) = some name

/-- The place of the axis that the dispense has. -/
def dispensePlace? (settings : MachineSettings) : Option Nat :=
  settings.dispense.bind fun dispense => settings.axisIndex? dispense.axis.text

variable {settings : MachineSettings} {place : Nat} {name : Label}

theorem hasName_of_axisIndex? (h : settings.axisIndex? name.text = some place) :
    settings.HasName place name := by
  obtain ⟨hlt, hname, -⟩ := List.findIdx?_eq_some_iff_getElem.1 h
  rw [HasName, List.getElem?_eq_getElem hlt, Option.map_some, Option.some.injEq]
  exact Label.ext (by simpa using hname)

theorem validate_eq_ok : settings.validate = .ok () ↔ settings.fault? = none := by
  unfold validate
  split <;> simp_all

/-- Valid settings have neither a problem of the axes nor one of the dispense. -/
theorem faults_of_validate (h : settings.validate = .ok ()) :
    AxisSettings.listFault? [] settings.axes = none ∧ settings.dispenseFault? = none := by
  have hfault := validate_eq_ok.1 h
  unfold fault? at hfault
  split at hfault
  · cases hfault
  split at hfault
  · cases hfault
  split at hfault
  · cases hfault
  · rename_i hlist
    exact ⟨hlist, hfault⟩

/-- **No axis of valid settings has a problem.** -/
theorem fault?_of_validate (h : settings.validate = .ok ()) :
    ∀ axis ∈ settings.axes, axis.fault? = none := fun axis haxis =>
  (AxisSettings.sound_of_listFault? (faults_of_validate h).1 axis haxis).2

/-- Every axis of valid settings has a name. -/
theorem named_of_validate (h : settings.validate = .ok ()) :
    ∀ axis ∈ settings.axes, axis.name.text ≠ "" := fun axis haxis hempty => by
  have hnamed := (AxisSettings.sound_of_listFault? (faults_of_validate h).1 axis haxis).1
  rw [Label.isEmpty, hempty] at hnamed
  cases hnamed

theorem nodup_of_validate (h : settings.validate = .ok ()) :
    (settings.axes.map (·.name)).Nodup :=
  (AxisSettings.nodup_of_listFault? (faults_of_validate h).1).1

/-- **In valid settings a name stands for one place.** -/
theorem axisIndex?_eq_some_iff (h : settings.validate = .ok ()) :
    settings.axisIndex? name.text = some place ↔ settings.HasName place name := by
  refine ⟨hasName_of_axisIndex?, fun hname => ?_⟩
  obtain ⟨axis, haxis, hsame⟩ := Option.map_eq_some_iff.1 hname
  obtain ⟨hlt, hget⟩ := List.getElem?_eq_some_iff.1 haxis
  refine List.findIdx?_eq_some_iff_getElem.2 ⟨hlt, by simp [hget, hsame], fun j hj hearlier => ?_⟩
  have htext : settings.axes[j].name = name := Label.ext (by simpa using hearlier)
  have hdistinct := List.pairwise_iff_getElem.1 (nodup_of_validate h) j place
    (by rw [List.length_map]; omega) (by rw [List.length_map]; omega) hj
  rw [List.getElem_map, List.getElem_map, htext, hget, hsame] at hdistinct
  exact hdistinct rfl

/-- **In valid settings the dispense has the one axis with its name.** -/
theorem dispensePlace?_eq_some_iff (h : settings.validate = .ok ()) :
    settings.dispensePlace? = some place ↔
      ∃ dispense, settings.dispense = some dispense ∧ settings.HasName place dispense.axis := by
  rw [dispensePlace?, Option.bind_eq_some_iff]
  exact exists_congr fun dispense => and_congr_right fun _ => axisIndex?_eq_some_iff h

/-- A dispense of valid settings has an axis. -/
theorem isSome_dispensePlace? (h : settings.validate = .ok ()) :
    settings.dispensePlace?.isSome = settings.dispense.isSome := by
  have hfault := (faults_of_validate h).2
  unfold dispenseFault? at hfault
  unfold dispensePlace?
  cases hdispense : settings.dispense with
  | none => rfl
  | some dispense =>
    rw [hdispense] at hfault
    dsimp only at hfault
    split at hfault
    · cases hfault
    · rename_i hplace
      have hsome := Option.isSome_iff_ne_none.2 (mt Option.isNone_iff_eq_none.2 hplace)
      exact hsome

theorem lt_of_dispensePlace? (h : settings.dispensePlace? = some place) :
    place < settings.axes.length := by
  obtain ⟨dispense, -, hindex⟩ := Option.bind_eq_some_iff.1 h
  exact (List.findIdx?_eq_some_iff_getElem.1 hindex).1

end MachineSettings

end MotionControl
