import MotionControl.Proofs.Machine.Makings

/-!
# Valid settings are those that a machine is built from

The settings are checked once, before the first channel is made. What comes after that can fail in
several ways, but none of them is left.

* `Machine.assemble`, `assemble_eq`: building with lists of limited room, as a machine without a
  heap does, **never runs out of room**.
* `IsAssembled`: what is right about a machine and the calls by which its channels are made.
* `builds_exactly_valid`: **a machine is built exactly from valid settings**, with one call for each
  channel, in order; other settings are refused with their first problem and without a call.
-/

namespace MotionControl

/-! ## Limited room -/

/-- Appends to a list that has room for some elements. -/
def appendWithin {α : Type} (room : Nat) (error : SettingsError) (list : List α) (a : α) :
    Except SettingsError (List α) :=
  if list.length < room then .ok (list ++ [a]) else .error error

namespace Machine

variable {C : Type} {m : Type → Type} [Monad m]

/-- Builds the values of a list one after the other, into a list that has room for some. -/
def collect {α β : Type} (room : Nat) (error : SettingsError)
    (build : α → ExceptT SettingsError m β) (l : List α) : ExceptT SettingsError m (List β) :=
  l.foldlM (fun built a => do
    let b ← build a
    ExceptT.mk (pure (appendWithin room error built b))) []

/-- Builds an axis from a list of channels with room for `maxChannels`. -/
def assembleAxis (makeChannel : AxisSettings → Nat → m C) (settings : AxisSettings) :
    ExceptT SettingsError m (Axis C) := do
  let channels ← collect maxChannels .invalidChannelCount
    (fun index => ExceptT.lift (makeChannel settings index)) (List.range settings.channels.toNat)
  ExceptT.mk (pure (Axis.ofChannels settings channels))

/-- Builds a machine from a list of axes with room for `maxAxes`. -/
def assemble (makeChannel : AxisSettings → Nat → m C) (settings : MachineSettings) :
    ExceptT SettingsError m (Machine C) := do
  ExceptT.mk (pure settings.validate)
  let axes ← collect maxAxes .tooManyAxes (assembleAxis makeChannel) settings.axes
  let dispense ← ExceptT.mk (pure (stationOf settings))
  return { axes, dispense, telemetryInterval := settings.telemetryInterval.toNat }

variable [LawfulMonad m]

/-- **Where there is room for all values, a limit makes no difference.** -/
theorem collect_eq {α β : Type} {room : Nat} {error : SettingsError}
    {build build' : α → ExceptT SettingsError m β} {l : List α} (hroom : l.length ≤ room)
    (hsame : ∀ a ∈ l, build a = build' a) : collect room error build l = l.mapM build' := by
  -- on the values that are left: those that are built leave room for them
  have hfold (l : List α) (hsame : ∀ a ∈ l, build a = build' a) (built : List β)
      (hroom : built.length + l.length ≤ room) :
      l.foldlM (fun built a => do
          let b ← build a
          ExceptT.mk (pure (appendWithin room error built b))) built =
        (built ++ ·) <$> l.mapM build' := by
    induction l generalizing built with
    | nil => simp
    | cons a l ih =>
      rw [List.length_cons] at hroom
      have hlt : built.length < room := by omega
      rw [List.foldlM_cons, List.mapM_cons, map_bind, bind_assoc, hsame a (.head _)]
      refine bind_congr fun b => ?_
      have happend : ExceptT.mk (pure (appendWithin room error built b)) =
          (pure (built ++ [b]) : ExceptT SettingsError m (List β)) := by
        rw [appendWithin, if_pos hlt]
        rfl
      have hrest : (built ++ [b]).length + l.length ≤ room := by
        rw [List.length_append, List.length_singleton]
        omega
      rw [happend, pure_bind, ih (fun a ha => hsame a (.tail _ ha)) (built ++ [b]) hrest]
      simp
  have hall := hfold l hsame [] (by simpa using hroom)
  simpa [collect] using hall

/-- What comes after a refusal is not done. -/
theorem run_refused_bind {α : Type} (error : SettingsError)
    (f : Unit → ExceptT SettingsError m α) :
    (ExceptT.mk (pure (.error error)) >>= f).run = pure (.error error) := by
  rw [ExceptT.run_bind, ExceptT.run_mk, pure_bind]

/-- **Nothing that is assembled runs out of room**, so assembling is building. -/
theorem assemble_eq (makeChannel : AxisSettings → Nat → m C) (settings : MachineSettings) :
    assemble makeChannel settings = ofSettings makeChannel settings := by
  unfold assemble ofSettings
  cases hvalid : settings.validate with
  | error error =>
    refine ExceptT.ext ?_
    rw [run_refused_bind, run_refused_bind]
  | ok u =>
    refine bind_congr fun _ => ?_
    have haxis : ∀ axis ∈ settings.axes,
        assembleAxis makeChannel axis = buildAxis makeChannel axis := by
      intro axis haxis
      obtain ⟨-, hfew⟩ :=
        AxisSettings.channels_of_fault? (MachineSettings.fault?_of_validate hvalid axis haxis)
      have hroom : (List.range axis.channels.toNat).length ≤ maxChannels := by
        rw [List.length_range]
        exact hfew
      rw [assembleAxis, buildAxis, collect_eq hroom fun _ _ => rfl]
    rw [collect_eq settings.axes_length_le haxis]

end Machine

/-! ## Assembled machines -/

variable {C : Type}

/-- What is right about a machine that is built from some settings, and about the calls of the
function that makes its channels. -/
structure IsAssembled (settings : MachineSettings) (machine : Machine C)
    (makings : List (Making C)) : Prop where
  /-- The machine has the axes of the settings, in their order. -/
  axes : machine.axes.map (·.settings) = settings.axes
  /-- No two of them have the same name. -/
  names : (machine.axes.map (·.settings.name)).Nodup
  /-- A channel is made once for each axis and index, in lexicographic order, and put there. -/
  made : ∃ places : List (Nat × Nat), places.Pairwise (Prod.Lex (· < ·) (· < ·)) ∧
    (∀ place index, (place, index) ∈ places ↔
      ∃ axis, settings.axes[place]? = some axis ∧ index < axis.channels.toNat) ∧
    List.Forall₂ (MadeFor settings.axes machine.axes) places makings
  /-- The name of an axis is found at its own place. -/
  found : ∀ place name, settings.HasName place name →
    (Machine.lookup name).run machine = .ok place machine
  /-- The dispense is on the one axis with the name that it has in the settings. -/
  dispense : ∀ place, machine.dispense.map (·.axisIndex) = some place ↔
    ∃ dispense, settings.dispense = some dispense ∧ settings.HasName place dispense.axis
  /-- And there is none where none is configured. -/
  station : machine.dispense.isSome = settings.dispense.isSome

/-- A machine that is built from valid settings is right. -/
theorem isAssembled_of_built {settings : MachineSettings} {machine : Machine C}
    {makings : List (Making C)} (hvalid : settings.validate = .ok ())
    (hbuilt : machine.IsBuiltFrom settings)
    (hmade : List.Forall₂ (MadeFor settings.axes machine.axes) (sockets settings.axes) makings) :
    IsAssembled settings machine makings := by
  have hfits := hbuilt.fits
  refine
    { axes := hfits.axes
      names := ?names
      made := ⟨sockets settings.axes, pairwise_sockets _, fun _ _ => mem_sockets, hmade⟩
      found := ?found
      dispense := ?dispense
      station := ?station }
  case names =>
    have hnames := MachineSettings.nodup_of_validate hvalid
    rw [← hfits.axes, List.map_map] at hnames
    exact hnames
  case found =>
    intro place name hname
    have hindex := (MachineSettings.axisIndex?_eq_some_iff hvalid).2 hname
    exact Machine.lookup_ok.2 ⟨(hfits.findIdx?_eq name).trans hindex, rfl⟩
  case dispense =>
    intro place
    rw [hfits.place]
    exact MachineSettings.dispensePlace?_eq_some_iff hvalid
  case station =>
    have hplace := MachineSettings.isSome_dispensePlace? hvalid
    rw [← hfits.place, Option.isSome_map] at hplace
    exact hplace

/-- For valid settings there is a station if there is a dispense. -/
theorem Machine.stationOf_of_validate {settings : MachineSettings}
    (hvalid : settings.validate = .ok ()) : ∃ station, stationOf settings = .ok station := by
  have hplace := MachineSettings.isSome_dispensePlace? hvalid
  unfold MachineSettings.dispensePlace? at hplace
  unfold stationOf
  cases hdispense : settings.dispense with
  | none => exact ⟨none, rfl⟩
  | some dispense =>
    rw [hdispense, Option.bind_some] at hplace
    obtain ⟨index, hindex⟩ := Option.isSome_iff_exists.1 hplace
    exact ⟨some { axisIndex := index, dispenser := { settings := dispense } }, by simp [hindex]⟩

/-- From valid settings a machine is built, by the calls that build its axes. -/
theorem Machine.exists_built {σ : Type} (makeChannel : AxisSettings → Nat → StateM σ C)
    {settings : MachineSettings} (hvalid : settings.validate = .ok ()) (s : σ) :
    ∃ machine makings s', Makes (ofSettings makeChannel settings)
        (ofSettings (noting makeChannel) settings) s machine makings s' ∧
      List.Forall₂ (MadeFor settings.axes machine.axes) (sockets settings.axes) makings := by
  obtain ⟨axes, makings, s', hmakes, -, hmade⟩ :=
    makes_axes makeChannel (MachineSettings.fault?_of_validate hvalid) s
  obtain ⟨station, hstation⟩ := stationOf_of_validate hvalid
  let machine : Machine C :=
    { axes, dispense := station, telemetryInterval := settings.telemetryInterval.toNat }
  refine ⟨machine, makings, s', ?_, hmade⟩
  have hcalls : makings = [] ++ (makings ++ ([] ++ [])) := by simp
  rw [hcalls]
  exact (Makes.value hvalid s).bind (hmakes.bind ((Makes.value hstation s').bind (.value rfl s')))

/-- **A machine is built exactly from valid settings.** Other settings are refused with their first
problem, and without a call of the function that makes the channels. From valid settings a machine
is built, with one call for each axis and index; assembling it never runs out of room. -/
theorem builds_exactly_valid {σ : Type} (makeChannel : AxisSettings → Nat → StateM σ C)
    (settings : MachineSettings) (s : σ) :
    (∀ {τ : Type} (make : AxisSettings → Nat → StateM τ C),
        Machine.assemble make settings = Machine.ofSettings make settings) ∧
      match settings.validate with
      | .error error =>
        (Machine.ofSettings makeChannel settings).run.run s = (.error error, s) ∧
          ∀ before, (Machine.ofSettings (noting makeChannel) settings).run.run (s, before) =
            (.error error, s, before)
      | .ok () =>
        ∃ machine makings s', Makes (Machine.ofSettings makeChannel settings)
            (Machine.ofSettings (noting makeChannel) settings) s machine makings s' ∧
          IsAssembled settings machine makings := by
  refine ⟨fun make => Machine.assemble_eq make settings, ?_⟩
  cases hvalid : settings.validate with
  | error error =>
    unfold Machine.ofSettings
    rw [hvalid]
    exact ⟨rfl, fun before => rfl⟩
  | ok u =>
    obtain ⟨machine, makings, s', hmakes, hmade⟩ := Machine.exists_built makeChannel hvalid s
    have hbuilt : machine.IsBuiltFrom settings :=
      ⟨σ, makeChannel, s, congrArg Prod.fst hmakes.run⟩
    exact ⟨machine, makings, s', hmakes, isAssembled_of_built hvalid hbuilt hmade⟩

/-- A gantry with two motors and a plunger. -/
def pairedSettings : MachineSettings where
  axes := [{ name := ⟨"gantry", by decide⟩, channels := 2 }, { name := plungerName }]
  dispense := some { axis := plungerName }

example :
    ((Machine.ofSettings (noting fun _ _ => (pure {} : StateM Unit ScriptedChannel))
      pairedSettings).run.run ((), [])).2.2.map
        (fun making => (making.axis.name.text, making.index)) =
      [("gantry", 0), ("gantry", 1), ("plunger", 0)] := by
  decide +kernel

end MotionControl
