import MotionControl.Bench.Run
import MotionControl.Proofs.Construction
import Mathlib

/-!
# The entries of a description

An entry of a description gives a simulated channel its mechanics. Three searches have to agree:
the check that the channel exists, the check that no two axes have the same name, and the search for
the mechanics when the channel is made. They agree on the channel, but not on the entry: the last
search ends at the first entry that names the channel.

* `Machine.channel?`: the channel at a socket; `MechanicsEntry.Names`: an entry names it.
* `Machine.IsMadeFrom`, `exists_made`: a machine whose channels are made without an effect.
* `entries_in_effect`: **which mechanics the channels of an accepted description have.**
* `entry_without_effect`: an entry that names a channel, and is not looked at.
-/

namespace MotionControl

/-! ## Channels of a machine -/

namespace Machine

variable {C : Type} {machine : Machine C} {settings : MachineSettings}
  {make : AxisSettings → Nat → C} {place index : Nat}

/-- The channel at a socket: the place of its axis and that in the axis. -/
def channel? (machine : Machine C) (socket : Nat × Nat) : Option C :=
  machine.axes[socket.1]?.bind (·.channels[socket.2]?)

/-- The machine has the axes of some settings, with channels that a function makes. -/
structure IsMadeFrom (make : AxisSettings → Nat → C) (settings : MachineSettings)
    (machine : Machine C) : Prop where
  axes : machine.axes.map (·.settings) = settings.axes
  channels : ∀ axis ∈ machine.axes,
    axis.channels = (List.range axis.settings.channels.toNat).map (make axis.settings)

/-- The axes of the machine are where those of the settings are. -/
theorem IsMadeFrom.settings_getElem? (h : machine.IsMadeFrom make settings) (place : Nat) :
    settings.axes[place]? = machine.axes[place]?.map (·.settings) := by
  rw [← h.axes, List.getElem?_map]

/-- **At a socket there is the channel that is made for it.** -/
theorem IsMadeFrom.channel?_eq_some_iff (h : machine.IsMadeFrom make settings) {channel : C} :
    machine.channel? (place, index) = some channel ↔
      ∃ axis, settings.axes[place]? = some axis ∧ index < axis.channels.toNat ∧
        channel = make axis index := by
  rw [channel?, h.settings_getElem? place]
  cases hbuilt : machine.axes[place]? with
  | none => simp
  | some built =>
    rw [Option.bind_some, Option.map_some, h.channels built (List.mem_of_getElem? hbuilt)]
    simp only [Option.some.injEq, exists_eq_left']
    by_cases hlt : index < built.settings.channels.toNat
    · rw [List.getElem?_map, List.getElem?_range hlt, Option.map_some, Option.some.injEq]
      exact ⟨fun hmade => ⟨hlt, hmade.symm⟩, fun ⟨_, hmade⟩ => hmade.symm⟩
    · rw [List.getElem?_eq_none (by simpa using hlt)]
      exact ⟨nofun, fun ⟨hbelow, _⟩ => absurd hbelow hlt⟩

section

variable {m : Type → Type} [Monad m] [LawfulMonad m]

/-- An axis without a problem is built, from a channel for each index. -/
theorem buildAxis_pure (make : AxisSettings → Nat → C) {axis : AxisSettings}
    (hsound : axis.fault? = none) :
    ∃ built, buildAxis (m := m) (fun axis index => pure (make axis index)) axis = pure built ∧
      built.settings = axis ∧
      built.channels = (List.range axis.channels.toNat).map (make axis) := by
  have hlength : ((List.range axis.channels.toNat).map (make axis)).length =
      axis.channels.toNat := by
    rw [List.length_map, List.length_range]
  obtain ⟨built, hbuilt, hsettings, hchannels⟩ := Axis.exists_built hsound hlength
  refine ⟨built, ?_, hsettings, hchannels⟩
  have hlift (index : Nat) : ExceptT.lift (pure (make axis index)) =
      (pure (make axis index) : ExceptT SettingsError m C) := by
    ext
    simp
  unfold buildAxis
  simp only [hlift, List.mapM_pure, pure_bind, hbuilt]
  rfl

/-- Axes without a problem are built one after the other. -/
theorem mapM_buildAxis_pure (make : AxisSettings → Nat → C) {axes : List AxisSettings}
    (hsound : ∀ axis ∈ axes, axis.fault? = none) :
    ∃ built, axes.mapM (buildAxis (m := m) fun axis index => pure (make axis index)) = pure built ∧
      built.map (·.settings) = axes ∧ ∀ axis ∈ built,
        axis.channels = (List.range axis.settings.channels.toNat).map (make axis.settings) := by
  induction axes with
  | nil => exact ⟨[], List.mapM_nil, rfl, fun _ hnone => absurd hnone List.not_mem_nil⟩
  | cons axis rest ih =>
    obtain ⟨built, hbuilt, hsettings, hchannels⟩ :=
      buildAxis_pure (m := m) make (hsound axis (.head _))
    obtain ⟨others, hothers, hrest, hall⟩ := ih fun other hother => hsound other (.tail _ hother)
    refine ⟨built :: others, ?_, ?_, ?_⟩
    · rw [List.mapM_cons, hbuilt, hothers, pure_bind, pure_bind]
    · rw [List.map_cons, hsettings, hrest]
    · intro other hother
      rcases List.mem_cons.1 hother with rfl | hother
      · rw [hsettings, hchannels]
      · exact hall other hother

/-- **From valid settings a machine is made**, if its channels are made without an effect. -/
theorem exists_made (make : AxisSettings → Nat → C) (hvalid : settings.validate = .ok ()) :
    ∃ machine, ofSettings (m := m) (fun axis index => pure (make axis index)) settings =
        pure machine ∧ machine.IsMadeFrom make settings := by
  obtain ⟨axes, haxes, hsettings, hchannels⟩ :=
    mapM_buildAxis_pure (m := m) make (MachineSettings.fault?_of_validate hvalid)
  obtain ⟨dispense, hdispense⟩ := stationOf_of_validate hvalid
  have hok {α : Type} (a : α) :
      ExceptT.mk (pure (.ok a)) = (pure a : ExceptT SettingsError m α) := rfl
  refine ⟨{ axes, dispense, telemetryInterval := settings.telemetryInterval.toNat }, ?_, hsettings,
    hchannels⟩
  unfold ofSettings
  rw [hvalid, hdispense, haxes, hok, hok, pure_bind, pure_bind, pure_bind]

end

end Machine

/-! ## Entries and the channels that they name -/

section

variable {C : Type}

/-- An entry names the channel at a socket. -/
structure MechanicsEntry.Names (machine : Machine C) (socket : Nat × Nat) (entry : MechanicsEntry) :
    Prop where
  axis : (machine.axes[socket.1]?).map (·.settings.name.text) = some entry.axis
  index : socket.2 = entry.channel
  present : (machine.channel? socket).isSome = true

instance (machine : Machine C) (socket : Nat × Nat) (entry : MechanicsEntry) :
    Decidable (entry.Names machine socket) :=
  decidable_of_iff
    ((machine.axes[socket.1]?).map (·.settings.name.text) = some entry.axis ∧
      socket.2 = entry.channel ∧ (machine.channel? socket).isSome = true)
    ⟨fun ⟨haxis, hindex, hpresent⟩ => ⟨haxis, hindex, hpresent⟩,
      fun h => ⟨h.axis, h.index, h.present⟩⟩

variable {machine : Machine C} {settings : MachineSettings} {make : AxisSettings → Nat → C}
  {entry : MechanicsEntry}

/-- Which channels an entry names can be told from the settings. -/
theorem Machine.IsMadeFrom.names_iff (h : machine.IsMadeFrom make settings) {place index : Nat} :
    entry.Names machine (place, index) ↔
      ∃ axis, settings.axes[place]? = some axis ∧ axis.name.text = entry.axis ∧
        index = entry.channel ∧ index < axis.channels.toNat := by
  have hsettings := h.settings_getElem? place
  constructor
  · rintro ⟨haxis, hindex, hpresent⟩
    obtain ⟨channel, hchannel⟩ := Option.isSome_iff_exists.1 hpresent
    obtain ⟨axis, hplace, hlt, -⟩ := h.channel?_eq_some_iff.1 hchannel
    refine ⟨axis, hplace, ?_, hindex, hlt⟩
    have hname : (machine.axes[place]?.map (·.settings)).map (·.name.text) = some entry.axis := by
      rw [Option.map_map]
      exact haxis
    rw [← hsettings, hplace] at hname
    exact Option.some.inj hname
  · rintro ⟨axis, hplace, hname, hindex, hlt⟩
    refine ⟨?_, hindex, ?_⟩
    · have hsame : (machine.axes[place]?.map (·.settings)).map (·.name.text) =
          some entry.axis := by
        rw [← hsettings, hplace, Option.map_some, hname]
      rwa [Option.map_map] at hsame
    · rw [h.channel?_eq_some_iff.2 ⟨axis, hplace, hlt, rfl⟩]
      rfl

/-- **In valid settings an entry names one channel at most.** -/
theorem Machine.IsMadeFrom.names_unique (h : machine.IsMadeFrom make settings)
    (hvalid : settings.validate = .ok ()) {socket socket' : Nat × Nat}
    (hnames : entry.Names machine socket) (hnames' : entry.Names machine socket') :
    socket = socket' := by
  obtain ⟨axis, hplace, hname, hindex, -⟩ := h.names_iff.1 hnames
  obtain ⟨axis', hplace', hname', hindex', -⟩ := h.names_iff.1 hnames'
  -- the first axis of a name is the only one, and both are that one
  have hsame : axis.name = axis'.name := Label.ext (hname.trans hname'.symm)
  have hfirst : settings.HasName socket.1 axis.name := by
    rw [MachineSettings.HasName, hplace, Option.map_some]
  have hsecond : settings.HasName socket'.1 axis.name := by
    rw [MachineSettings.HasName, hplace', Option.map_some, hsame]
  have hfound := (MachineSettings.axisIndex?_eq_some_iff hvalid).2 hfirst
  rw [(MachineSettings.axisIndex?_eq_some_iff hvalid).2 hsecond] at hfound
  exact Prod.ext (Option.some.inj hfound).symm (hindex.trans hindex'.symm)

end

namespace BenchSetup

variable {setup : BenchSetup} {text : String} {machine : Machine SimulatedChannel}
  {entry : MechanicsEntry} {socket : Nat × Nat}

/-- What is checked when a description is read. -/
theorem checked_of_parse (h : parse text = .ok setup) :
    setup.settings.validate = .ok () ∧
      ∀ entry ∈ setup.entries, isKnown setup.settings entry = true := by
  unfold parse at h
  split at h
  · cases h
  split at h
  · cases h
  split at h
  · cases h
  · rename_i hfault _ hall
    cases h
    refine ⟨MachineSettings.validate_eq_ok.2 hfault, fun entry hentry => ?_⟩
    simpa using List.find?_eq_none.1 hall entry hentry

/-- Entry `entry` is the first one that names the channel at a socket. -/
def FirstFor (setup : BenchSetup) (machine : Machine SimulatedChannel) (socket : Nat × Nat)
    (entry : MechanicsEntry) : Prop :=
  ∃ before after, setup.entries = before ++ entry :: after ∧ entry.Names machine socket ∧
    ∀ earlier ∈ before, ¬ earlier.Names machine socket

/-- The channels of a machine have the mechanics that a description gives them. -/
structure IsInEffect (setup : BenchSetup) (machine : Machine SimulatedChannel) : Prop where
  /-- Every entry names exactly one channel. -/
  named : ∀ entry ∈ setup.entries, ∃! socket, entry.Names machine socket
  /-- A channel has the mechanics of the first entry that names it. -/
  first : ∀ socket entry, setup.FirstFor machine socket entry →
    machine.channel? socket = some (.ofPosition entry.mechanics 0)
  /-- Where no two entries name the same channel, every entry gives its channel the mechanics. -/
  distinct : (setup.entries.map fun entry => (entry.axis, entry.channel)).Nodup →
    ∀ entry ∈ setup.entries, ∀ socket, entry.Names machine socket →
      machine.channel? socket = some (.ofPosition entry.mechanics 0)
  /-- A channel that no entry names has the default mechanics. -/
  default : ∀ socket channel, machine.channel? socket = some channel →
    (∀ entry ∈ setup.entries, ¬ entry.Names machine socket) → channel = .ofPosition {} 0

/-- If an entry names a channel, then one is the first to do so. -/
theorem exists_firstFor (hentry : entry ∈ setup.entries) (hnames : entry.Names machine socket) :
    ∃ first ∈ setup.entries, setup.FirstFor machine socket first := by
  have hsome : (setup.entries.find? fun entry => decide (entry.Names machine socket)).isSome :=
    List.find?_isSome.2 ⟨entry, hentry, decide_eq_true hnames⟩
  obtain ⟨first, hfirst⟩ := Option.isSome_iff_exists.1 hsome
  obtain ⟨hnamed, before, after, hentries, hearlier⟩ := List.find?_eq_some_iff_append.1 hfirst
  refine ⟨first, List.mem_of_find?_eq_some hfirst, before, after, hentries,
    of_decide_eq_true hnamed, fun earlier hmem => ?_⟩
  simpa using hearlier earlier hmem

/-- The channels of a bench are made with the mechanics that are found for them. -/
def makeChannel (setup : BenchSetup) (axis : AxisSettings) (index : Nat) : SimulatedChannel :=
  .ofPosition (setup.mechanicsOf axis index) 0

/-- A bench is set up from valid settings. -/
theorem exists_bench (hvalid : setup.settings.validate = .ok ()) (tickLength : Nat) :
    ∃ bench, Bench.ofSetup setup tickLength = .ok bench ∧
      bench.machine.IsMadeFrom setup.makeChannel setup.settings := by
  obtain ⟨machine, hmachine, hmade⟩ :=
    Machine.exists_made (m := Id) setup.makeChannel hvalid
  refine ⟨{ machine, tickLength := max tickLength 1 }, ?_, hmade⟩
  have hrun : (Machine.ofSettings (m := Id) setup.makeChannel setup.settings).run = .ok machine :=
    congrArg ExceptT.run hmachine
  exact congrArg (fun made : Except SettingsError (Machine SimulatedChannel) => do
    let machine ← made
    return ({ machine, tickLength := max tickLength 1 } : Bench)) hrun

section

variable {place index : Nat} {axis : AxisSettings}
  (hmade : machine.IsMadeFrom setup.makeChannel setup.settings)

include hmade

/-- The search for the mechanics of a channel asks whether an entry names it. -/
theorem names_iff_found (hplace : setup.settings.axes[place]? = some axis)
    (hlt : index < axis.channels.toNat) :
    entry.Names machine (place, index) ↔
      (entry.axis == axis.name.text && entry.channel == index) = true := by
  rw [hmade.names_iff, Bool.and_eq_true, beq_iff_eq, beq_iff_eq, hplace]
  simp only [Option.some.injEq, exists_eq_left']
  exact ⟨fun ⟨hname, hindex, _⟩ => ⟨hname.symm, hindex.symm⟩,
    fun ⟨hname, hindex⟩ => ⟨hname.symm, hindex.symm, hlt⟩⟩

/-- **A channel has the mechanics of the first entry that names it.** -/
theorem channel?_of_firstFor (hfirst : setup.FirstFor machine socket entry) :
    machine.channel? socket = some (.ofPosition entry.mechanics 0) := by
  obtain ⟨before, after, hentries, hnames, hearlier⟩ := hfirst
  obtain ⟨axis, hplace, -, -, hlt⟩ := hmade.names_iff.1 hnames
  refine hmade.channel?_eq_some_iff.2 ⟨axis, hplace, hlt, ?_⟩
  have hfound : setup.entries.find?
      (fun entry => entry.axis == axis.name.text && entry.channel == socket.2) = some entry := by
    refine List.find?_eq_some_iff_append.2
      ⟨(names_iff_found hmade hplace hlt).1 hnames, before, after, hentries, ?_⟩
    intro earlier hmem
    rw [Bool.not_eq_true', Bool.eq_false_iff, ne_eq, ← names_iff_found hmade hplace hlt]
    exact hearlier earlier hmem
  rw [makeChannel, mechanicsOf, hfound, Option.elim_some]

/-- Every entry of an accepted description names a channel. -/
theorem exists_names (hentry : isKnown setup.settings entry = true) :
    ∃ socket, entry.Names machine socket := by
  obtain ⟨axis, haxis, hknown⟩ := List.any_eq_true.1 hentry
  obtain ⟨place, hplace⟩ := List.mem_iff_getElem?.1 haxis
  rw [Bool.and_eq_true, beq_iff_eq, decide_eq_true_eq] at hknown
  exact ⟨(place, entry.channel), hmade.names_iff.2 ⟨axis, hplace, hknown.1, rfl, hknown.2⟩⟩

/-- **What the entries of an accepted description do.** -/
theorem isInEffect (hvalid : setup.settings.validate = .ok ())
    (hknown : ∀ entry ∈ setup.entries, isKnown setup.settings entry = true) :
    setup.IsInEffect machine where
  named entry hentry := by
    obtain ⟨socket, hnames⟩ := exists_names hmade (hknown entry hentry)
    exact ⟨socket, hnames, fun socket' hnames' => hmade.names_unique hvalid hnames' hnames⟩
  first socket entry := channel?_of_firstFor hmade
  distinct hdistinct entry hentry socket hnames := by
    obtain ⟨first, hmem, hfirst⟩ := exists_firstFor hentry hnames
    -- the entry that is found for the channel could only be another one of the same name
    have hsame : first = entry := by
      obtain ⟨-, -, -, hnamed, -⟩ := hfirst
      refine List.inj_on_of_nodup_map hdistinct hmem hentry (Prod.ext ?_ ?_)
      · exact Option.some.inj (hnamed.axis.symm.trans hnames.axis)
      · exact hnamed.index.symm.trans hnames.index
    exact channel?_of_firstFor hmade (hsame ▸ hfirst)
  default socket channel hchannel hnone := by
    obtain ⟨axis, hplace, hlt, hmechanics⟩ := hmade.channel?_eq_some_iff.1 hchannel
    have hfound : setup.entries.find?
        (fun entry => entry.axis == axis.name.text && entry.channel == socket.2) = none := by
      refine List.find?_eq_none.2 fun entry hentry => ?_
      rw [← names_iff_found hmade hplace hlt]
      exact hnone entry hentry
    rw [hmechanics, makeChannel, mechanicsOf, hfound, Option.elim_none]

end

end BenchSetup

/-- **The entries of an accepted description are in effect**: each of them names one channel of the
machine, and a channel has the mechanics of the first entry that names it, or the default ones. -/
theorem entries_in_effect {setup : BenchSetup} {text : String} (tickLength : Nat)
    (h : BenchSetup.parse text = .ok setup) :
    ∃ bench, Bench.ofSetup setup tickLength = .ok bench ∧ setup.IsInEffect bench.machine := by
  obtain ⟨hvalid, hknown⟩ := BenchSetup.checked_of_parse h
  obtain ⟨bench, hbench, hmade⟩ := BenchSetup.exists_bench hvalid tickLength
  exact ⟨bench, hbench, BenchSetup.isInEffect hmade hvalid hknown⟩

/-! ## A description with a superfluous entry -/

/-- What comes out when a bench is set up from a text. -/
theorem exists_setup (text : String) (tickLength : Nat) (holds : BenchSetup → Bench → Bool)
    (h : ((BenchSetup.parse text).toOption.bind fun setup =>
      (Bench.ofSetup setup tickLength).toOption.map (holds setup)) = some true) :
    ∃ setup bench, BenchSetup.parse text = .ok setup ∧ Bench.ofSetup setup tickLength = .ok bench ∧
      holds setup bench = true := by
  cases hparse : BenchSetup.parse text with
  | error error =>
    rw [hparse] at h
    cases h
  | ok setup =>
    cases hbench : Bench.ofSetup setup tickLength with
    | error error =>
      simp only [hparse, hbench, Except.toOption, Option.bind_some, Option.map_none,
        reduceCtorEq] at h
    | ok bench =>
      simp only [hparse, hbench, Except.toOption, Option.bind_some, Option.map_some,
        Option.some.injEq] at h
      exact ⟨setup, bench, rfl, hbench, h⟩

/-- An axis with two motors, and two entries for the first one of them. -/
def pairedText : String :=
  "[[axes]]\nname = \"x\"\nchannels = 2\n" ++
  "[[sim]]\naxis = \"x\"\nhard_stop_min = -5\n" ++
  "[[sim]]\naxis = \"x\"\nhard_stop_min = -9\n"

set_option maxRecDepth 100000 in
theorem document_pairedText : Toml.document? pairedText =
    some (.table [("axes", .array [.table [("name", .string "x"), ("channels", .integer 2)]]),
      ("sim", .array [.table [("axis", .string "x"), ("hard_stop_min", .integer (-5))],
        .table [("axis", .string "x"), ("hard_stop_min", .integer (-9))]])]) := by
  cbv

/-- The first motor has the stop of the first entry, and the second motor has none. -/
theorem entries_in_effect_paired :
    ∃ setup bench, BenchSetup.parse pairedText = .ok setup ∧ Bench.ofSetup setup 10 = .ok bench ∧
      setup.IsInEffect bench.machine ∧
      bench.machine.channel? (0, 0) = some (.ofPosition { hardStopMin := some (-5) } 0) ∧
      bench.machine.channel? (0, 1) = some (.ofPosition {} 0) := by
  obtain ⟨setup, bench, hparse, hbench, hchannels⟩ := exists_setup pairedText 10
    (fun _ bench => decide
      (bench.machine.channel? (0, 0) = some (.ofPosition { hardStopMin := some (-5) } 0) ∧
        bench.machine.channel? (0, 1) = some (.ofPosition {} 0)))
    (by rw [BenchSetup.parse, BenchSetup.read?, document_pairedText]; decide +kernel)
  obtain ⟨bench', hbench', heffect⟩ := entries_in_effect 10 hparse
  rw [hbench] at hbench'
  cases hbench'
  exact ⟨setup, bench, hparse, hbench, heffect, of_decide_eq_true hchannels⟩

/-- **An entry may have no effect**: the description is accepted, but a motor that an entry names
does not have its mechanics. -/
theorem entry_without_effect :
    ∃ setup bench, BenchSetup.parse pairedText = .ok setup ∧ Bench.ofSetup setup 10 = .ok bench ∧
      ∃ entry ∈ setup.entries, entry.Names bench.machine (0, 0) ∧
        bench.machine.channel? (0, 0) ≠ some (.ofPosition entry.mechanics 0) := by
  obtain ⟨setup, bench, hparse, hbench, hentry⟩ := exists_setup pairedText 10
    (fun setup bench => decide (∃ entry ∈ setup.entries, entry.Names bench.machine (0, 0) ∧
      bench.machine.channel? (0, 0) ≠ some (.ofPosition entry.mechanics 0)))
    (by rw [BenchSetup.parse, BenchSetup.read?, document_pairedText]; decide +kernel)
  exact ⟨setup, bench, hparse, hbench, of_decide_eq_true hentry⟩

end MotionControl
