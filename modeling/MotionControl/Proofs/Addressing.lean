import MotionControl.Proofs.Grammar
import MotionControl.Proofs.Machine.Layout

/-!
# Which axes a command line can name

Valid settings give every axis a name of its own. The words of a command line are parted by white
space, though, and a name may have some.

* `isUnspaced_of_named`: a line can only name what has no white space.
* `parse_abortLine_iff`: an abort of such a name is read as one.
* `Machine.handle_abort`: **an abort stops the axis at the place of its name, and no other**.
* `addressable_iff_unspaced`: **an axis can be named exactly if its name has no white space**, and
  its commands go to its own place.
* `addressable_not_spaced`: valid settings with an axis whose abort is refused, and with one whose
  abort is read as that of another axis.
-/

namespace MotionControl

/-! ## Reading a name -/

/-- The line that aborts the axis with a name. -/
def abortLine (name : Label) : String := "abort " ++ name.text

theorem tokens_abortLine (name : Label) :
    tokens (abortLine name) = "abort" :: tokens name.text := by
  have hkeyword : tokens "abort" = ["abort"] := by decide
  have hparts := tokens_append_space "abort" name.text
  rw [hkeyword] at hparts
  exact hparts

/-- Where words spell operands, each operand is spelled by one of them. -/
theorem exists_word_of_spelled {words : List String} {operands : List Operand} {operand : Operand}
    (h : List.Forall₂ Operand.SpelledBy words operands) (hmem : operand ∈ operands) :
    ∃ word ∈ words, operand.SpelledBy word := by
  induction h with
  | nil => cases hmem
  | cons hfirst _ ih =>
    rcases List.mem_cons.1 hmem with rfl | hrest
    · exact ⟨_, .head _, hfirst⟩
    · obtain ⟨word, hword, hspelled⟩ := ih hrest
      exact ⟨word, .tail _ hword, hspelled⟩

/-- **A command line names only what has no white space.** -/
theorem isUnspaced_of_named {line : String} {command : Command} {name : Label}
    (hparse : Command.parse line = .ok command) (hname : command.axis? = some name) :
    name.text ≠ "" ∧ IsUnspaced name.text := by
  have hspec := ofWords_spec (words line)
  rw [Command.parse] at hparse
  rw [hparse] at hspec
  cases hspec with
  | ok hwritten =>
    obtain ⟨keyword, rest, hwords, -, hspelled⟩ := hwritten
    have hoperand : Operand.axis name ∈ command.operands := by
      cases command <;> cases hname <;> exact .head _
    obtain ⟨word, hword, hsame⟩ := exists_word_of_spelled hspelled hoperand
    have hmem : name.text ∈ tokens line := by
      rw [← words_eq_tokens, hwords, show name.text = word from hsame]
      exact .tail _ hword
    exact isUnspaced_of_mem_tokens hmem

/-- **The abort of an axis is read as that** exactly if its name is a word. -/
theorem parse_abortLine_iff {name : Label} :
    Command.parse (abortLine name) = .ok (.abort name) ↔ name.text ≠ "" ∧ IsUnspaced name.text := by
  constructor
  · exact fun h => isUnspaced_of_named h rfl
  · intro hword
    have hkeyword : foldCase "abort" = "abort" := by decide +kernel
    have hwritten : (Command.abort name).IsWritten ["abort", name.text] :=
      ⟨"abort", [name.text], rfl, hkeyword, .cons rfl .nil⟩
    have hspec := ofWords_spec ["abort", name.text]
    rw [Command.parse, words_eq_tokens, tokens_abortLine, tokens_eq_singleton_iff.2 hword]
    generalize Command.ofWords ["abort", name.text] = reading at hspec
    cases hspec with
    | ok h => rw [h.unique hwritten]
    | error h => exact absurd hwritten h.not_isWritten

/-! ## Finding the axis -/

namespace Machine

variable {C : Type} [MotorChannel C]

/-- The axis at a place is stopped, and the other ones are left as they are. A dispense that is
going on there reports the end itself. -/
structure StopsAt (place : Nat) (machine machine' : Machine C) : Prop where
  others : ∀ i, i ≠ place → machine'.axes[i]? = machine.axes[i]?
  stopped : ∃ axis, machine.axes[place]? = some axis ∧
    machine'.axes[place]? =
      some (if machine.isDispensingOn place then axis.abort.discardPending else axis.abort)

/-- **An abort stops the axis at the place of its name**, whatever the machine is doing. -/
theorem handle_abort {machine : Machine C} {name : Label} {place : Nat} {axis : Axis C} (now : Nat)
    (hfind : machine.axes.findIdx? (·.settings.name.text == name.text) = some place)
    (haxis : machine.axes[place]? = some axis) :
    ∃ machine', (handle (.abort name) now).run machine = .ok () machine' ∧
      StopsAt place machine machine' := by
  have hlookup : (lookup name).run machine = .ok place machine := lookup_ok.2 ⟨hfind, rfl⟩
  have hhanded : (handle (.abort name) now).run machine =
      if machine.isDispensingOn place then (onDispense Dispenser.tryCancel).run machine
      else (onAxis place (modify Axis.abort)).run machine := by
    simp only [handle, abortAxis, EStateM.run_bind, hlookup, EStateM.run_get]
    split <;> rfl
  by_cases hdispensing : machine.isDispensingOn place = true
  · obtain ⟨station, hstation, rfl, hongoing⟩ := isDispensingOn_eq_true.1 hdispensing
    have hcancel : Dispenser.tryCancel.run (station.dispenser, axis) =
        .ok () (_, axis.abort.discardPending) :=
      Dispenser.tryCancel_ok.2 ⟨hongoing, rfl, rfl⟩
    have hrun : (onDispense Dispenser.tryCancel).run machine = .ok () _ :=
      run_onDispense_ok.2 ⟨station, axis, _, _, hstation, haxis, hcancel, rfl⟩
    rw [if_pos hdispensing] at hhanded
    refine ⟨_, hhanded.trans hrun, ?_, axis, haxis, ?_⟩
    · intro i hi
      rw [getElem?_store, if_neg (Ne.symm hi)]
    · rw [getElem?_store_self _ _ haxis, if_pos hdispensing]
  · have hrun : (onAxis place (modify Axis.abort)).run machine = .ok () _ :=
      run_onAxis_ok.2 ⟨axis, axis.abort, haxis, rfl, rfl⟩
    rw [if_neg hdispensing] at hhanded
    refine ⟨_, hhanded.trans hrun, ?_, axis, haxis, ?_⟩
    · intro i hi
      rw [getElem?_modifyAxis, if_neg (Ne.symm hi)]
    · rw [getElem?_modifyAxis_self _ haxis, if_neg hdispensing]

end Machine

/-! ## Addressing -/

/-- The layout of a machine stays that of the settings that it was built from. -/
theorem Machine.IsBuiltFrom.fits_run {C : Type} [MotorChannel C] {settings : MachineSettings}
    {machine : Machine C} (h : machine.IsBuiltFrom settings) (turns : List (Turn C)) :
    (machine.run turns).Fits settings :=
  (run_invariant (·.Fits settings) h.fits fun visit _ hfits =>
    (hfits.sense visit.turn.feedback).tick visit.turn.now visit.turn.command).2

/-- **An axis of valid settings can be named in a command line exactly if its name has no white
space.** The abort of the axis is then read as that, and otherwise no line names the axis. And an
abort of that name stops the axis at its own place, and no other, at any point of any run of any
machine built from the settings. -/
theorem addressable_iff_unspaced {settings : MachineSettings} (hvalid : settings.validate = .ok ())
    {place : Nat} {axis : AxisSettings} (haxis : settings.axes[place]? = some axis) :
    (Command.parse (abortLine axis.name) = .ok (.abort axis.name) ↔ IsUnspaced axis.name.text) ∧
      ((∃ line command, Command.parse line = .ok command ∧ command.axis? = some axis.name) ↔
        IsUnspaced axis.name.text) ∧
      ∀ {C : Type} [MotorChannel C] (machine : Machine C) (turns : List (Turn C)) (now : Nat),
        machine.IsBuiltFrom settings →
          ∃ machine', (Machine.handle (.abort axis.name) now).run (machine.run turns) =
            .ok () machine' ∧ Machine.StopsAt place (machine.run turns) machine' := by
  have hnamed : axis.name.text ≠ "" :=
    MachineSettings.named_of_validate hvalid axis (List.mem_of_getElem? haxis)
  refine ⟨?abort, ?line, ?machine⟩
  case abort => simp [parse_abortLine_iff, hnamed]
  case line =>
    constructor
    · rintro ⟨line, command, hparse, hname⟩
      exact (isUnspaced_of_named hparse hname).2
    · intro hunspaced
      exact ⟨_, _, parse_abortLine_iff.2 ⟨hnamed, hunspaced⟩, rfl⟩
  case machine =>
    intro C _ machine turns now hbuilt
    have hfits := hbuilt.fits_run turns
    have hname : settings.HasName place axis.name := by
      rw [MachineSettings.HasName, haxis]
      rfl
    have hfind := (MachineSettings.axisIndex?_eq_some_iff hvalid).2 hname
    rw [← hfits.findIdx?_eq] at hfind
    obtain ⟨hlt, -⟩ := List.findIdx?_eq_some_iff_getElem.1 hfind
    exact Machine.handle_abort now hfind (List.getElem?_eq_getElem hlt)

/-- The plunger can be named, and an abort stops it after a homing run. -/
theorem addressable_iff_unspaced_plunger :
    IsUnspaced plungerName.text ∧ Command.parse (abortLine plungerName) = .ok (.abort plungerName) ∧
      ∃ machine', (Machine.handle (.abort plungerName) 14).run (plunger.run plungerHoming) =
        .ok () machine' ∧ Machine.StopsAt 0 (plunger.run plungerHoming) machine' := by
  have hunspaced : IsUnspaced plungerName.text := by decide
  have hvalid : plungerSettings.validate = .ok () := by decide +kernel
  have haxis : plungerSettings.axes[0]? = some { name := plungerName } := rfl
  have hbuilt : plunger.IsBuiltFrom plungerSettings := ⟨Unit, fun _ _ => pure {}, (), rfl⟩
  obtain ⟨habort, -, hmachine⟩ := addressable_iff_unspaced hvalid haxis
  exact ⟨hunspaced, habort.2 hunspaced, hmachine plunger plungerHoming 14 hbuilt⟩

/-- Two axes whose names differ in their white space only, and one with a space inside its name. -/
def spacedSettings : MachineSettings where
  axes :=
    [{ name := ⟨"a", by decide⟩ }, { name := ⟨" a", by decide⟩ }, { name := ⟨"a b", by decide⟩ }]

/-- **Valid settings may have axes that no line names.** The abort of one is read as that of another
axis, and the abort of the other one is refused. -/
theorem addressable_not_spaced :
    spacedSettings.validate = .ok () ∧
      spacedSettings.HasName 0 ⟨"a", by decide⟩ ∧ spacedSettings.HasName 1 ⟨" a", by decide⟩ ∧
      Command.parse (abortLine ⟨" a", by decide⟩) = .ok (.abort ⟨"a", by decide⟩) ∧
      spacedSettings.HasName 2 ⟨"a b", by decide⟩ ∧
      Command.parse (abortLine ⟨"a b", by decide⟩) = .error .trailingArguments :=
  ⟨by decide +kernel, rfl, rfl, by decide +kernel, rfl, by decide +kernel⟩

end MotionControl
