import MotionControl.Proofs.Settings.Image

/-!
# A torn image is not loaded

An image may be cut short, as when the power fails while it is written. A reader that finds its
value does not look at what follows, so if it found one in the torn image, it would find the same
one in the whole image and leave bytes of it over. But the whole image is read to its end.

* `Image.IsLocal`: a reader that finds a value finds it again in front of more bytes.
* `Image.Reads.eq_of_isPrefix`: bytes that are read for a value begin no other such bytes.
* `Image.isLocal_machine`: the reader of settings is such a reader.
* `torn_image_refused`: **a torn image is undecodable**, and no image begins another one.
-/

namespace MotionControl

namespace Image

/-- What a reader finds in some bytes, it finds in front of more bytes as well. -/
def IsLocal {α : Type} (read : Reader α) : Prop :=
  ∀ ⦃bytes : List UInt8⦄ ⦃value : α⦄ ⦃rest : List UInt8⦄, read.run bytes = some (value, rest) →
    ∀ more, read.run (bytes ++ more) = some (value, rest ++ more)

section

variable {α β : Type} {read : Reader α} {next : α → Reader β}

theorem IsLocal.pure (value : α) : IsLocal (pure value) := by
  intro bytes value' rest hrun more
  cases hrun
  rfl

theorem IsLocal.failure : IsLocal (failure : Reader α) := nofun

/-- One part after the other. -/
theorem IsLocal.bind (hread : IsLocal read) (hnext : ∀ value, IsLocal (next value)) :
    IsLocal (read >>= next) := by
  intro bytes value rest hrun more
  rw [StateT.run_bind] at hrun ⊢
  obtain ⟨⟨first, between⟩, hfirst, hrest⟩ := Option.bind_eq_some_iff.1 hrun
  have hfirst' : read.run (bytes ++ more) = some (first, between ++ more) := hread hfirst more
  have hrest' : (next first).run (between ++ more) = some (value, rest ++ more) :=
    hnext first hrest more
  rw [hfirst']
  exact hrest'

theorem IsLocal.ite {p : Prop} [Decidable p] {other : Reader α} (hread : IsLocal read)
    (hother : IsLocal other) : IsLocal (if p then read else other) := by
  split
  · exact hread
  · exact hother

/-- A part that is converted, or fails to be. -/
theorem IsLocal.convert (hread : IsLocal read) (convert? : α → Option β) :
    IsLocal (read >>= fun value => match convert? value with
      | none => Alternative.failure
      | some value' => Pure.pure value') := by
  refine hread.bind fun value => ?_
  split
  · exact .failure
  · exact .pure _

/-! ## A value is found in one way -/

/-- The bytes that a reader takes for a value are cut short: the value is not found in them. -/
theorem Reads.run_of_isPrefix {bytes torn : List UInt8} {value : α}
    (hreads : Reads read bytes value) (hlocal : IsLocal read) (hbegins : torn <+: bytes)
    (hne : torn ≠ bytes) : read.run torn = none := by
  obtain ⟨missing, rfl⟩ := hbegins
  rw [Option.eq_none_iff_forall_ne_some]
  rintro ⟨found, rest⟩ hrun
  -- read to its end, the image leaves nothing over; read as the torn one, it leaves what is missing
  have hwhole : read.run (torn ++ missing) = some (found, rest ++ missing) := hlocal hrun missing
  have hend : read.run (torn ++ missing) = some (value, []) := by
    have h := hreads []
    rwa [List.append_nil] at h
  have hover : rest ++ missing = [] := by
    rw [hwhole] at hend
    exact (Prod.mk.inj (Option.some.inj hend)).2
  have hmissing : missing = [] := (List.append_eq_nil_iff.1 hover).2
  apply hne
  rw [hmissing, List.append_nil]

/-- Bytes that are read for a value begin no other such bytes. -/
theorem Reads.eq_of_isPrefix {bytes bytes' : List UInt8} {value value' : α}
    (h : Reads read bytes value) (h' : Reads read bytes' value') (hbegins : bytes <+: bytes') :
    value = value' := by
  obtain ⟨more, rfl⟩ := hbegins
  have hfirst : read.run (bytes ++ more) = some (value, more) := h more
  have hsecond : read.run (bytes ++ more) = some (value', []) := by
    have h := h' []
    rwa [List.append_nil] at h
  rw [hfirst] at hsecond
  exact (Prod.mk.inj (Option.some.inj hsecond)).1

end

/-! ## The readers of a stored image -/

theorem isLocal_byte : IsLocal byte := by
  intro bytes value rest hrun more
  cases bytes with
  | nil => cases hrun
  | cons b bytes =>
    cases hrun
    rfl

theorem isLocal_take (n : Nat) : IsLocal (take n) := by
  intro bytes value rest hrun more
  change (if n ≤ bytes.length then some (bytes.take n, bytes.drop n) else none) = _ at hrun
  show (if n ≤ (bytes ++ more).length then
    some ((bytes ++ more).take n, (bytes ++ more).drop n) else none) = _
  by_cases hn : n ≤ bytes.length
  · rw [if_pos hn] at hrun
    cases hrun
    have hlonger : n ≤ (bytes ++ more).length := by
      rw [List.length_append]
      omega
    rw [if_pos hlonger, List.take_append_of_le_length hn, List.drop_append_of_le_length hn]
  · rw [if_neg hn] at hrun
    cases hrun

theorem isLocal_natWithin (lastMax room : Nat) : IsLocal (natWithin lastMax room) := by
  -- on the room: a byte with the top bit leaves the rest of the number to less room
  induction room with
  | zero => exact .failure
  | succ room ih =>
    unfold natWithin
    refine isLocal_byte.bind fun b => .ite (.ite .failure (.pure _)) ?_
    exact ih.bind fun high => .pure _

theorem isLocal_nat32 : IsLocal nat32 := isLocal_natWithin 15 5

theorem isLocal_length : IsLocal length := isLocal_natWithin 1 10

theorem isLocal_word : IsLocal word := isLocal_nat32.bind fun _ => .pure _

theorem isLocal_single : IsLocal single := by
  unfold single
  refine isLocal_byte.bind fun b0 => isLocal_byte.bind fun b1 => ?_
  exact isLocal_byte.bind fun b2 => isLocal_byte.bind fun b3 => .pure _

theorem isLocal_label : IsLocal label := by
  unfold label
  refine isLocal_length.bind fun n => (isLocal_take n).bind fun bytes => ?_
  split
  · exact .failure
  · split
    · exact .failure
    · exact .pure _

theorem isLocal_choice {α : Type} (alternatives : List α) : IsLocal (choice alternatives) :=
  isLocal_nat32.convert fun i => alternatives[i]?

theorem isLocal_homing : IsLocal homing := by
  unfold homing
  refine (isLocal_choice _).bind fun _ => (isLocal_choice _).bind fun _ => ?_
  refine isLocal_single.bind fun _ => isLocal_single.bind fun _ => isLocal_single.bind fun _ => ?_
  refine isLocal_single.bind fun _ => isLocal_single.bind fun _ => isLocal_single.bind fun _ => ?_
  refine isLocal_single.bind fun _ => isLocal_word.bind fun _ => isLocal_word.bind fun _ => ?_
  exact isLocal_word.bind fun _ => .pure _

theorem isLocal_axis : IsLocal axis := by
  unfold axis
  refine isLocal_label.bind fun _ => isLocal_byte.bind fun _ => isLocal_single.bind fun _ => ?_
  refine isLocal_single.bind fun _ => isLocal_single.bind fun _ => isLocal_word.bind fun _ => ?_
  exact isLocal_single.bind fun _ => isLocal_homing.bind fun _ => .pure _

theorem isLocal_dispense : IsLocal dispense := by
  unfold dispense
  refine isLocal_label.bind fun _ => isLocal_single.bind fun _ => ?_
  exact (isLocal_choice _).bind fun _ => (isLocal_choice _).bind fun _ => .pure _

section

variable {α : Type} {read : Reader α}

theorem isLocal_option (h : IsLocal read) : IsLocal (option read) := by
  unfold option
  refine isLocal_byte.bind fun mark => ?_
  split
  · exact .pure _
  · exact h.bind fun _ => .pure _
  · exact .failure

theorem isLocal_items (h : IsLocal read) (n : Nat) : IsLocal (items read n) := by
  induction n with
  | zero => exact .pure _
  | succ n ih => exact h.bind fun _ => ih.bind fun _ => .pure _

end

/-- The reader of settings looks at nothing behind them. -/
theorem isLocal_machine : IsLocal machine := by
  unfold machine
  refine isLocal_byte.bind fun version => isLocal_length.bind fun count => ?_
  split
  · intro bytes settings rest hrun
    cases hrun
  refine (isLocal_items isLocal_axis count).bind fun axes => ?_
  refine (isLocal_option isLocal_dispense).bind fun dispense => isLocal_word.bind fun interval => ?_
  split
  · exact .pure _
  · exact .failure

end Image

/-- **A torn image is not loaded**, of whatever settings it was, valid or not, and wherever it is
cut: it is undecodable, before its version or its values are looked at. And settings that differ,
if only in a bit of a number, have images of which none begins the other. -/
theorem torn_image_refused :
    (∀ (settings : MachineSettings) (torn : List UInt8), torn <+: settings.image →
        torn ≠ settings.image → MachineSettings.load torn = .error .deserialize) ∧
      ∀ settings other : MachineSettings, settings ≠ other → ¬ settings.image <+: other.image := by
  refine ⟨?torn, ?distinct⟩
  case torn =>
    intro settings torn hbegins hne
    have hnone : Image.machine.run torn = none :=
      (Image.reads_machine settings).run_of_isPrefix Image.isLocal_machine hbegins hne
    unfold MachineSettings.load
    rw [hnone]
  case distinct =>
    intro settings other hne hbegins
    exact hne ((Image.reads_machine settings).eq_of_isPrefix (Image.reads_machine other) hbegins)

/-- Settings of a later version. Their axis has no name, and a zero for its lower travel limit. -/
def travelFrom (zero : Single) : MachineSettings where
  version := 9
  axes := [{ travelMin := zero }]
  axes_length_le := Nat.le_of_ble_eq_true rfl

/-- The settings are refused for their version; torn in the middle of the status interval, they are
undecodable. And the two signs of the zero make two images. -/
theorem torn_image_refused_interval :
    (travelFrom 0).image.take 60 <+: (travelFrom 0).image ∧
      (travelFrom 0).image.drop 60 = [1] ∧
      MachineSettings.load (travelFrom 0).image = .error .versionMismatch ∧
      MachineSettings.load ((travelFrom 0).image.take 60) = .error .deserialize ∧
      travelFrom 0 ≠ travelFrom (-0) ∧
      ¬ (travelFrom 0).image <+: (travelFrom (-0)).image := by
  have hbegins : (travelFrom 0).image.take 60 <+: (travelFrom 0).image := List.take_prefix _ _
  have htorn : (travelFrom 0).image.take 60 ≠ (travelFrom 0).image := by decide +kernel
  have hdiffer : travelFrom 0 ≠ travelFrom (-0) := by decide +kernel
  refine ⟨hbegins, by decide +kernel, by decide +kernel, ?_, hdiffer, ?_⟩
  · exact torn_image_refused.1 (travelFrom 0) _ hbegins htorn
  · exact torn_image_refused.2 (travelFrom 0) (travelFrom (-0)) hdiffer

end MotionControl
