import MotionControl.Proofs.Settings.Image
import MotionControl.Proofs.Settings.Validity

/-!
# Stored settings come back as they were

* `MachineSettings.load_image_append`: settings that can be run are loaded from their image, and
  what follows the image in the store does not matter.
* `MachineSettings.valid_of_load`: nothing else is ever loaded.
* `stored_settings_return`: **settings come back from the store as they were**, to the last bit of
  every number.
-/

namespace MotionControl

namespace MachineSettings

variable {settings : MachineSettings}

/-- Settings that can be run come back from their image. -/
theorem load_image_append (hversion : settings.version = settingsVersion)
    (hvalid : settings.validate = .ok ()) (rest : List UInt8) :
    load (settings.image ++ rest) = .ok settings := by
  have hfault : settings.fault? = none := validate_eq_ok.1 hvalid
  simp [load, Image.reads_machine settings rest, hversion, hfault]

/-- Only settings that can be run are loaded. -/
theorem valid_of_load {bytes : List UInt8} (h : load bytes = .ok settings) :
    settings.version = settingsVersion ∧ settings.validate = .ok () := by
  unfold load at h
  split at h
  · cases h
  split at h
  · cases h
  rename_i hversion
  split at h
  · cases h
  · rename_i hfault
    cases h
    exact ⟨not_not.1 hversion, validate_eq_ok.2 hfault⟩

end MachineSettings

/-- **Settings come back from the store as they were.** Valid settings of the right version are
written into every buffer that has the room for their image, and into no other; they are loaded
from their image, whatever follows it, with every number the same in all of its bits. Whatever
bytes settings are loaded from, the settings are valid and of the right version, and they come back
from an image of their own. -/
theorem stored_settings_return :
    (∀ settings : MachineSettings, settings.version = settingsVersion →
        settings.validate = .ok () →
          (∀ (room : Nat) (bytes : List UInt8), settings.store room = .ok bytes ↔
              settings.image.length ≤ room ∧ bytes = settings.image) ∧
            (∀ room : Nat, room < settings.image.length →
              settings.store room = .error .serialize) ∧
            ∀ rest : List UInt8, MachineSettings.load (settings.image ++ rest) = .ok settings) ∧
      ∀ (bytes : List UInt8) (settings : MachineSettings),
        MachineSettings.load bytes = .ok settings →
          settings.validate = .ok () ∧ settings.version = settingsVersion ∧
            MachineSettings.load settings.image = .ok settings := by
  refine ⟨fun settings hversion hvalid => ⟨?written, ?refused, ?returned⟩, ?loaded⟩
  case written =>
    intro room bytes
    unfold MachineSettings.store
    split
    · rename_i hroom
      rw [Except.ok.injEq, eq_comm]
      exact (and_iff_right hroom).symm
    · rename_i hroom
      exact ⟨nofun, fun h => absurd h.1 hroom⟩
  case refused =>
    intro room hroom
    exact if_neg (Nat.not_le_of_lt hroom)
  case returned =>
    exact MachineSettings.load_image_append hversion hvalid
  case loaded =>
    intro bytes settings hload
    obtain ⟨hversion, hvalid⟩ := MachineSettings.valid_of_load hload
    have hreturned := MachineSettings.load_image_append hversion hvalid []
    rw [List.append_nil] at hreturned
    exact ⟨hvalid, hversion, hreturned⟩

/-- A machine with a dispense. -/
def syringeSettings : MachineSettings where
  axes := [{ name := ⟨"syringe", by decide⟩ }]
  dispense := some { axis := ⟨"syringe", by decide⟩ }

/-- Its image ends with the status interval in two bytes. The settings are loaded from there, with
a byte behind it, and just as well from an image with the interval in three bytes. -/
theorem stored_settings_return_syringe :
    syringeSettings.version = settingsVersion ∧ syringeSettings.validate = .ok () ∧
      syringeSettings.image.drop 80 = [250, 1] ∧
      MachineSettings.load (syringeSettings.image ++ [7]) = .ok syringeSettings ∧
      MachineSettings.load (syringeSettings.image.take 80 ++ [250, 129, 0]) =
        .ok syringeSettings ∧
      MachineSettings.load syringeSettings.image = .ok syringeSettings := by
  have hversion : syringeSettings.version = settingsVersion := rfl
  have hvalid : syringeSettings.validate = .ok () := by decide +kernel
  have hlong : MachineSettings.load (syringeSettings.image.take 80 ++ [250, 129, 0]) =
      .ok syringeSettings := by decide +kernel
  refine ⟨hversion, hvalid, by decide +kernel, ?_, hlong, ?_⟩
  · exact (stored_settings_return.1 syringeSettings hversion hvalid).2.2 [7]
  · exact (stored_settings_return.2 _ syringeSettings hlong).2.2

end MotionControl
