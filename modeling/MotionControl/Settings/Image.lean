import MotionControl.Settings.Validity

/-!
# The stored form of settings

Settings are stored as bytes, field after field. A byte stands for itself; a 32-bit number, a
length and the choice of an alternative are numbers of seven bits a byte, low bits first, the top
bit set on all but the last byte; a text is its length and its UTF-8 bytes, a list its length and
its items; an optional part is a byte 0, or a byte 1 and the part; a single precision number is
its four bytes, lowest first.

* `MachineSettings.image` is the stored form.
* `MachineSettings.store` writes it into a buffer that may be too small.
* `MachineSettings.load` reads it back and accepts valid settings of the right version. Bytes
  after the image are not looked at.
-/

namespace MotionControl

namespace Image

/-! ## Writing -/

/-- A number, seven bits a byte. -/
def ofNat (n : Nat) : List UInt8 :=
  if n < 128 then [UInt8.ofNat n] else UInt8.ofNat (n % 128 + 128) :: ofNat (n / 128)

def ofSingle (x : Single) : List UInt8 :=
  [x.bits.toUInt8, (x.bits >>> 8).toUInt8, (x.bits >>> 16).toUInt8, (x.bits >>> 24).toUInt8]

def ofLabel (label : Label) : List UInt8 :=
  ofNat label.text.utf8ByteSize ++ label.text.toUTF8.toList

def ofHomingMode : HomingMode → List UInt8
  | .torque => ofNat 0
  | .sensor => ofNat 1

def ofDirection : Direction → List UInt8
  | .negative => ofNat 0
  | .positive => ofNat 1

def ofCancelAccounting : CancelAccounting → List UInt8
  | .reportZero => ofNat 0
  | .reportDispensed => ofNat 1

def ofHoming (homing : HomingSettings) : List UInt8 :=
  ofHomingMode homing.mode ++ ofDirection homing.direction ++ ofSingle homing.rapidSpeed ++
    ofSingle homing.backoffSpeed ++ ofSingle homing.slowSpeed ++ ofSingle homing.accel ++
    ofSingle homing.backoffDistance ++ ofSingle homing.slowSearchDistance ++
    ofSingle homing.offsetDistance ++ ofNat homing.startTimeout.toNat ++
    ofNat homing.timeout.toNat ++ ofNat homing.destress.toNat

def ofAxis (axis : AxisSettings) : List UInt8 :=
  ofLabel axis.name ++ [axis.channels] ++ ofSingle axis.stepsPerUnit ++ ofSingle axis.travelMin ++
    ofSingle axis.travelMax ++ ofNat axis.startTimeout.toNat ++ ofSingle axis.torqueAlpha ++
    ofHoming axis.homing

def ofDispense (dispense : DispenseSettings) : List UInt8 :=
  ofLabel dispense.axis ++ ofSingle dispense.stepsPerVolume ++
    ofDirection dispense.injectDirection ++ ofCancelAccounting dispense.cancelAccounting

def ofOption {α : Type} (write : α → List UInt8) : Option α → List UInt8
  | none => [0]
  | some value => 1 :: write value

def ofList {α : Type} (write : α → List UInt8) (items : List α) : List UInt8 :=
  ofNat items.length ++ items.flatMap write

/-! ## Reading -/

/-- Reads a value off the front of some bytes, or fails. -/
abbrev Reader := StateT (List UInt8) Option

def byte : Reader UInt8 := fun
  | [] => none
  | b :: rest => some (b, rest)

/-- Reads exactly `n` bytes. -/
def take (n : Nat) : Reader (List UInt8) := fun bytes =>
  if n ≤ bytes.length then some (bytes.take n, bytes.drop n) else none

/-- Reads a number of at most `room` bytes, the last of which may hold at most `lastMax`. -/
def natWithin (lastMax : Nat) : Nat → Reader Nat
  | 0 => failure
  | room + 1 => do
    let b ← byte
    if b.toNat < 128 then
      if room = 0 ∧ lastMax < b.toNat then failure else return b.toNat
    else
      let high ← natWithin lastMax room
      return b.toNat % 128 + 128 * high

/-- Reads a number of 32 bits: four bytes of seven bits and one of four. -/
def nat32 : Reader Nat := natWithin 15 5

/-- Reads a length of 64 bits: nine bytes of seven bits and one of one. -/
def length : Reader Nat := natWithin 1 10

def word : Reader UInt32 := return UInt32.ofNat (← nat32)

def single : Reader Single := do
  let b0 ← byte
  let b1 ← byte
  let b2 ← byte
  let b3 ← byte
  return ⟨b0.toUInt32 ||| (b1.toUInt32 <<< 8) ||| (b2.toUInt32 <<< 16) ||| (b3.toUInt32 <<< 24)⟩

/-- Reads a text that fits into a label. -/
def label : Reader Label := do
  let bytes ← take (← length)
  match String.fromUTF8? ⟨bytes.toArray⟩ with
  | none => failure
  | some text =>
    match Label.ofString? text with
    | none => failure
    | some label => return label

/-- Reads the number of an alternative. -/
def choice {α : Type} (alternatives : List α) : Reader α := do
  match alternatives[← nat32]? with
  | none => failure
  | some value => return value

def homing : Reader HomingSettings := do
  return {
    mode := ← choice [.torque, .sensor]
    direction := ← choice [.negative, .positive]
    rapidSpeed := ← single
    backoffSpeed := ← single
    slowSpeed := ← single
    accel := ← single
    backoffDistance := ← single
    slowSearchDistance := ← single
    offsetDistance := ← single
    startTimeout := ← word
    timeout := ← word
    destress := ← word }

def axis : Reader AxisSettings := do
  return {
    name := ← label
    channels := ← byte
    stepsPerUnit := ← single
    travelMin := ← single
    travelMax := ← single
    startTimeout := ← word
    torqueAlpha := ← single
    homing := ← homing }

def dispense : Reader DispenseSettings := do
  return {
    axis := ← label
    stepsPerVolume := ← single
    injectDirection := ← choice [.negative, .positive]
    cancelAccounting := ← choice [.reportZero, .reportDispensed] }

/-- Reads an optional part. -/
def option {α : Type} (read : Reader α) : Reader (Option α) := do
  match ← byte with
  | 0 => return none
  | 1 => return some (← read)
  | _ => failure

/-- Reads `n` items. -/
def items {α : Type} (read : Reader α) : Nat → Reader (List α)
  | 0 => return []
  | n + 1 => do
    let item ← read
    return item :: (← items read n)

def machine : Reader MachineSettings := do
  let version ← byte
  let count ← length
  if maxAxes < count then failure
  let axes ← items axis count
  let dispense ← option dispense
  let telemetryInterval ← word
  if h : axes.length ≤ maxAxes then
    return { version, axes, dispense, telemetryInterval, axes_length_le := h }
  else failure

end Image

namespace MachineSettings

/-- The stored form. -/
def image (settings : MachineSettings) : List UInt8 :=
  settings.version :: Image.ofList Image.ofAxis settings.axes ++
    Image.ofOption Image.ofDispense settings.dispense ++
    Image.ofNat settings.telemetryInterval.toNat

/-- Writes the stored form into a buffer of `room` bytes. -/
def store (settings : MachineSettings) (room : Nat) : Except SettingsError (List UInt8) :=
  if settings.image.length ≤ room then .ok settings.image else .error .serialize

/-- Reads settings from the front of some bytes. -/
def load (bytes : List UInt8) : Except SettingsError MachineSettings :=
  match Image.machine.run bytes with
  | none => .error .deserialize
  | some (settings, _) =>
    if settings.version ≠ settingsVersion then .error .versionMismatch
    else
      match settings.fault? with
      | some error => .error error
      | none => .ok settings

end MachineSettings

end MotionControl
