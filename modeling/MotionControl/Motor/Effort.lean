import MotionControl.Numeric.Numeral
import MotionControl.Settings.Basic

/-!
# Effort of the channels of an axis

An `EffortMonitor` keeps for each channel the last reading of its effort and a weighted average.
The last reading decides about stalls; the average is for status lines only.

* `EffortMonitor.sample` takes a reading.
* `EffortMonitor.exceeds` compares the last reading with a limit.
* `EffortMonitor.smoothed?` is the average since the last reset.
-/

namespace MotionControl

/-- The weight of a new reading where the settings give no usable one. -/
def defaultAlpha : Single := 0.2

/-- The largest magnitude of a valid reading. -/
def maxValidEffort : Single := 100

/-- What is known of the effort of one channel. -/
structure EffortSample where
  /-- The average of the valid readings, from the first one on. -/
  smoothed : Option Single := none
  /-- The last reading, zero if it was not valid. -/
  raw : Single := 0
  /-- Whether the channel was stepping when the reading was taken. -/
  wasStepping : Bool := false
deriving DecidableEq, Repr, Inhabited

/-- A reading counts if it is there, finite and within `maxValidEffort`. -/
def validEffort? (reading : Option Single) : Option Single :=
  reading.filter fun r => r.isFinite && r.abs ≤ maxValidEffort

namespace EffortSample

/-- The average after one more valid reading. -/
def average (alpha : Single) (previous : Option Single) (reading : Single) : Single :=
  match previous with
  | none => reading
  | some previous => alpha * reading + (1 - alpha) * previous

/-- Takes a reading. One that does not count leaves the average alone. -/
def take (alpha : Single) (reading : Option Single) (stepping : Bool) (sample : EffortSample) :
    EffortSample :=
  match validEffort? reading with
  | some r => { smoothed := average alpha sample.smoothed r, raw := r, wasStepping := stepping }
  | none => { sample with raw := 0, wasStepping := stepping }

/-- Whether the last reading was taken while stepping and is beyond a limit. -/
def exceeds (limit : Single) (sample : EffortSample) : Bool :=
  sample.wasStepping && limit < sample.raw.abs

end EffortSample

/-- The effort of each channel of an axis. -/
structure EffortMonitor where
  /-- The weight of a new reading. -/
  alpha : Single
  samples : List EffortSample
deriving DecidableEq, Repr

namespace EffortMonitor

/-- A monitor without readings for at most `maxChannels` channels. An `alpha` that is not above
0 and at most 1 gives way to the default. -/
def ofCount (count : Nat) (alpha : Single) : EffortMonitor where
  alpha := if 0 < alpha ∧ alpha ≤ 1 then alpha else defaultAlpha
  samples := List.replicate (min count maxChannels) {}

/-- The number of channels. -/
def count (monitor : EffortMonitor) : Nat := monitor.samples.length

/-- Takes a reading of one channel. -/
def sample (monitor : EffortMonitor) (channel : Nat) (reading : Option Single)
    (stepping : Bool) : EffortMonitor :=
  { monitor with
    samples := monitor.samples.modify channel (EffortSample.take monitor.alpha reading stepping) }

/-- Whether the last reading of a channel was taken while stepping and is beyond a limit. -/
def exceeds (monitor : EffortMonitor) (channel : Nat) (limit : Single) : Bool :=
  (monitor.samples[channel]?).any (EffortSample.exceeds limit)

/-- The average of a channel, if it had a valid reading. -/
def smoothed? (monitor : EffortMonitor) (channel : Nat) : Option Single :=
  monitor.samples[channel]?.bind EffortSample.smoothed

/-- The last reading of a channel. -/
def raw (monitor : EffortMonitor) (channel : Nat) : Single :=
  (monitor.samples[channel]?).elim 0 EffortSample.raw

/-- Forgets all readings. -/
def reset (monitor : EffortMonitor) : EffortMonitor :=
  { monitor with samples := monitor.samples.map fun _ => {} }

end EffortMonitor

end MotionControl
