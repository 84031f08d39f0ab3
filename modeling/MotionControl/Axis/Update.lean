import MotionControl.Axis.Command

/-!
# The update of an axis

`Axis.update` is called once per tick. It reads the efforts, reports an event that a command has
left, latches a fault bit, and otherwise takes the operation that is going on one step further.
It yields at most one event.
-/

namespace MotionControl

/-- What a channel tells a search. -/
inductive SearchSignal where
  | nothing
  /-- The channel is at the reference. -/
  | reference
  /-- The channel gives the signal of the other way of homing. -/
  | wrong (failure : HomingFailure)
deriving DecidableEq, Repr

/-- The signal of a channel that is over the torque limit or not and at its endstop or not. -/
def HomingMode.signal (overLimit atEndstop : Bool) : HomingMode → SearchSignal
  | torque =>
    if atEndstop then .wrong .unexpectedSensor
    else if overLimit then .reference
    else .nothing
  | sensor =>
    if overLimit then .wrong .unexpectedStall
    else if atEndstop then .reference
    else .nothing

namespace Axis

variable {C : Type} [MotorChannel C]

open MotorChannel

/-! ## Moves -/

/-- Ends an operation with an event. -/
def finish (event : AxisEvent) (axis : Axis C) : Axis C × Option AxisEvent :=
  ({ axis with state := .standby }, some event)

/-- Stops a failed move. -/
def failMove (fault : Fault) (axis : Axis C) : Axis C × Option AxisEvent :=
  ({ axis.stopAll with
      stopRequested := false
      state := if fault.latches then .fault fault else .standby }, some (.fault fault))

/-- Waits for a move to start. -/
def updateStarting (since now : Nat) (axis : Axis C) : Axis C × Option AxisEvent :=
  if axis.motionStarted then ({ axis with state := .moving }, none)
  else if axis.stopRequested then axis.finish .stopped
  else if axis.settings.startTimeout.toNat ≤ now - since then axis.failMove (.timeout .moveStart)
  else (axis, none)

/-- Watches a move until no channel is stepping. -/
def updateMoving (axis : Axis C) : Axis C × Option AxisEvent :=
  if axis.anyOverLimit then axis.failMove .motionTorque
  else if axis.anyStepping then (axis, none)
  else { axis with stopRequested := false }.finish (if axis.stopRequested then .stopped else .done)

/-! ## Homing -/

/-- Goes on with a homing run. -/
def continueHoming (session : HomingSession) (axis : Axis C) : Axis C × Option AxisEvent :=
  ({ axis with state := .homing session }, none)

/-- Ends a homing run with a failure. -/
def failHoming (session : HomingSession) (fault : Fault) (axis : Axis C) :
    Axis C × Option AxisEvent :=
  (axis.stopAll.endDestress (.homing session)).finish (.fault fault)

/-- Ends a homing run with the axis referenced. -/
def completeHoming (axis : Axis C) : Axis C × Option AxisEvent :=
  { axis with isHomed := true }.finish .homed

/-- The increments of a leg. -/
def legIncrements (session : HomingSession) (leg : Leg) (axis : Axis C) : Int :=
  (leg.sign session.settings * leg.distance session.settings session.maxTravel *
    axis.settings.stepsPerUnit).toCounter

/-- Commands the move of a leg. -/
def startLeg (session : HomingSession) (leg : Leg) (now : Nat) (axis : Axis C) :
    Axis C × Option AxisEvent :=
  let scale := axis.settings.stepsPerUnit
  let axis := (axis.applyTorqueLimit session.torque).recordOrigins
  let axis := axis.mapChannels
    (MotorChannel.moveIncrements (axis.legIncrements session leg)
      (leg.speed session.settings * scale) (session.settings.accel * scale))
  axis.continueHoming
    ({ session with hits := HomingSession.noHits }.enter (.leg leg .waitStart) now)

/-- Waits for the move of a leg to start. -/
def awaitLeg (session : HomingSession) (leg : Leg) (now : Nat) (axis : Axis C) :
    Axis C × Option AxisEvent :=
  if axis.motionStarted then axis.continueHoming (session.enter (.leg leg .moving) now)
  else if session.settings.startTimeout.toNat ≤ session.phaseElapsed now then
    axis.failHoming session (.timeout .homingStart)
  else axis.continueHoming session

/-- Walks the channels of a search in order. A channel that signals the reference for the first
time in this leg is stopped; the walk ends at the first wrong signal. -/
def searchChannels (mode : HomingMode) (limit : Single) :
    List C → List EffortSample → List Bool → List C × List Bool × Option HomingFailure
  | c :: cs, sample :: samples, hit :: hits =>
    match mode.signal (sample.exceeds limit) (endstop? c == some true) with
    | .wrong failure => (c :: cs, hit :: hits, some failure)
    | signal =>
      let isNew := signal = .reference && !hit
      let (cs, hits, failure) := searchChannels mode limit cs samples hits
      (if isNew then stopAbrupt c :: cs else c :: cs, (hit || isNew) :: hits, failure)
  | cs, _, hits => (cs, hits, none)

/-- Goes on with a search until every channel has signaled the reference. -/
def search (session : HomingSession) (leg : Leg) (now : Nat) (axis : Axis C) :
    Axis C × Option AxisEvent :=
  let (channels, hits, failure) :=
    searchChannels session.settings.mode axis.torqueLimit axis.channels axis.monitor.samples
      session.hits
  let axis := { axis with channels }
  let session := { session with hits }
  match failure with
  | some failure => axis.failHoming session (.homing failure)
  | none =>
    if session.allHit channels.length then
      axis.continueHoming (session.enter (.after leg) now)
    else if !axis.anyStepping then axis.failHoming session (.homing .stopNotReached)
    else axis.continueHoming session

/-- Goes on with a retreat until no channel is stepping. -/
def retreat (session : HomingSession) (leg : Leg) (now : Nat) (axis : Axis C) :
    Axis C × Option AxisEvent :=
  if axis.anyOverLimit then axis.failHoming session (.homing .unexpectedStall)
  else if axis.anyStepping then axis.continueHoming session
  else if session.settings.mode = .sensor ∧ axis.anyEndstop then
    axis.failHoming session (.homing .sensorStuck)
  else axis.continueHoming (session.enter (.after leg) now)

/-- Zeroes every channel, and releases the drives if the settings ask for it. -/
def zeroChannels (session : HomingSession) (now : Nat) (axis : Axis C) :
    Axis C × Option AxisEvent :=
  let axis := axis.mapChannels setZero
  if session.settings.destress = 0 then axis.completeHoming
  else
    (axis.setAllEnabled false).continueHoming
      (session.enter (.destress (later now session.settings.destress.toNat)) now)

/-- Energizes the drives again at the deadline. -/
def updateDestress (session : HomingSession) (deadline now : Nat) (axis : Axis C) :
    Axis C × Option AxisEvent :=
  if now < deadline then axis.continueHoming session
  else (axis.setAllEnabled true).completeHoming

/-- Takes a homing run one step further. -/
def updateHoming (session : HomingSession) (now : Nat) (axis : Axis C) :
    Axis C × Option AxisEvent :=
  if session.settings.timeout.toNat ≤ session.elapsed now then
    axis.failHoming session (.timeout .homingSession)
  else
    match session.phase with
    | .leg leg .start => axis.startLeg session leg now
    | .leg leg .waitStart => axis.awaitLeg session leg now
    | .leg leg .moving =>
      if leg.isSearch then axis.search session leg now else axis.retreat session leg now
    | .setZero => axis.zeroChannels session now
    | .destress deadline => axis.updateDestress session deadline now

/-! ## One update -/

/-- Stops the axis for a fault bit of a drive. The position may be lost. -/
def latchHardwareFault (axis : Axis C) : Axis C × Option AxisEvent :=
  ({ axis.stopAll.endDestress axis.state with isHomed := false, state := .fault .hardware },
    some (.fault .hardware))

/-- Takes the operation that is going on one step further. -/
def updateState (now : Nat) (axis : Axis C) : Axis C × Option AxisEvent :=
  match axis.state with
  | .standby | .fault _ => (axis, none)
  | .startingMove since => axis.updateStarting since now
  | .moving => axis.updateMoving
  | .homing session => axis.updateHoming session now

/-- One update. -/
def update (now : Nat) (axis : Axis C) : Axis C × Option AxisEvent :=
  let axis := axis.sampleEffort
  match axis.pending with
  | some event => ({ axis with pending := none }, some event)
  | none =>
    if !axis.state.isFault && axis.anyFault then axis.latchHardwareFault
    else axis.updateState now

end Axis

end MotionControl
