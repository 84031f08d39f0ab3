import MotionControl.Proofs.Machine.Run

/-!
# Channels of another make

The controllers reach their channels only through what every channel has, so they do the same
whatever the channels are made of.

* `ChannelMap`: a change of the make of the channels that no command and no reading tells apart.
* `Axis.update_convert`, `Machine.simulates_handle`, `Machine.tick_convert`: **neither an axis nor a
  machine takes notice of such a change**.
-/

namespace MotionControl

open Attempt

/-- A change of the make of a channel which carries every command over, and leaves every reading as
it is. -/
structure ChannelMap (C D : Type) [MotorChannel C] [MotorChannel D] where
  toFun : C → D
  moveIncrements : ∀ increments velocity accel c,
    toFun (MotorChannel.moveIncrements increments velocity accel c) =
      MotorChannel.moveIncrements increments velocity accel (toFun c)
  stopAbrupt : ∀ c, toFun (MotorChannel.stopAbrupt c) = MotorChannel.stopAbrupt (toFun c)
  stopDecelerated : ∀ c,
    toFun (MotorChannel.stopDecelerated c) = MotorChannel.stopDecelerated (toFun c)
  setZero : ∀ c, toFun (MotorChannel.setZero c) = MotorChannel.setZero (toFun c)
  setEnabled : ∀ enabled c,
    toFun (MotorChannel.setEnabled enabled c) = MotorChannel.setEnabled enabled (toFun c)
  setTorqueLimit : ∀ percent c,
    toFun (MotorChannel.setTorqueLimit percent c) = MotorChannel.setTorqueLimit percent (toFun c)
  position : ∀ c, MotorChannel.position (toFun c) = MotorChannel.position c
  isStepping : ∀ c, MotorChannel.isStepping (toFun c) = MotorChannel.isStepping c
  hasFault : ∀ c, MotorChannel.hasFault (toFun c) = MotorChannel.hasFault c
  effort? : ∀ c, MotorChannel.effort? (toFun c) = MotorChannel.effort? c
  endstop? : ∀ c, MotorChannel.endstop? (toFun c) = MotorChannel.endstop? c
  isEnabled : ∀ c, MotorChannel.isEnabled (toFun c) = MotorChannel.isEnabled c

variable {C D : Type} [MotorChannel C] [MotorChannel D]

instance : CoeFun (ChannelMap C D) fun _ => C → D := ⟨ChannelMap.toFun⟩

/-! ## Axes -/

namespace Axis

/-- The axis with channels of another make. -/
def convert {C D : Type} (f : C → D) (axis : Axis C) : Axis D where
  settings := axis.settings
  channels := axis.channels.map f
  state := axis.state
  isHomed := axis.isHomed
  torqueLimit := axis.torqueLimit
  monitor := axis.monitor
  origins := axis.origins
  stopRequested := axis.stopRequested
  pending := axis.pending

theorem convert_convert {C D E : Type} (axis : Axis C) (f : C → D) (g : D → E) :
    (axis.convert f).convert g = axis.convert (g ∘ f) := by
  simp [convert]

@[simp] theorem convert_id {C : Type} (axis : Axis C) : axis.convert id = axis := by
  simp [convert]

variable (f : ChannelMap C D) (axis : Axis C)

section

variable {f axis}

theorem mapChannels_convert {g : C → C} {g' : D → D} (h : ∀ c, f (g c) = g' (f c)) :
    (axis.convert f).mapChannels g' = (axis.mapChannels g).convert f := by
  simp [convert, mapChannels, Function.comp_def, h]

end

/-! ### Readings -/

@[simp] theorem positionIncrements_convert :
    (axis.convert f).positionIncrements = axis.positionIncrements := by
  unfold positionIncrements convert
  cases axis.channels <;> simp [f.position]

@[simp] theorem anyStepping_convert : (axis.convert f).anyStepping = axis.anyStepping := by
  simp [anyStepping, convert, Function.comp_def, f.isStepping]

@[simp] theorem anyFault_convert : (axis.convert f).anyFault = axis.anyFault := by
  simp [anyFault, convert, Function.comp_def, f.hasFault]

@[simp] theorem anyEndstop_convert : (axis.convert f).anyEndstop = axis.anyEndstop := by
  simp [anyEndstop, convert, Function.comp_def, f.endstop?]

@[simp] theorem allEnabled_convert : (axis.convert f).allEnabled = axis.allEnabled := by
  simp [allEnabled, convert, Function.comp_def, f.isEnabled]

@[simp] theorem motionStarted_convert :
    (axis.convert f).motionStarted = axis.motionStarted := by
  simp [motionStarted, convert, List.zip_map_left, Function.comp_def, f.isStepping, f.position]

@[simp] theorem anyOverLimit_convert : (axis.convert f).anyOverLimit = axis.anyOverLimit := rfl

/-! ### Commands to the channels -/

@[simp] theorem stopAll_convert : (axis.convert f).stopAll = axis.stopAll.convert f :=
  mapChannels_convert f.stopAbrupt

@[simp] theorem setAllEnabled_convert (enabled : Bool) :
    (axis.convert f).setAllEnabled enabled = (axis.setAllEnabled enabled).convert f :=
  mapChannels_convert (f.setEnabled enabled)

@[simp] theorem applyTorqueLimit_convert (percent : Single) :
    (axis.convert f).applyTorqueLimit percent = (axis.applyTorqueLimit percent).convert f := by
  unfold applyTorqueLimit
  rw [mapChannels_convert (f.setTorqueLimit percent)]
  rfl

@[simp] theorem recordOrigins_convert :
    (axis.convert f).recordOrigins = axis.recordOrigins.convert f := by
  simp [recordOrigins, convert, Function.comp_def, f.position]

@[simp] theorem sampleEffort_convert :
    (axis.convert f).sampleEffort = axis.sampleEffort.convert f := by
  simp [sampleEffort, convert, List.zipWith_map_left, f.effort?, f.isStepping]

@[simp] theorem endDestress_convert (state : AxisState) :
    (axis.convert f).endDestress state = (axis.endDestress state).convert f := by
  unfold endDestress
  split
  · exact setAllEnabled_convert ..
  · rfl

/-! ### Updates -/

variable {axis} in
/-- The axis and the event of an update, with channels of another make. -/
def convertResult (result : Axis C × Option AxisEvent) : Axis D × Option AxisEvent :=
  (result.1.convert f, result.2)

theorem failMove_convert (fault : Fault) :
    (axis.convert f).failMove fault = convertResult f (axis.failMove fault) := by
  simp only [failMove, stopAll_convert]
  rfl

theorem failHoming_convert (session : HomingSession) (fault : Fault) :
    (axis.convert f).failHoming session fault =
      convertResult f (axis.failHoming session fault) := by
  simp only [failHoming, stopAll_convert, endDestress_convert]
  rfl

theorem updateStarting_convert (since now : Nat) :
    (axis.convert f).updateStarting since now =
      convertResult f (axis.updateStarting since now) := by
  simp only [updateStarting, motionStarted_convert, failMove_convert, apply_ite (convertResult f)]
  rfl

theorem updateMoving_convert :
    (axis.convert f).updateMoving = convertResult f axis.updateMoving := by
  simp only [updateMoving, anyOverLimit_convert, anyStepping_convert, failMove_convert,
    apply_ite (convertResult f)]
  rfl

theorem startLeg_convert (session : HomingSession) (leg : Leg) (now : Nat) :
    (axis.convert f).startLeg session leg now =
      convertResult f (axis.startLeg session leg now) := by
  simp only [startLeg, applyTorqueLimit_convert, recordOrigins_convert]
  rw [mapChannels_convert (f.moveIncrements _ _ _)]
  rfl

theorem awaitLeg_convert (session : HomingSession) (leg : Leg) (now : Nat) :
    (axis.convert f).awaitLeg session leg now =
      convertResult f (axis.awaitLeg session leg now) := by
  simp only [awaitLeg, motionStarted_convert, failHoming_convert, apply_ite (convertResult f)]
  rfl

theorem searchChannels_map (mode : HomingMode) (limit : Single) (channels : List C)
    (samples : List EffortSample) (hits : List Bool) :
    searchChannels mode limit (channels.map f) samples hits =
      ((searchChannels mode limit channels samples hits).1.map f,
        (searchChannels mode limit channels samples hits).2) := by
  fun_induction searchChannels mode limit channels samples hits with
  | case1 c cs sample samples hit hits failure hsignal =>
    simp only [List.map_cons, searchChannels, f.endstop?, hsignal]
  | case2 c cs sample samples hit hits cs' hits' failure hwalk hsignal isNew ih =>
    rw [hwalk] at ih
    rw [List.map_cons, searchChannels]
    simp only [f.endstop?, ih, ← f.stopAbrupt]
    refine Prod.ext ?_ rfl
    show (if isNew = true then _ else _) = List.map f (if isNew = true then _ else _)
    split <;> rfl
  | case3 cs samples hits hempty =>
    refine searchChannels.eq_2 mode limit (cs.map f) samples hits ?_
    intro c' cs' sample samples' hit hits' hcs
    obtain ⟨c, rest, rfl, -⟩ := List.map_eq_cons_iff.1 hcs
    exact hempty c rest sample samples' hit hits' rfl

theorem search_convert (session : HomingSession) (leg : Leg) (now : Nat) :
    (axis.convert f).search session leg now =
      convertResult f (axis.search session leg now) := by
  have hwalk := searchChannels_map f session.settings.mode axis.torqueLimit axis.channels
    axis.monitor.samples session.hits
  unfold search
  rw [show (axis.convert f).channels = axis.channels.map f from rfl,
    show (axis.convert f).torqueLimit = axis.torqueLimit from rfl,
    show (axis.convert f).monitor = axis.monitor from rfl, hwalk]
  generalize searchChannels session.settings.mode axis.torqueLimit axis.channels
    axis.monitor.samples session.hits = walk
  obtain ⟨channels, hits, failure⟩ := walk
  dsimp only
  rw [List.length_map]
  cases failure with
  | some failure => exact failHoming_convert f { axis with channels } _ _
  | none =>
    show (if _ then _ else if (!(convert f { axis with channels }).anyStepping) = true then
      (convert f { axis with channels }).failHoming _ _ else _) = _
    simp only [anyStepping_convert, failHoming_convert, apply_ite (convertResult f)]
    rfl

theorem retreat_convert (session : HomingSession) (leg : Leg) (now : Nat) :
    (axis.convert f).retreat session leg now =
      convertResult f (axis.retreat session leg now) := by
  simp only [retreat, anyOverLimit_convert, anyStepping_convert, anyEndstop_convert,
    failHoming_convert, apply_ite (convertResult f)]
  rfl

theorem zeroChannels_convert (session : HomingSession) (now : Nat) :
    (axis.convert f).zeroChannels session now =
      convertResult f (axis.zeroChannels session now) := by
  simp only [zeroChannels, mapChannels_convert f.setZero, setAllEnabled_convert,
    apply_ite (convertResult f)]
  rfl

theorem updateDestress_convert (session : HomingSession) (deadline now : Nat) :
    (axis.convert f).updateDestress session deadline now =
      convertResult f (axis.updateDestress session deadline now) := by
  simp only [updateDestress, setAllEnabled_convert, apply_ite (convertResult f)]
  rfl

theorem updateHoming_convert (session : HomingSession) (now : Nat) :
    (axis.convert f).updateHoming session now =
      convertResult f (axis.updateHoming session now) := by
  unfold updateHoming
  split
  · exact failHoming_convert ..
  split
  · exact startLeg_convert ..
  · exact awaitLeg_convert ..
  · split
    · exact search_convert ..
    · exact retreat_convert ..
  · exact zeroChannels_convert ..
  · exact updateDestress_convert ..

theorem latchHardwareFault_convert :
    (axis.convert f).latchHardwareFault = convertResult f axis.latchHardwareFault := by
  have hstate : (axis.convert f).state = axis.state := rfl
  simp only [latchHardwareFault, stopAll_convert, hstate, endDestress_convert]
  rfl

/-- **An update takes no notice of the make of the channels.** -/
theorem update_convert (now : Nat) :
    (axis.convert f).update now = convertResult f (axis.update now) := by
  unfold update
  rw [sampleEffort_convert]
  generalize axis.sampleEffort = axis
  have hpending : (axis.convert f).pending = axis.pending := rfl
  have hstate : (axis.convert f).state = axis.state := rfl
  simp only [hpending, hstate, anyFault_convert]
  cases axis.pending with
  | some event => rfl
  | none =>
    dsimp only
    split
    · exact latchHardwareFault_convert ..
    · unfold updateState
      rw [hstate]
      split
      · rfl
      · rfl
      · exact updateStarting_convert ..
      · exact updateMoving_convert ..
      · exact updateHoming_convert ..

/-! ### Calls -/

@[simp] theorem position_convert : (axis.convert f).position = axis.position := by
  unfold position
  rw [positionIncrements_convert]
  rfl

@[simp] theorem requestedPosition_convert (request : MoveRequest) :
    (axis.convert f).requestedPosition request = axis.requestedPosition request := by
  unfold requestedPosition
  rw [position_convert]

@[simp] theorem requestedIncrements_convert (request : MoveRequest) :
    (axis.convert f).requestedIncrements request = axis.requestedIncrements request := by
  unfold requestedIncrements
  rw [positionIncrements_convert]
  rfl

@[simp] theorem issue_convert (increments : Int) (velocity accel torque : Single) (now : Nat) :
    (axis.convert f).issue increments velocity accel torque now =
      (axis.issue increments velocity accel torque now).convert f := by
  unfold issue
  rw [applyTorqueLimit_convert, recordOrigins_convert]
  dsimp only
  split
  · rfl
  · let ready : Axis C :=
      { (axis.applyTorqueLimit torque).recordOrigins with stopRequested := false }
    show { (ready.convert f).mapChannels (MotorChannel.moveIncrements increments velocity accel)
      with state := .startingMove now } = _
    rw [mapChannels_convert (f.moveIncrements increments velocity accel)]
    rfl

@[simp] theorem abort_convert : (axis.convert f).abort = axis.abort.convert f := by
  let stopped : Axis C := { axis.stopAll with stopRequested := false }
  unfold abort
  rw [stopAll_convert]
  show (if _ then { (stopped.convert f).endDestress axis.state with
    state := .standby, pending := some .aborted } else _) = _
  rw [endDestress_convert, apply_ite (convert f)]
  rfl

/-- One axis is the other with channels of another make. -/
def Converts (f : ChannelMap C D) (axis : Axis C) (axis' : Axis D) : Prop :=
  axis' = axis.convert f

variable {f}

theorem Converts.modify {g : Axis C → Axis C} {g' : Axis D → Axis D}
    (h : ∀ axis, g' (axis.convert f) = (g axis).convert f) :
    Simulates (Converts f) Eq (modify g : Attempt (Axis C) PUnit) (modify g') :=
  .modify fun axis _ hconverts => hconverts ▸ h axis

theorem simulates_requireReady :
    Simulates (Converts f) Eq (requireReady : Attempt (Axis C) Unit) requireReady := by
  refine .bind .get fun axis axis' hconverts => ?_
  have hstate : axis'.state = axis.state := by rw [hconverts]; rfl
  rw [hstate]
  cases axis.state.refusal? with
  | none => exact .pure rfl
  | some refusal => exact .throw refusal

theorem simulates_requireEnabled :
    Simulates (Converts f) Eq (requireEnabled : Attempt (Axis C) Unit) requireEnabled := by
  refine .bind .get fun axis axis' hconverts => ?_
  rw [hconverts, allEnabled_convert]
  exact .require _ _

theorem simulates_requireHomed :
    Simulates (Converts f) Eq (requireHomed : Attempt (Axis C) Unit) requireHomed := by
  refine .bind .get fun axis axis' hconverts => ?_
  rw [hconverts]
  exact .require _ _

theorem simulates_tryMoveTo {request : MoveRequest} {now : Nat} :
    Simulates (Converts f) Eq (tryMoveTo request now : Attempt (Axis C) Unit)
      (tryMoveTo request now) := by
  refine .bind simulates_requireReady fun _ _ _ => .bind (.require _ _) fun _ _ _ => ?_
  refine .bind simulates_requireEnabled fun _ _ _ => .bind simulates_requireHomed fun _ _ _ => ?_
  refine .bind .get fun axis axis' hconverts => ?_
  rw [hconverts, requestedPosition_convert, requestedIncrements_convert]
  exact .bind (.require _ _) fun _ _ _ =>
    Converts.modify fun _ => issue_convert ..

theorem simulates_tryMoveIncrements {increments : Int} {velocity accel torque : Single}
    {now : Nat} :
    Simulates (Converts f) Eq
      (tryMoveIncrements increments velocity accel torque now : Attempt (Axis C) Unit)
      (tryMoveIncrements increments velocity accel torque now) := by
  refine .bind simulates_requireReady fun _ _ _ => .bind (.require _ _) fun _ _ _ => ?_
  refine .bind simulates_requireEnabled fun _ _ _ => .bind simulates_requireHomed fun _ _ _ => ?_
  refine .bind .get fun axis axis' hconverts => ?_
  rw [hconverts, positionIncrements_convert]
  exact .bind (.require _ _) fun _ _ _ =>
    Converts.modify fun _ => issue_convert ..

theorem simulates_tryHome {maxTravel torque : Single} {now : Nat} :
    Simulates (Converts f) Eq (tryHome maxTravel torque now : Attempt (Axis C) Unit)
      (tryHome maxTravel torque now) := by
  refine .bind simulates_requireReady fun _ _ _ => .bind (.require _ _) fun _ _ _ => ?_
  refine .bind simulates_requireEnabled fun _ _ _ => Converts.modify fun axis => ?_
  rw [applyTorqueLimit_convert]
  rfl

theorem simulates_tryStopDecelerated :
    Simulates (Converts f) Eq (tryStopDecelerated : Attempt (Axis C) Unit) tryStopDecelerated := by
  refine .bind .get fun axis axis' hconverts => ?_
  rw [hconverts]
  refine .bind (.require _ _) fun _ _ _ => Converts.modify fun axis => ?_
  rw [mapChannels_convert f.stopDecelerated]
  rfl

theorem simulates_tryClearFault :
    Simulates (Converts f) Eq (tryClearFault : Attempt (Axis C) Unit) tryClearFault := by
  refine .bind .get fun axis axis' hconverts => ?_
  rw [hconverts]
  refine .ite Iff.rfl (fun _ => ?_) fun _ => .pure rfl
  refine .bind .get fun axis axis' hconverts => ?_
  rw [hconverts, anyFault_convert]
  exact .bind (.require _ _) fun _ _ _ => Converts.modify fun _ => rfl

theorem simulates_abort :
    Simulates (Converts f) Eq (modify abort : Attempt (Axis C) PUnit) (modify abort) :=
  Converts.modify fun axis => abort_convert f axis

theorem simulates_enable :
    Simulates (Converts f) Eq (modify enable : Attempt (Axis C) PUnit) (modify enable) :=
  Converts.modify fun axis => setAllEnabled_convert f axis true

theorem simulates_disable :
    Simulates (Converts f) Eq (modify disable : Attempt (Axis C) PUnit) (modify disable) := by
  refine Converts.modify fun axis => ?_
  unfold disable
  rw [abort_convert, setAllEnabled_convert]

end Axis

/-! ## Dispenses -/

namespace Dispenser

variable {f : ChannelMap C D}

/-- The same dispense, on an axis with channels of another make. -/
def Converts (f : ChannelMap C D) (pair : Dispenser × Axis C) (pair' : Dispenser × Axis D) :
    Prop :=
  pair' = (pair.1, pair.2.convert f)

theorem simulates_onAxis {attempt : Attempt (Axis C) Unit} {attempt' : Attempt (Axis D) Unit}
    (h : Simulates (Axis.Converts f) Eq attempt attempt') :
    Simulates (Converts f) Eq (onAxis attempt) (onAxis attempt') := by
  refine .onPart h ?_ ?_
  · rintro pair _ rfl
    rfl
  · rintro axis _ pair _ rfl rfl
    rfl

theorem simulates_change (g : Dispenser → Dispenser) :
    Simulates (Converts f) Eq (change g : Attempt (Dispenser × Axis C) Unit) (change g) := by
  refine .modify ?_
  rintro pair _ rfl
  rfl

theorem simulates_tryStart {request : DispenseRequest} {now : Nat} :
    Simulates (Converts f) Eq (tryStart request now : Attempt (Dispenser × Axis C) Unit)
      (tryStart request now) := by
  refine .bind .get ?_
  rintro ⟨dispenser, axis⟩ _ rfl
  dsimp only
  rw [Axis.positionIncrements_convert]
  refine .bind (.require _ _) fun _ _ _ => .bind (.require _ _) fun _ _ _ => ?_
  refine .bind (.require _ _) fun _ _ _ => ?_
  exact .bind (simulates_onAxis Axis.simulates_tryMoveIncrements) fun _ _ _ => simulates_change _

theorem simulates_tryPause :
    Simulates (Converts f) Eq (tryPause : Attempt (Dispenser × Axis C) Unit) tryPause := by
  refine .bind .get ?_
  rintro ⟨dispenser, axis⟩ _ rfl
  refine .bind (.require _ _) fun _ _ _ => ?_
  exact .bind (simulates_onAxis Axis.simulates_tryStopDecelerated) fun _ _ _ => simulates_change _

theorem simulates_tryResume {now : Nat} :
    Simulates (Converts f) Eq (tryResume now : Attempt (Dispenser × Axis C) Unit)
      (tryResume now) := by
  refine .bind .get ?_
  rintro ⟨dispenser, axis⟩ _ rfl
  dsimp only
  refine .bind (.require _ _) fun _ _ _ => ?_
  cases dispenser.operation? with
  | none => exact .throw _
  | some operation =>
    refine .ite Iff.rfl (fun _ => simulates_change _) fun _ => ?_
    rw [Axis.positionIncrements_convert]
    exact .bind (simulates_onAxis Axis.simulates_tryMoveIncrements) fun _ _ _ =>
      simulates_change _

theorem simulates_tryCancel :
    Simulates (Converts f) Eq (tryCancel : Attempt (Dispenser × Axis C) Unit) tryCancel := by
  refine .bind .get ?_
  rintro ⟨dispenser, axis⟩ _ rfl
  refine .bind (.require _ _) fun _ _ _ => ?_
  refine .bind (simulates_onAxis (Axis.Converts.modify fun axis => ?_)) fun _ _ _ => ?_
  · rw [Axis.abort_convert]
    rfl
  · refine .bind .get ?_
    rintro ⟨dispenser, axis⟩ _ rfl
    dsimp only
    rw [Axis.positionIncrements_convert]
    exact simulates_change _

theorem update_convert (axis : Axis C) (event : Option AxisEvent) (dispenser : Dispenser) :
    dispenser.update (axis.convert f) event = dispenser.update axis event := by
  unfold update updateOperation
  rw [Axis.positionIncrements_convert]
  rfl

end Dispenser

/-! ## Machines -/

namespace Machine

/-- The machine with channels of another make. -/
def convert {C D : Type} (f : C → D) (machine : Machine C) : Machine D where
  axes := machine.axes.map (Axis.convert f)
  dispense := machine.dispense
  telemetryInterval := machine.telemetryInterval
  lastTelemetry := machine.lastTelemetry
  statusRequested := machine.statusRequested

theorem convert_convert {C D E : Type} (machine : Machine C) (f : C → D) (g : D → E) :
    (machine.convert f).convert g = machine.convert (g ∘ f) := by
  simp [convert, Axis.convert_convert]

theorem convert_id {C : Type} (machine : Machine C) : machine.convert id = machine := by
  have haxes : machine.axes.map (Axis.convert id) = machine.axes := List.map_id'' Axis.convert_id _
  rw [convert, haxes]

/-- One machine is the other with channels of another make. -/
def Converts (f : ChannelMap C D) (machine : Machine C) (machine' : Machine D) : Prop :=
  machine' = machine.convert f

variable {f : ChannelMap C D}

theorem getElem?_convert (machine : Machine C) (i : Nat) :
    (machine.convert f).axes[i]? = machine.axes[i]?.map (Axis.convert f) :=
  List.getElem?_map

theorem modifyAxis_convert (machine : Machine C) (index : Nat) (axis : Axis C) :
    (machine.convert f).modifyAxis index (fun _ => axis.convert f) =
      (machine.modifyAxis index fun _ => axis).convert f := by
  have haxes : (machine.axes.map (Axis.convert f)).modify index (fun _ => axis.convert f) =
      (machine.axes.modify index fun _ => axis).map (Axis.convert f) := by
    refine List.ext_getElem? fun i => ?_
    simp only [List.getElem?_modify, List.getElem?_map]
    split <;> cases machine.axes[i]? <;> rfl
  simp only [modifyAxis, convert, haxes]

theorem simulates_lookup (name : Label) :
    Simulates (Converts f) Eq (lookup name : Attempt (Machine C) Nat) (lookup name) := by
  refine .bind .get ?_
  rintro machine _ rfl
  have hfind : (machine.convert f).axes.findIdx? (·.settings.name.text == name.text) =
      machine.axes.findIdx? (·.settings.name.text == name.text) := List.findIdx?_map
  rw [hfind]
  cases machine.axes.findIdx? (·.settings.name.text == name.text) with
  | none => exact .throw _
  | some index => exact .pure rfl

theorem simulates_onAxis (index : Nat) {attempt : Attempt (Axis C) Unit}
    {attempt' : Attempt (Axis D) Unit} (h : Simulates (Axis.Converts f) Eq attempt attempt') :
    Simulates (Converts f) Eq (onAxis index attempt) (onAxis index attempt') := by
  refine .bind .get ?_
  rintro machine _ rfl
  rw [getElem?_convert]
  cases machine.axes[index]? with
  | none => exact .throw _
  | some axis =>
    refine .onPart h (fun _ _ _ => rfl) ?_
    rintro axis' _ machine' _ rfl rfl
    exact modifyAxis_convert machine' index axis'

theorem simulates_onDispense {attempt : Attempt (Dispenser × Axis C) Unit}
    {attempt' : Attempt (Dispenser × Axis D) Unit}
    (h : Simulates (Dispenser.Converts f) Eq attempt attempt') :
    Simulates (Converts f) Eq (onDispense attempt) (onDispense attempt') := by
  refine .bind .get ?_
  rintro machine _ rfl
  rw [show (machine.convert f).dispense = machine.dispense from rfl]
  cases machine.dispense with
  | none => exact .throw _
  | some station =>
    refine .bind .get ?_
    rintro machine₁ _ rfl
    rw [getElem?_convert]
    cases machine₁.axes[station.axisIndex]? with
    | none => exact .throw _
    | some axis =>
      refine .onPart h (fun _ _ _ => rfl) ?_
      rintro ⟨dispenser, axis'⟩ _ machine' _ rfl rfl
      show { (machine'.convert f).modifyAxis station.axisIndex (fun _ => axis'.convert f) with
        dispense := some { station with dispenser } } = _
      rw [modifyAxis_convert]
      rfl

theorem simulates_startOnAxis (name : Label) {attempt : Attempt (Axis C) Unit}
    {attempt' : Attempt (Axis D) Unit} (h : Simulates (Axis.Converts f) Eq attempt attempt') :
    Simulates (Converts f) Eq (startOnAxis name attempt) (startOnAxis name attempt') := by
  refine .bind (simulates_lookup name) ?_
  rintro index _ rfl
  refine .bind .get ?_
  rintro machine _ rfl
  exact .bind (.require _ _) fun _ _ _ => simulates_onAxis index h

/-- **A command takes no notice of the make of the channels.** -/
theorem simulates_handle (command : Command) (now : Nat) :
    Simulates (Converts f) Eq (handle command now : Attempt (Machine C) Unit)
      (handle command now) := by
  cases command with
  | move name request => exact simulates_startOnAxis name Axis.simulates_tryMoveTo
  | home name maxTravel torque => exact simulates_startOnAxis name Axis.simulates_tryHome
  | abort name =>
    refine .bind (simulates_lookup name) ?_
    rintro index _ rfl
    refine .bind .get ?_
    rintro machine _ rfl
    refine .ite Iff.rfl (fun _ => ?_) fun _ => ?_
    · exact simulates_onDispense Dispenser.simulates_tryCancel
    · exact simulates_onAxis index Axis.simulates_abort
  | enable name =>
    refine .bind (simulates_lookup name) ?_
    rintro index _ rfl
    exact simulates_onAxis index Axis.simulates_enable
  | disable name =>
    refine .bind (simulates_lookup name) ?_
    rintro index _ rfl
    refine .bind .get ?_
    rintro machine _ rfl
    have hdisable := simulates_onAxis index (Axis.simulates_disable (f := f))
    refine .ite Iff.rfl (fun _ => ?_) fun _ => hdisable
    exact .bind (simulates_onDispense Dispenser.simulates_tryCancel) fun _ _ _ => hdisable
  | clearFault name =>
    refine .bind (simulates_lookup name) ?_
    rintro index _ rfl
    exact simulates_onAxis index Axis.simulates_tryClearFault
  | dispense request => exact simulates_onDispense Dispenser.simulates_tryStart
  | pause => exact simulates_onDispense Dispenser.simulates_tryPause
  | resume => exact simulates_onDispense Dispenser.simulates_tryResume
  | cancel => exact simulates_onDispense Dispenser.simulates_tryCancel
  | status =>
    refine .modify ?_
    rintro machine _ rfl
    rfl

theorem accept_convert (machine : Machine C) (command : Option Command) (now : Nat) :
    (machine.convert f).accept command now =
      ((machine.accept command now).1.convert f, (machine.accept command now).2) := by
  cases command with
  | none => rfl
  | some command =>
    have hagree := simulates_handle command now machine (machine.convert f) rfl
    unfold accept
    dsimp only
    generalize (handle command now).run machine = result at hagree ⊢
    generalize (handle command now).run (machine.convert f) = result' at hagree ⊢
    cases hagree with
    | ok hvalue hstate => cases hstate; rfl
    | error hstate => cases hstate; rfl

theorem updateAxes_convert (now index : Nat) (axes : List (Axis C))
    (dispense : Option DispenseStation) :
    updateAxes now index (axes.map (Axis.convert f)) dispense =
      ((updateAxes now index axes dispense).1.map (Axis.convert f),
        (updateAxes now index axes dispense).2) := by
  induction axes generalizing index dispense with
  | nil => rfl
  | cons axis rest ih =>
    have hstation :
        updateStation index ((axis.update now).1.convert f) (axis.update now).2 dispense =
          updateStation index (axis.update now).1 (axis.update now).2 dispense := by
      unfold updateStation
      simp only [Dispenser.update_convert]
    simp only [List.map_cons, updateAxes, Axis.update_convert, Axis.convertResult, hstation, ih]

/-- **A tick takes no notice of the make of the channels.** -/
theorem tick_convert (machine : Machine C) (now : Nat) (command : Option Command) :
    (machine.convert f).tick now command =
      ((machine.tick now command).1.convert f, (machine.tick now command).2) := by
  have hupdate (machine : Machine C) : (machine.convert f).update now =
      ((machine.update now).1.convert f, (machine.update now).2) := by
    unfold update
    rw [show (machine.convert f).axes = machine.axes.map (Axis.convert f) from rfl,
      show (machine.convert f).dispense = machine.dispense from rfl, updateAxes_convert]
    rfl
  unfold tick
  rw [accept_convert]
  dsimp only
  rw [hupdate]
  dsimp only
  refine Prod.ext ?_ rfl
  rw [apply_ite (convert f)]
  rfl

end Machine

end MotionControl
