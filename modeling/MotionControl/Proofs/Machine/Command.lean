import MotionControl.Machine.Tick
import MotionControl.Proofs.Attempt

/-!
# How a machine hands a command on

* `lookup_ok`, `run_onAxis_ok`, `run_onDispense_ok`: what the three ways of handing a command on
  do when it is accepted.
* `Axis.Obeys`, `Dispenser.Obeys`: what an accepted command makes of the axis that it names, or of
  the dispense with its axis.
* `Carries`, `handle_ok`: an accepted command does one of the two, or asks for status.
-/

namespace MotionControl

open Attempt

variable {C : Type}

namespace Machine

theorem getElem?_modifyAxis (machine : Machine C) (index : Nat) (f : Axis C → Axis C) (i : Nat) :
    (machine.modifyAxis index f).axes[i]? =
      if index = i then machine.axes[i]?.map f else machine.axes[i]? := by
  simp only [modifyAxis, List.getElem?_modify]
  split <;> simp_all

theorem getElem?_modifyAxis_self {machine : Machine C} {index : Nat} {axis : Axis C}
    (axis' : Axis C) (h : machine.axes[index]? = some axis) :
    (machine.modifyAxis index fun _ => axis').axes[index]? = some axis' := by
  rw [getElem?_modifyAxis, if_pos rfl, h]
  rfl

@[simp] theorem length_modifyAxis (machine : Machine C) (index : Nat) (f : Axis C → Axis C) :
    (machine.modifyAxis index f).axes.length = machine.axes.length := by
  simp [modifyAxis]

@[simp] theorem dispense_modifyAxis (machine : Machine C) (index : Nat) (f : Axis C → Axis C) :
    (machine.modifyAxis index f).dispense = machine.dispense := rfl

/-- Storing an axis back as it was changes nothing. -/
theorem modifyAxis_self {machine : Machine C} {index : Nat} {axis : Axis C}
    (h : machine.axes[index]? = some axis) :
    machine.modifyAxis index (fun _ => axis) = machine := by
  have : machine.axes.modify index (fun _ => axis) = machine.axes := by
    refine List.ext_getElem? fun i => ?_
    rw [List.getElem?_modify]
    by_cases hi : index = i
    · subst hi; simp [h]
    · simp [hi]
  unfold modifyAxis
  rw [this]

/-- The machine with another dispenser and another axis below it. -/
def store (station : DispenseStation) (dispenser : Dispenser) (axis : Axis C)
    (machine : Machine C) : Machine C :=
  { machine.modifyAxis station.axisIndex (fun _ => axis) with
    dispense := some { station with dispenser } }

theorem getElem?_store (machine : Machine C) (station : DispenseStation) (dispenser : Dispenser)
    (axis : Axis C) (i : Nat) :
    (machine.store station dispenser axis).axes[i]? =
      if station.axisIndex = i then machine.axes[i]?.map fun _ => axis else machine.axes[i]? :=
  getElem?_modifyAxis ..

theorem getElem?_store_self {machine : Machine C} {station : DispenseStation} {axis : Axis C}
    (dispenser : Dispenser) (axis' : Axis C) (h : machine.axes[station.axisIndex]? = some axis) :
    (machine.store station dispenser axis').axes[station.axisIndex]? = some axis' :=
  getElem?_modifyAxis_self axis' h

@[simp] theorem length_store (machine : Machine C) (station : DispenseStation)
    (dispenser : Dispenser) (axis : Axis C) :
    (machine.store station dispenser axis).axes.length = machine.axes.length :=
  length_modifyAxis ..

/-- The axis stored last is the one that counts. -/
theorem modifyAxis_store (machine : Machine C) (station : DispenseStation) (dispenser : Dispenser)
    (axis axis' : Axis C) :
    (machine.store station dispenser axis).modifyAxis station.axisIndex (fun _ => axis') =
      machine.store station dispenser axis' := by
  simp [store, modifyAxis, List.modify_modify_eq, Function.comp_def]

theorem lookup_ok {name : Label} {machine machine' : Machine C} {index : Nat} :
    (lookup name).run machine = .ok index machine' ↔
      machine.axes.findIdx? (·.settings.name.text == name.text) = some index ∧
        machine = machine' := by
  unfold lookup
  rw [EStateM.run_bind, EStateM.run_get]
  cases h : machine.axes.findIdx? (·.settings.name.text == name.text) with
  | none =>
    simp only [h, reduceCtorEq, false_and, iff_false]
    intro hr; cases hr
  | some i => simp [h]

theorem run_onAxis_ok {index : Nat} {attempt : Attempt (Axis C) Unit} {machine machine' : Machine C}
    {u : Unit} :
    (onAxis index attempt).run machine = .ok u machine' ↔
      ∃ axis axis', machine.axes[index]? = some axis ∧ attempt.run axis = .ok () axis' ∧
        machine.modifyAxis index (fun _ => axis') = machine' := by
  unfold onAxis
  rw [EStateM.run_bind, EStateM.run_get]
  cases h : machine.axes[index]? with
  | none =>
    simp only [h, reduceCtorEq, false_and, exists_false, iff_false]
    intro hr; cases hr
  | some axis => simp [h]

theorem run_onDispense_ok {attempt : Attempt (Dispenser × Axis C) Unit}
    {machine machine' : Machine C} {u : Unit} :
    (onDispense attempt).run machine = .ok u machine' ↔
      ∃ station axis dispenser axis', machine.dispense = some station ∧
        machine.axes[station.axisIndex]? = some axis ∧
        attempt.run (station.dispenser, axis) = .ok () (dispenser, axis') ∧
        machine.store station dispenser axis' = machine' := by
  unfold onDispense
  rw [EStateM.run_bind, EStateM.run_get]
  cases hs : machine.dispense with
  | none =>
    simp only [hs, reduceCtorEq, false_and, exists_false, iff_false]
    intro hr; cases hr
  | some station =>
    simp only [hs]
    rw [EStateM.run_bind, EStateM.run_get]
    cases ha : machine.axes[station.axisIndex]? with
    | none =>
      simp only [ha, Option.some.injEq]
      constructor
      · intro hr; cases hr
      · rintro ⟨_, _, _, _, rfl, h, -⟩; simp [ha] at h
    | some axis => simp [ha, store]

theorem isDispensingOn_eq_true {machine : Machine C} {index : Nat} :
    machine.isDispensingOn index = true ↔
      ∃ station, machine.dispense = some station ∧ station.axisIndex = index ∧
        station.dispenser.isOngoing = true := by
  cases h : machine.dispense <;> simp [isDispensingOn, h]

end Machine

variable [MotorChannel C]

/-- What an accepted command makes of the axis that it names, which has an ongoing dispense or
none. -/
inductive Axis.Obeys (now : Nat) : (isDispensing : Bool) → Command → Axis C → Axis C → Prop where
  | move {name : Label} {request : MoveRequest} {axis axis' : Axis C}
      (h : (Axis.tryMoveTo request now).run axis = .ok () axis') :
      Obeys now false (.move name request) axis axis'
  | home {name : Label} {maxTravel torque : Single} {axis axis' : Axis C}
      (h : (Axis.tryHome maxTravel torque now).run axis = .ok () axis') :
      Obeys now false (.home name maxTravel torque) axis axis'
  | abort {name : Label} {axis : Axis C} : Obeys now false (.abort name) axis axis.abort
  | enable {isDispensing : Bool} {name : Label} {axis : Axis C} :
      Obeys now isDispensing (.enable name) axis axis.enable
  | disable {name : Label} {axis : Axis C} : Obeys now false (.disable name) axis axis.disable
  | clearFault {isDispensing : Bool} {name : Label} {axis axis' : Axis C}
      (h : Axis.tryClearFault.run axis = .ok () axis') :
      Obeys now isDispensing (.clearFault name) axis axis'

/-- What an accepted command makes of the dispense together with its axis. A dispense that is
going on is cancelled by an abort of its axis, and before the axis is disabled. -/
inductive Dispenser.Obeys (now : Nat) :
    Command → Dispenser × Axis C → Dispenser × Axis C → Prop where
  | start {request : DispenseRequest} {pair pair' : Dispenser × Axis C}
      (h : (Dispenser.tryStart request now).run pair = .ok () pair') :
      Obeys now (.dispense request) pair pair'
  | pause {pair pair' : Dispenser × Axis C} (h : Dispenser.tryPause.run pair = .ok () pair') :
      Obeys now .pause pair pair'
  | resume {pair pair' : Dispenser × Axis C}
      (h : (Dispenser.tryResume now).run pair = .ok () pair') : Obeys now .resume pair pair'
  | cancel {pair pair' : Dispenser × Axis C} (h : Dispenser.tryCancel.run pair = .ok () pair') :
      Obeys now .cancel pair pair'
  | abort {name : Label} {pair pair' : Dispenser × Axis C}
      (h : Dispenser.tryCancel.run pair = .ok () pair') : Obeys now (.abort name) pair pair'
  | disable {name : Label} {pair : Dispenser × Axis C} {dispenser : Dispenser} {axis : Axis C}
      (h : Dispenser.tryCancel.run pair = .ok () (dispenser, axis)) :
      Obeys now (.disable name) pair (dispenser, axis.disable)

namespace Machine

/-- What an accepted command makes of a machine. -/
inductive Carries (now : Nat) (machine : Machine C) : Command → Machine C → Prop where
  | axis {command : Command} {name : Label} {index : Nat} {axis axis' : Axis C}
      (hname : command.axis? = some name)
      (hfind : machine.axes.findIdx? (·.settings.name.text == name.text) = some index)
      (haxis : machine.axes[index]? = some axis)
      (hobeys : Axis.Obeys now (machine.isDispensingOn index) command axis axis') :
      Carries now machine command (machine.modifyAxis index fun _ => axis')
  | dispense {command : Command} {station : DispenseStation} {axis axis' : Axis C}
      {dispenser : Dispenser} (hstation : machine.dispense = some station)
      (haxis : machine.axes[station.axisIndex]? = some axis)
      (hobeys : Dispenser.Obeys now command (station.dispenser, axis) (dispenser, axis'))
      (hplace : ∀ name, command.axis? = some name →
        machine.axes.findIdx? (·.settings.name.text == name.text) = some station.axisIndex) :
      Carries now machine command (machine.store station dispenser axis')
  | status : Carries now machine .status { machine with statusRequested := true }

variable {now : Nat} {machine machine' : Machine C} {u : Unit}

theorem Carries.of_onDispense {command : Command} {attempt : Attempt (Dispenser × Axis C) Unit}
    (hrun : (onDispense attempt).run machine = .ok u machine')
    (hobeys : ∀ pair pair', attempt.run pair = .ok () pair' →
      Dispenser.Obeys now command pair pair')
    (hplace : ∀ name, command.axis? = some name → ∀ station, machine.dispense = some station →
      machine.axes.findIdx? (·.settings.name.text == name.text) = some station.axisIndex) :
    Carries now machine command machine' := by
  obtain ⟨station, axis, dispenser, axis', hstation, haxis, hpair, rfl⟩ := run_onDispense_ok.1 hrun
  exact .dispense hstation haxis (hobeys _ _ hpair) fun name hname => hplace name hname _ hstation

theorem Carries.of_startOnAxis {command : Command} {name : Label} {attempt : Attempt (Axis C) Unit}
    (hname : command.axis? = some name)
    (hrun : (startOnAxis name attempt).run machine = .ok u machine')
    (hobeys : ∀ axis axis', attempt.run axis = .ok () axis' →
      Axis.Obeys now false command axis axis') :
    Carries now machine command machine' := by
  simp only [startOnAxis, run_bind_ok, lookup_ok, EStateM.run_get, EStateM.Result.ok.injEq,
    run_require_ok, Bool.not_eq_true'] at hrun
  obtain ⟨index, _, ⟨hfind, rfl⟩, _, _, ⟨rfl, rfl⟩, _, _, ⟨hfree, rfl⟩, hon⟩ := hrun
  obtain ⟨axis, axis', haxis, hax, rfl⟩ := run_onAxis_ok.1 hon
  refine .axis hname hfind haxis ?_
  rw [hfree]
  exact hobeys _ _ hax

/-- **An accepted command** is carried out on the axis that it names or on the dispense. -/
theorem handle_ok {command : Command} (h : (handle command now).run machine = .ok u machine') :
    Carries now machine command machine' := by
  cases command with
  | move name request => exact .of_startOnAxis rfl h fun _ _ => .move
  | home name maxTravel torque => exact .of_startOnAxis rfl h fun _ _ => .home
  | abort name =>
    simp only [handle, abortAxis, run_bind_ok, lookup_ok, EStateM.run_get,
      EStateM.Result.ok.injEq] at h
    obtain ⟨index, _, ⟨hfind, rfl⟩, _, _, ⟨rfl, rfl⟩, h⟩ := h
    split at h
    · rename_i hbusy
      obtain ⟨station, hstation, rfl, -⟩ := isDispensingOn_eq_true.1 hbusy
      refine .of_onDispense h (fun _ _ => .abort) fun name' hname station' hstation' => ?_
      cases hname
      cases hstation.symm.trans hstation'
      exact hfind
    · rename_i hfree
      obtain ⟨axis, axis', haxis, hax, rfl⟩ := run_onAxis_ok.1 h
      cases hax
      refine .axis rfl hfind haxis ?_
      rw [Bool.not_eq_true] at hfree
      rw [hfree]
      exact .abort
  | enable name =>
    simp only [handle, run_bind_ok, lookup_ok] at h
    obtain ⟨index, _, ⟨hfind, rfl⟩, h⟩ := h
    obtain ⟨axis, axis', haxis, hax, rfl⟩ := run_onAxis_ok.1 h
    cases hax
    exact .axis rfl hfind haxis .enable
  | disable name =>
    simp only [handle, disableAxis, run_bind_ok, lookup_ok, EStateM.run_get,
      EStateM.Result.ok.injEq] at h
    obtain ⟨index, _, ⟨hfind, rfl⟩, _, _, ⟨rfl, rfl⟩, h⟩ := h
    split at h
    · rename_i hbusy
      obtain ⟨_, _, hcancel, h⟩ := run_bind_ok.1 h
      obtain ⟨station, hstation, rfl, -⟩ := isDispensingOn_eq_true.1 hbusy
      obtain ⟨station', axis, dispenser, axis', hstation', haxis, hpair, rfl⟩ :=
        run_onDispense_ok.1 hcancel
      cases hstation.symm.trans hstation'
      obtain ⟨axis₁, axis₂, haxis₁, hax, rfl⟩ := run_onAxis_ok.1 h
      cases hax
      -- the axis that is disabled is the one that the cancel has left
      cases (getElem?_store_self dispenser axis' haxis).symm.trans haxis₁
      rw [modifyAxis_store]
      refine .dispense hstation haxis (.disable hpair) fun name' hname => ?_
      cases hname
      exact hfind
    · rename_i hfree
      obtain ⟨axis, axis', haxis, hax, rfl⟩ := run_onAxis_ok.1 h
      cases hax
      refine .axis rfl hfind haxis ?_
      rw [Bool.not_eq_true] at hfree
      rw [hfree]
      exact .disable
  | clearFault name =>
    simp only [handle, run_bind_ok, lookup_ok] at h
    obtain ⟨index, _, ⟨hfind, rfl⟩, h⟩ := h
    obtain ⟨axis, axis', haxis, hax, rfl⟩ := run_onAxis_ok.1 h
    exact .axis rfl hfind haxis (.clearFault hax)
  | dispense request => exact .of_onDispense h (fun _ _ => .start) nofun
  | pause => exact .of_onDispense h (fun _ _ => .pause) nofun
  | resume => exact .of_onDispense h (fun _ _ => .resume) nofun
  | cancel => exact .of_onDispense h (fun _ _ => .cancel) nofun
  | status => cases h; exact .status

/-- **What an accepted command makes of the dispense and its axis**: it is carried out on the two,
or it is one for axes or for status, and carried out on this axis at most. -/
theorem Carries.station {command : Command} (hcarries : Carries now machine command machine')
    {station : DispenseStation} {axis : Axis C} (hstation : machine.dispense = some station)
    (haxis : machine.axes[station.axisIndex]? = some axis) :
    ∃ dispenser axis', machine'.dispense = some { station with dispenser } ∧
      machine'.axes[station.axisIndex]? = some axis' ∧
      (Dispenser.Obeys now command (station.dispenser, axis) (dispenser, axis') ∨
        dispenser = station.dispenser ∧ (command.axis? = none → command = .status) ∧
          (axis' = axis ∨ Axis.Obeys now station.dispenser.isOngoing command axis axis')) := by
  cases hcarries with
  | @axis _ name index axis₁ axis' hname hfind haxis₁ hobeys =>
    have hnone (h : command.axis? = none) : command = .status := by
      rw [hname] at h
      cases h
    by_cases hindex : index = station.axisIndex
    · subst hindex
      cases haxis.symm.trans haxis₁
      have hdispensing :
          machine.isDispensingOn station.axisIndex = station.dispenser.isOngoing := by
        simp [isDispensingOn, hstation]
      rw [hdispensing] at hobeys
      exact ⟨station.dispenser, axis', hstation, getElem?_modifyAxis_self axis' haxis,
        .inr ⟨rfl, hnone, .inr hobeys⟩⟩
    · refine ⟨station.dispenser, axis, hstation, ?_, .inr ⟨rfl, hnone, .inl rfl⟩⟩
      rw [getElem?_modifyAxis, if_neg hindex, haxis]
  | @dispense _ station₁ axis₁ axis' dispenser hstation₁ haxis₁ hobeys =>
    cases hstation.symm.trans hstation₁
    cases haxis.symm.trans haxis₁
    exact ⟨dispenser, axis', rfl, getElem?_store_self dispenser axis' haxis, .inl hobeys⟩
  | status =>
    exact ⟨station.dispenser, axis, hstation, haxis, .inr ⟨rfl, fun _ => rfl, .inl rfl⟩⟩

end Machine

end MotionControl
