import MotionControl.Machine.Tick

/-!
# What the updates of one tick do

* `axes_update`, `dispense_update`: every axis is updated by itself, and the dispense right after
  its axis.
* `axisEvents_updateAxes`, `dispenseEvents_updateAxes`: which events are reported; those of an axis
  with an ongoing dispense are not.
* `length_updateAxes_le`: there are at most as many events as axes, and one more.
-/

namespace MotionControl

namespace MachineEvent

/-- The event, if it is one of the axis at a place. -/
def ofAxis? (place : Nat) : MachineEvent → Option AxisEvent
  | axis index event => if index = place then some event else none
  | dispense _ => none

/-- The event, if it is one of the dispense. -/
def ofDispense? : MachineEvent → Option DispenseEvent
  | axis .. => none
  | dispense event => some event

theorem filterMap_ofAxis?_axis (place index : Nat) (events : List AxisEvent) :
    (events.map (axis index)).filterMap (ofAxis? place) = if index = place then events else [] := by
  rw [List.filterMap_map]
  by_cases h : index = place
  · rw [if_pos h]
    have hsome : ofAxis? place ∘ axis index = some := funext fun event => if_pos h
    rw [hsome, List.filterMap_some]
  · rw [if_neg h]
    exact List.filterMap_eq_nil_iff.2 fun event _ => if_neg h

theorem filterMap_ofAxis?_dispense (place : Nat) (events : List DispenseEvent) :
    (events.map dispense).filterMap (ofAxis? place) = [] := by
  simp [List.filterMap_map, Function.comp_def, ofAxis?]

theorem filterMap_ofDispense?_axis (index : Nat) (events : List AxisEvent) :
    (events.map (axis index)).filterMap ofDispense? = [] := by
  simp [List.filterMap_map, Function.comp_def, ofDispense?]

theorem filterMap_ofDispense?_dispense (events : List DispenseEvent) :
    (events.map dispense).filterMap ofDispense? = events := by
  simp [List.filterMap_map, Function.comp_def, ofDispense?]

end MachineEvent

namespace Machine

open MachineEvent

variable {C : Type}

/-- Whether the events of the axis at a place belong to a dispense. -/
def claims (place : Nat) (dispense : Option DispenseStation) : Bool :=
  dispense.any fun station => station.axisIndex == place && station.dispenser.isOngoing

theorem isDispensingOn_eq_claims (machine : Machine C) (place : Nat) :
    machine.isDispensingOn place = claims place machine.dispense := rfl

/-- The places from which on a dispense may still have its axis. -/
def isAhead (index : Nat) (dispense : Option DispenseStation) : Bool :=
  dispense.any fun station => index ≤ station.axisIndex

variable [MotorChannel C] {now : Nat}

/-! ## One axis -/

section Station

variable {index : Nat} {axis : Axis C} {event : Option AxisEvent} {station : DispenseStation}

theorem updateStation_none :
    updateStation index axis event none = (none, event.toList.map (.axis index)) := rfl

/-- A dispense of another axis is left alone. -/
theorem updateStation_of_ne (h : station.axisIndex ≠ index) :
    updateStation index axis event (some station) =
      (some station, event.toList.map (.axis index)) := by
  simp [updateStation, h]

theorem updateStation_self (h : station.axisIndex = index) :
    updateStation index axis event (some station) =
      (some { station with dispenser := (station.dispenser.update axis event).1 },
        (station.dispenser.update axis event).2.toList.map .dispense ++
          if station.dispenser.isOngoing then [] else event.toList.map (.axis index)) := by
  simp [updateStation, h]

theorem claims_updateStation {place : Nat} (h : index ≠ place) (dispense : Option DispenseStation) :
    claims place (updateStation index axis event dispense).1 = claims place dispense := by
  cases dispense with
  | none => rfl
  | some station =>
    by_cases hs : station.axisIndex = index
    · have hne : (index == place) = false := by simpa using h
      simp [updateStation_self hs, claims, hs, hne]
    · rw [updateStation_of_ne hs]

theorem axisEvents_updateStation (place : Nat) (dispense : Option DispenseStation) :
    (updateStation index axis event dispense).2.filterMap (ofAxis? place) =
      if index = place ∧ claims place dispense = false then event.toList else [] := by
  cases dispense with
  | none => rw [updateStation_none, filterMap_ofAxis?_axis]; simp [claims]
  | some station =>
    by_cases hs : station.axisIndex = index
    · rw [updateStation_self hs, List.filterMap_append, filterMap_ofAxis?_dispense]
      cases ho : station.dispenser.isOngoing with
      | true => simp [claims, hs, ho]
      | false =>
        rw [if_neg Bool.false_ne_true, filterMap_ofAxis?_axis]
        simp [claims, ho]
    · rw [updateStation_of_ne hs, filterMap_ofAxis?_axis]
      by_cases hp : index = place
      · simp [claims, hp, show station.axisIndex ≠ place from hp ▸ hs]
      · simp [hp]

theorem dispenseEvents_updateStation_self (h : station.axisIndex = index) :
    (updateStation index axis event (some station)).2.filterMap ofDispense? =
      (station.dispenser.update axis event).2.toList := by
  rw [updateStation_self h, List.filterMap_append, filterMap_ofDispense?_dispense]
  split
  · exact List.append_nil _
  · rw [filterMap_ofDispense?_axis, List.append_nil]

/-- An axis has one event at most, and the dispense one more right after its axis. -/
theorem length_updateStation_le (index : Nat) (axis : Axis C) (event : Option AxisEvent)
    (dispense : Option DispenseStation) :
    (updateStation index axis event dispense).2.length +
        (isAhead (index + 1) (updateStation index axis event dispense).1).toNat ≤
      1 + (isAhead index dispense).toNat := by
  have hlen : ∀ {α : Type} (o : Option α), o.toList.length ≤ 1 := fun o => by cases o <;> simp
  have hevent := hlen event
  cases dispense with
  | none => simp [updateStation_none, isAhead]
  | some station =>
    by_cases hs : station.axisIndex = index
    · have hended := hlen (station.dispenser.update axis event).2
      rw [updateStation_self hs]
      have hnot : ¬ index + 1 ≤ station.axisIndex := by omega
      have hle : index ≤ station.axisIndex := by omega
      simp only [isAhead, Option.any_some, hnot, hle, decide_false, decide_true, List.length_append,
        List.length_map, Bool.toNat_false, Bool.toNat_true]
      split
      · simp only [List.length_nil]; omega
      · simp only [List.length_map]; omega
    · rw [updateStation_of_ne hs]
      have hiff : index + 1 ≤ station.axisIndex ↔ index ≤ station.axisIndex := by omega
      simp only [isAhead, Option.any_some, hiff, List.length_map]
      omega

end Station

/-! ## All axes -/

theorem axes_updateAxes (index : Nat) (axes : List (Axis C)) (dispense : Option DispenseStation) :
    (updateAxes now index axes dispense).1 = axes.map fun axis => (axis.update now).1 := by
  induction axes generalizing index dispense with
  | nil => rfl
  | cons axis rest ih => simp [updateAxes, ih]

theorem dispense_updateAxes_none (index : Nat) (axes : List (Axis C)) :
    (updateAxes now index axes none).2.1 = none ∧
      (updateAxes now index axes none).2.2.filterMap ofDispense? = [] := by
  induction axes generalizing index with
  | nil => exact ⟨rfl, rfl⟩
  | cons axis rest ih =>
    simp only [updateAxes, updateStation_none]
    rw [List.filterMap_append, filterMap_ofDispense?_axis, List.nil_append]
    exact ih (index + 1)

/-- A dispense of an axis that comes before is left alone. -/
theorem dispense_updateAxes_of_lt (now : Nat) (axes : List (Axis C)) {index : Nat}
    {station : DispenseStation} (h : station.axisIndex < index) :
    (updateAxes now index axes (some station)).2.1 = some station ∧
      (updateAxes now index axes (some station)).2.2.filterMap ofDispense? = [] := by
  induction axes generalizing index with
  | nil => exact ⟨rfl, rfl⟩
  | cons axis rest ih =>
    have hne : station.axisIndex ≠ index := by omega
    simp only [updateAxes, updateStation_of_ne hne]
    rw [List.filterMap_append, filterMap_ofDispense?_axis, List.nil_append]
    exact ih (by omega)

/-- The dispense is updated with the event of its axis. -/
theorem dispense_updateAxes (now : Nat) {index : Nat} {axes : List (Axis C)}
    {station : DispenseStation} {axis : Axis C} (hle : index ≤ station.axisIndex)
    (haxis : axes[station.axisIndex - index]? = some axis) :
    (updateAxes now index axes (some station)).2.1 =
        some
          { station with
            dispenser :=
              (station.dispenser.update (axis.update now).1 (axis.update now).2).1 } ∧
      (updateAxes now index axes (some station)).2.2.filterMap ofDispense? =
        (station.dispenser.update (axis.update now).1 (axis.update now).2).2.toList := by
  induction axes generalizing index with
  | nil => simp at haxis
  | cons first rest ih =>
    by_cases h : station.axisIndex = index
    · -- this is the axis of the dispense, and the rest come after it
      subst h
      simp only [Nat.sub_self, List.getElem?_cons_zero, Option.some.injEq] at haxis
      subst haxis
      let updated : DispenseStation :=
        { station with
          dispenser := (station.dispenser.update (first.update now).1 (first.update now).2).1 }
      obtain ⟨hdispense, hevents⟩ :
          (updateAxes now (updated.axisIndex + 1) rest (some updated)).2.1 = some updated ∧
            (updateAxes now (updated.axisIndex + 1) rest (some updated)).2.2.filterMap
              ofDispense? = [] :=
        dispense_updateAxes_of_lt now rest (Nat.lt_succ_self _)
      have hfirst : (updateStation station.axisIndex (first.update now).1 (first.update now).2
          (some station)).2.filterMap ofDispense? = _ :=
        dispenseEvents_updateStation_self rfl
      simp only [updateStation_self rfl] at hfirst
      simp only [updateAxes, updateStation_self rfl, List.filterMap_append, hfirst]
      exact ⟨hdispense, (congrArg (_ ++ ·) hevents).trans (List.append_nil _)⟩
    · rw [show station.axisIndex - index = station.axisIndex - (index + 1) + 1 by omega,
        List.getElem?_cons_succ] at haxis
      simp only [updateAxes, updateStation_of_ne h]
      rw [List.filterMap_append, filterMap_ofDispense?_axis, List.nil_append]
      exact ih (by omega) haxis

/-- The events of an axis are reported unless they belong to the dispense. -/
theorem axisEvents_updateAxes (place : Nat) {index : Nat} {axes : List (Axis C)}
    {dispense : Option DispenseStation} :
    (updateAxes now index axes dispense).2.2.filterMap (ofAxis? place) =
      if index ≤ place ∧ claims place dispense = false then
        (axes[place - index]?.bind fun axis => (axis.update now).2).toList
      else [] := by
  induction axes generalizing index dispense with
  | nil => simp [updateAxes]
  | cons axis rest ih =>
    simp only [updateAxes, List.filterMap_append, axisEvents_updateStation, ih]
    -- the axis at the place is still to come, it is this one, or it has been before
    rcases Nat.lt_trichotomy index place with h | rfl | h
    · rw [claims_updateStation (Nat.ne_of_lt h)]
      simp [Nat.ne_of_lt h, Nat.le_of_lt h, show index + 1 ≤ place from h,
        show place - index = place - (index + 1) + 1 by omega]
    · simp [show ¬ index + 1 ≤ index by omega]
    · simp [show index ≠ place by omega, show ¬ index ≤ place by omega,
        show ¬ index + 1 ≤ place by omega]

theorem length_updateAxes_le (now index : Nat) (axes : List (Axis C))
    (dispense : Option DispenseStation) :
    (updateAxes now index axes dispense).2.2.length ≤
      axes.length + (isAhead index dispense).toNat := by
  induction axes generalizing index dispense with
  | nil => simp [updateAxes]
  | cons axis rest ih =>
    have hfirst := length_updateStation_le index (axis.update now).1 (axis.update now).2 dispense
    have hrest := ih (index + 1)
      (updateStation index (axis.update now).1 (axis.update now).2 dispense).1
    have hsplit : (updateAxes now index (axis :: rest) dispense).2.2 =
        (updateStation index (axis.update now).1 (axis.update now).2 dispense).2 ++
          (updateAxes now (index + 1) rest
            (updateStation index (axis.update now).1 (axis.update now).2 dispense).1).2.2 := rfl
    rw [hsplit, List.length_append, List.length_cons]
    omega

/-! ## The machine -/

variable {machine : Machine C}

theorem axes_update (machine : Machine C) (now : Nat) :
    (machine.update now).1.axes = machine.axes.map fun axis => (axis.update now).1 :=
  axes_updateAxes ..

theorem dispense_update_none (h : machine.dispense = none) :
    (machine.update now).1.dispense = none := by
  simp only [update, h]
  exact (dispense_updateAxes_none 0 machine.axes).1

theorem dispense_update {station : DispenseStation} {axis : Axis C}
    (hstation : machine.dispense = some station)
    (haxis : machine.axes[station.axisIndex]? = some axis) :
    (machine.update now).1.dispense =
      some
        { station with
          dispenser :=
            (station.dispenser.update (axis.update now).1 (axis.update now).2).1 } := by
  simp only [update, hstation]
  exact (dispense_updateAxes now (Nat.zero_le _) haxis).1

/-- **No event is lost**: the room suffices for every axis and the dispense. -/
theorem events_update (h : machine.axes.length ≤ maxAxes) :
    (machine.update now).2 = (updateAxes now 0 machine.axes machine.dispense).2.2 := by
  have hlen := length_updateAxes_le now 0 machine.axes machine.dispense
  have hone := Bool.toNat_le (isAhead 0 machine.dispense)
  have hroom : (updateAxes now 0 machine.axes machine.dispense).2.2.length ≤ maxEvents := by
    unfold maxEvents
    omega
  exact List.take_of_length_le hroom

/-- The telemetry of a tick touches neither the axes nor the dispense. -/
theorem axes_tick (machine : Machine C) (now : Nat) (command : Option Command) :
    (machine.tick now command).1.axes = ((machine.accept command now).1.update now).1.axes := by
  simp only [tick, apply_ite Machine.axes, markTelemetry, ite_self]

theorem dispense_tick (machine : Machine C) (now : Nat) (command : Option Command) :
    (machine.tick now command).1.dispense =
      ((machine.accept command now).1.update now).1.dispense := by
  simp only [tick, apply_ite Machine.dispense, markTelemetry, ite_self]

end Machine

end MotionControl
