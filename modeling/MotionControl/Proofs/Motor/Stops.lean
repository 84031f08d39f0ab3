import MotionControl.Proofs.Contact
import MotionControl.Proofs.Numeric.Order

/-!
# Hard stops

The mechanics of a motor hold its position to the hard stops. In units this is a maximum and then a
minimum, which keeps the order and leaves the positions between the stops where they are. Two steps
in one direction that are held one after the other come to where their sum does.

* `Mechanics.Admits`: a position between the hard stops.
* `Mechanics.hold`: a number of units, held to the stops; `hold_mono`, `hold_of_encloses`,
  `encloses_hold`, `hold_hold`.
* `SimulatedChannel.units_clampToStops`, `clampToStops_cases`: **what holding a position does.**
-/

namespace MotionControl

open Single

/-- The integer is the value of a 32-bit counter. -/
def IsCounter (n : Int) : Prop := counterMin ≤ n ∧ n ≤ counterMax

instance (n : Int) : Decidable (IsCounter n) :=
  inferInstanceAs (Decidable (counterMin ≤ n ∧ n ≤ counterMax))

theorem IsCounter.natAbs_le {n : Int} (h : IsCounter n) : n.natAbs ≤ 2 ^ 31 := by
  unfold IsCounter counterMin counterMax at h
  omega

namespace Mechanics

variable {mechanics : Mechanics} {position : Single} {m n : Int}

/-- The hard stops are counters. -/
structure InRange (mechanics : Mechanics) : Prop where
  min : ∀ stop ∈ mechanics.hardStopMin, IsCounter stop
  max : ∀ stop ∈ mechanics.hardStopMax, IsCounter stop

instance (mechanics : Mechanics) : Decidable mechanics.InRange :=
  decidable_of_iff
    ((∀ stop ∈ mechanics.hardStopMin, IsCounter stop) ∧
      ∀ stop ∈ mechanics.hardStopMax, IsCounter stop)
    ⟨fun ⟨hmin, hmax⟩ => ⟨hmin, hmax⟩, fun h => ⟨h.min, h.max⟩⟩

/-- The position lies between the hard stops. -/
structure Admits (mechanics : Mechanics) (position : Single) : Prop where
  min : ∀ stop ∈ mechanics.hardStopMin, ofInt stop ≤ position
  max : ∀ stop ∈ mechanics.hardStopMax, position ≤ ofInt stop

instance (mechanics : Mechanics) (position : Single) : Decidable (mechanics.Admits position) :=
  decidable_of_iff
    ((∀ stop ∈ mechanics.hardStopMin, ofInt stop ≤ position) ∧
      ∀ stop ∈ mechanics.hardStopMax, position ≤ ofInt stop)
    ⟨fun ⟨hmin, hmax⟩ => ⟨hmin, hmax⟩, fun h => ⟨h.min, h.max⟩⟩

/-! ## The stops in units -/

/-- The number of units lies between the hard stops. -/
structure Encloses (mechanics : Mechanics) (n : Int) : Prop where
  min : ∀ stop ∈ mechanics.hardStopMin, (ofInt stop).units ≤ n
  max : ∀ stop ∈ mechanics.hardStopMax, n ≤ (ofInt stop).units

theorem Admits.encloses (h : mechanics.Admits position) : mechanics.Encloses position.units :=
  ⟨fun stop hstop => units_le_of_place_le (place_le_of_le (h.min stop hstop)).2.2,
    fun stop hstop => units_le_of_place_le (place_le_of_le (h.max stop hstop)).2.2⟩

theorem Encloses.admits (h : mechanics.Encloses position.units) (hnumber : position.isNaN = false) :
    mechanics.Admits position :=
  ⟨fun stop hstop => (le_iff_units (isNaN_ofInt stop) hnumber).2 (h.min stop hstop),
    fun stop hstop => (le_iff_units hnumber (isNaN_ofInt stop)).2 (h.max stop hstop)⟩

/-- A number of units, held to the lower and then to the upper hard stop. -/
def hold (mechanics : Mechanics) (n : Int) : Int :=
  let raised := mechanics.hardStopMin.elim n fun stop => max (ofInt stop).units n
  mechanics.hardStopMax.elim raised fun stop => min (ofInt stop).units raised

/-- Holding keeps the order. -/
theorem hold_mono (mechanics : Mechanics) (h : m ≤ n) : mechanics.hold m ≤ mechanics.hold n := by
  unfold hold
  cases mechanics.hardStopMin <;> cases mechanics.hardStopMax <;>
    simp only [Option.elim_none, Option.elim_some] <;> omega

/-- What lies between the stops stays where it is. -/
theorem hold_of_encloses (h : mechanics.Encloses n) : mechanics.hold n = n := by
  obtain ⟨hmin, hmax⟩ := h
  unfold hold
  cases hlower : mechanics.hardStopMin <;> cases hupper : mechanics.hardStopMax <;>
    simp only [hlower, hupper, Option.mem_def, Option.some.injEq, forall_eq'] at hmin hmax <;>
    simp only [Option.elim_none, Option.elim_some] <;> omega

/-- What is held lies between the stops, if anything does. -/
theorem encloses_hold (h : mechanics.Encloses m) (n : Int) :
    mechanics.Encloses (mechanics.hold n) := by
  constructor <;> intro stop hstop
  · have hlower := h.min stop hstop
    have hupper := h.max
    unfold hold
    rw [Option.mem_def.1 hstop]
    cases hstop' : mechanics.hardStopMax <;>
      simp only [hstop', Option.mem_def, Option.some.injEq, forall_eq'] at hupper <;>
      simp only [Option.elim_none, Option.elim_some] <;> omega
  · unfold hold
    rw [Option.mem_def.1 hstop, Option.elim_some]
    omega

/-- **Two steps in one direction**, each of them held, come to where their sum is held. -/
theorem hold_hold (hm : mechanics.Encloses m) {first second : Int}
    (hsigns : 0 ≤ first ∧ 0 ≤ second ∨ first ≤ 0 ∧ second ≤ 0) :
    mechanics.hold (mechanics.hold (m + first) + second) =
      mechanics.hold (m + (first + second)) := by
  obtain ⟨hmin, hmax⟩ := hm
  unfold hold
  cases hlower : mechanics.hardStopMin <;> cases hupper : mechanics.hardStopMax <;>
    simp only [hlower, hupper, Option.mem_def, Option.some.injEq, forall_eq'] at hmin hmax <;>
    simp only [Option.elim_none, Option.elim_some] <;> omega

end Mechanics

namespace SimulatedChannel

variable {mechanics : Mechanics} {position : Single}

/-! ## Holding a position -/

theorem raiseToStop_spec (stop : Option Int) (h : position.isNaN = false) :
    (raiseToStop stop position).1.isNaN = false ∧
      (raiseToStop stop position).1.units =
        stop.elim position.units fun stop => max (ofInt stop).units position.units := by
  cases stop with
  | none => exact ⟨h, rfl⟩
  | some stop =>
    simp only [raiseToStop, Option.elim_some]
    split
    · rename_i hbelow
      have hunits := units_lt_of_lt hbelow
      exact ⟨isNaN_ofInt stop, by dsimp only; omega⟩
    · rename_i habove
      have hunits := units_le_of_not_lt h (isNaN_ofInt stop) habove
      exact ⟨h, by dsimp only; omega⟩

theorem lowerToStop_spec (stop : Option Int) (h : position.isNaN = false) :
    (lowerToStop stop position).1.isNaN = false ∧
      (lowerToStop stop position).1.units =
        stop.elim position.units fun stop => min (ofInt stop).units position.units := by
  cases stop with
  | none => exact ⟨h, rfl⟩
  | some stop =>
    simp only [lowerToStop, Option.elim_some]
    split
    · rename_i habove
      have hunits := units_lt_of_lt habove
      exact ⟨isNaN_ofInt stop, by dsimp only; omega⟩
    · rename_i hbelow
      have hunits := units_le_of_not_lt (isNaN_ofInt stop) h hbelow
      exact ⟨h, by dsimp only; omega⟩

theorem isNaN_clampToStops (mechanics : Mechanics) (h : position.isNaN = false) :
    (clampToStops mechanics position).1.isNaN = false :=
  (lowerToStop_spec mechanics.hardStopMax (raiseToStop_spec mechanics.hardStopMin h).1).1

/-- **What holding a position does, in units.** -/
theorem units_clampToStops (mechanics : Mechanics) (h : position.isNaN = false) :
    (clampToStops mechanics position).1.units = mechanics.hold position.units := by
  obtain ⟨hraised, hmin⟩ := raiseToStop_spec mechanics.hardStopMin h
  have hmax := (lowerToStop_spec mechanics.hardStopMax hraised).2
  rw [hmin] at hmax
  exact hmax

/-- A position that is held lies between the stops, if there is one that does. -/
theorem admits_clampToStops {m : Int} (hm : mechanics.Encloses m) (h : position.isNaN = false) :
    mechanics.Admits (clampToStops mechanics position).1 := by
  refine Mechanics.Encloses.admits ?_ (isNaN_clampToStops mechanics h)
  rw [units_clampToStops mechanics h]
  exact Mechanics.encloses_hold hm position.units

theorem raiseToStop_cases (stop : Option Int) (position : Single) :
    raiseToStop stop position = (position, false) ∨
      ∃ place, stop = some place ∧ raiseToStop stop position = (ofInt place, true) := by
  unfold raiseToStop
  split
  · exact .inl rfl
  · split
    · exact .inr ⟨_, rfl, rfl⟩
    · exact .inl rfl

theorem lowerToStop_cases (stop : Option Int) (position : Single) :
    lowerToStop stop position = (position, false) ∨
      ∃ place, stop = some place ∧ lowerToStop stop position = (ofInt place, true) := by
  unfold lowerToStop
  split
  · exact .inl rfl
  · split
    · exact .inr ⟨_, rfl, rfl⟩
    · exact .inl rfl

/-- **A position is let through, or it is put to one of the stops.** -/
theorem clampToStops_cases (mechanics : Mechanics) (position : Single) :
    clampToStops mechanics position = (position, false) ∨
      ∃ direction stop, mechanics.hardStop? direction = some stop ∧
        clampToStops mechanics position = (ofInt stop, true) := by
  unfold clampToStops
  rcases raiseToStop_cases mechanics.hardStopMin position with hraise | ⟨lower, hlower, hraise⟩ <;>
    rw [hraise] <;> dsimp only
  · rcases lowerToStop_cases mechanics.hardStopMax position with hheld | ⟨upper, hupper, hheld⟩ <;>
      rw [hheld]
    · exact .inl rfl
    · exact .inr ⟨.positive, upper, hupper, rfl⟩
  · -- a position below the lower stop may come above the upper one, which is then where it stays
    rcases lowerToStop_cases mechanics.hardStopMax (ofInt lower) with
      hheld | ⟨upper, hupper, hheld⟩ <;> rw [hheld]
    · exact .inr ⟨.negative, lower, hlower, rfl⟩
    · exact .inr ⟨.positive, upper, hupper, rfl⟩

/-- A position that is held to counters is finite if it was. -/
theorem finite_clampToStops (hrange : mechanics.InRange) (h : position.rank < infinityRank) :
    (clampToStops mechanics position).1.rank < infinityRank := by
  rcases clampToStops_cases mechanics position with hfree | ⟨direction, stop, hstop, hheld⟩
  · rw [hfree]
    exact h
  · rw [hheld]
    cases direction with
    | negative => exact finite_ofInt (hrange.min stop hstop).natAbs_le
    | positive => exact finite_ofInt (hrange.max stop hstop).natAbs_le

end SimulatedChannel

end MotionControl
