import MotionControl.Proofs.Motor.Acts

/-!
# No overshoot

A travel rounds the way left, the way that the motor can go and the new counter, each on its own. A
motor with finite numbers still does not get past its target, and its mechanics follow it without
turning back and without passing a stop.

* `SimulatedChannel.IsBounded.advance_steps`, `advance_arrived`, `advance_mechanical`: what some
  time does to the counter and to the mechanics.
* `never_overshoots`: **time never takes a motor past its target**, whatever has come to it.
-/

namespace MotionControl.SimulatedChannel

open Single

variable {c : SimulatedChannel} {dt : Nat}

/-! ## Order between numbers -/

/-- A number lies between two others, whichever of these is the smaller one. -/
def LiesBetween (x first last : Single) : Prop := first ≤ x ∧ x ≤ last ∨ last ≤ x ∧ x ≤ first

theorem liesBetween_of_units {x first last : Single} (hx : x.rank < infinityRank)
    (hfirst : first.rank < infinityRank) (hlast : last.rank < infinityRank)
    (hlow : min first.units last.units ≤ x.units) (hhigh : x.units ≤ max first.units last.units) :
    LiesBetween x first last := by
  have hxn := (not_nan_of_rank hx).1
  have hfn := (not_nan_of_rank hfirst).1
  have hln := (not_nan_of_rank hlast).1
  unfold LiesBetween
  rw [le_iff_units hfn hxn, le_iff_units hxn hln, le_iff_units hln hxn, le_iff_units hxn hfn]
  omega

/-! ## Some time -/

/-- The motor emits steps in some time, even if it only starts. -/
def StepsIn (dt : Nat) (c : SimulatedChannel) : Prop :=
  c.motion = .stepping ∨ ∃ delay, c.motion = .waiting delay ∧ delay ≤ dt

theorem travelTime?_of_stepsIn (h : c.StepsIn dt) : ∃ time, c.travelTime? dt = some time := by
  rcases h with hstepping | ⟨delay, hwaiting, hlong⟩
  · exact ⟨dt, travelTime?_of_stepping hstepping dt⟩
  · exact ⟨dt - delay, travelTime?_of_waiting hwaiting hlong⟩

/-- **Time leaves the target**, and a motor that has ceased to emit steps is there. -/
theorem advance_arrived (hsteps : c.StepsIn dt) (hceased : (c.advance dt).motion ≠ .stepping) :
    (c.advance dt).steps = c.target := by
  obtain ⟨time, htime⟩ := travelTime?_of_stepsIn hsteps
  rcases c.advance_cases dt with ⟨motion, hidles, -⟩ | ⟨time', -, hadvance⟩
  · -- a motor that emits steps does not idle
    exfalso
    rcases hidles with ⟨hrests, -⟩ | ⟨delay, hwaits, hshort, -⟩
    · simp only [travelTime?, hrests, reduceCtorEq] at htime
    · simp only [travelTime?, hwaits, if_pos hshort, reduceCtorEq] at htime
  · rw [hadvance, travel_eq] at hceased ⊢
    dsimp only at hceased ⊢
    split
    · rfl
    · rename_i hfar
      rw [if_neg hfar] at hceased
      exact absurd rfl hceased

theorem target_advance (dt : Nat) (c : SimulatedChannel) : (c.advance dt).target = c.target := by
  rcases c.advance_cases dt with ⟨motion, -, hadvance⟩ | ⟨time, -, hadvance⟩ <;> rw [hadvance]
  rfl

namespace IsBounded

/-- **The counter** ends between where it was and the target. -/
theorem advance_steps (h : c.IsBounded) (hdt : dt < UInt32.size) :
    LiesBetween (c.advance dt).steps c.steps c.target := by
  rcases c.advance_cases dt with ⟨motion, -, hadvance⟩ | ⟨time, htime, hadvance⟩ <;> rw [hadvance]
  · exact liesBetween_of_units h.steps.finite h.steps.finite h.target.finite
      (Int.min_le_left ..) (Int.le_max_left ..)
  · have hnumber : (c.distance time).isNaN = false :=
      isNaN_distance h.velocity ((travelTime?_le htime).trans_lt hdt)
    obtain ⟨hfinite, hlow, hhigh⟩ :=
      steps_travel_between h.forward hnumber h.steps.finite h.target.finite
    exact liesBetween_of_units hfinite h.steps.finite h.target.finite hlow hhigh

end IsBounded

/-- The mechanics of a motor are at a position between the hard stops from which they have not moved
against the direction of travel. -/
structure MovesWithin (before after : SimulatedChannel) : Prop where
  within : before.mechanics.Admits after.mechanical
  up : before.steps ≤ before.target → before.mechanical ≤ after.mechanical
  down : before.target ≤ before.steps → after.mechanical ≤ before.mechanical

namespace IsBounded

/-- A travel moves the mechanics as rounding and the stops do, both of which keep the order. -/
theorem movesWithin_travel (h : c.IsBounded) (hdt : dt < UInt32.size)
    (hadmits : c.mechanics.Admits c.mechanical) : MovesWithin c (c.travel dt) := by
  have hnumber := (not_nan_of_rank h.mechanical).1
  have hsum := (not_nan_of_rank (h.finite_sum hdt)).1
  have hencloses := hadmits.encloses
  have hmechanical : (c.travel dt).mechanical =
      (clampToStops c.mechanics (c.mechanical + c.delta dt)).1 := rfl
  obtain ⟨hdelta, -, hup, hdown⟩ := h.delta hdt
  have hunits : (c.travel dt).mechanical.units =
      c.mechanics.hold (roundUnits (c.mechanical.units + (c.delta dt).units)) := by
    rw [hmechanical, units_clampToStops c.mechanics hsum,
      units_add h.mechanical hdelta (h.finite_sum hdt)]
  -- without a step the mechanics stay where they are
  have hstay : c.mechanics.hold (roundUnits c.mechanical.units) = c.mechanical.units := by
    rw [roundUnits_units, Mechanics.hold_of_encloses hencloses]
  have hafter : (c.travel dt).mechanical.isNaN = false := isNaN_clampToStops c.mechanics hsum
  refine ⟨admits_clampToStops hencloses hsum, fun hle => ?_, fun hle => ?_⟩
  · rw [le_iff_units hnumber hafter, hunits, ← hstay]
    refine Mechanics.hold_mono _ (roundUnits_mono ?_)
    have hpositive := hup (units_le_of_place_le (place_le_of_le hle).2.2)
    rw [roundUnits_units, Mechanics.hold_of_encloses hencloses]
    omega
  · rw [le_iff_units hafter hnumber, hunits, ← hstay]
    refine Mechanics.hold_mono _ (roundUnits_mono ?_)
    have hnegative := hdown (units_le_of_place_le (place_le_of_le hle).2.2)
    rw [roundUnits_units, Mechanics.hold_of_encloses hencloses]
    omega

/-- **The mechanics** stay within the stops and do not turn back. -/
theorem movesWithin_advance (h : c.IsBounded) (hdt : dt < UInt32.size)
    (hadmits : c.mechanics.Admits c.mechanical) : MovesWithin c (c.advance dt) := by
  rcases c.advance_cases dt with ⟨motion, -, hadvance⟩ | ⟨time, htime, hadvance⟩ <;> rw [hadvance]
  · have hself := (le_iff_units (not_nan_of_rank h.mechanical).1
      (not_nan_of_rank h.mechanical).1).2 (Int.le_refl _)
    exact ⟨hadmits, fun _ => hself, fun _ => hself⟩
  · exact h.movesWithin_travel ((travelTime?_le htime).trans_lt hdt) hadmits

end IsBounded

/-! ## No overshoot -/

/-- Some time does not take a motor past its target. -/
structure NeverOvershoots (dt : Nat) (c : SimulatedChannel) : Prop where
  /-- The counter comes to lie between where it was and the target. -/
  between : LiesBetween (c.advance dt).steps c.steps c.target
  target : (c.advance dt).target = c.target
  /-- If the motor ceases to emit steps, it is at the target. -/
  arrived : c.StepsIn dt → (c.advance dt).motion ≠ .stepping → (c.advance dt).steps = c.target
  /-- Mechanics that are within the stops stay there, and do not turn back. -/
  mechanics : c.mechanics.Admits c.mechanical → MovesWithin c (c.advance dt)

/-- **Time never takes a motor past its target**, whatever has come to it before. -/
theorem never_overshoots {mechanics : Mechanics} {position : Int} {acts : List MotorAct}
    (hrange : mechanics.InRange) (hposition : IsCounter position)
    (hacts : ∀ act ∈ acts, act.InRange) (hdt : dt < UInt32.size) :
    ((ofPosition mechanics position).after acts).NeverOvershoots dt := by
  have hbounded := isBounded_after (IsBounded.ofPosition hrange hposition) hacts
  exact ⟨hbounded.advance_steps hdt, target_advance dt _, advance_arrived,
    hbounded.movesWithin_advance hdt⟩

/-- A motor that starts to run against its stop late in some time, and arrives there. -/
theorem never_overshoots_start :
    ((ofPosition { hardStopMax := some 50, startDelay := 20 } 0).after
        [.command (.moveIncrements 80 1000 100)]).NeverOvershoots 150 ∧
      ((ofPosition { hardStopMax := some 50, startDelay := 20 } 0).after
        [.command (.moveIncrements 80 1000 100), .influence (.advance 150)]).mechanical = 50 :=
  ⟨never_overshoots (by decide) (by decide) (by decide) (by decide), by decide +kernel⟩

end MotionControl.SimulatedChannel
