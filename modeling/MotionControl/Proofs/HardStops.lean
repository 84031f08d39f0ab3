import MotionControl.Proofs.Motor.Acts

/-!
# Hard stops are never passed

The counter of a motor runs on past a stop while its mechanics stay there, so that each later move
starts from a counter that tells nothing about the position. What carries on is the position itself:
it lies between the stops, and at one of them if the motor counts as blocked.

* `SimulatedChannel.IsHeld`: a motor whose mechanics are held; `IsHeld.step`: every act keeps it.
* `never_passes_stops`: **a motor never passes its hard stops**, and is blocked only at one.
-/

namespace MotionControl

open Single

namespace Mechanics

variable {mechanics : Mechanics} {n : Int}

/-- The increment lies between the hard stops. -/
structure Surrounds (mechanics : Mechanics) (n : Int) : Prop where
  min : ∀ stop ∈ mechanics.hardStopMin, stop ≤ n
  max : ∀ stop ∈ mechanics.hardStopMax, n ≤ stop

instance (mechanics : Mechanics) (n : Int) : Decidable (mechanics.Surrounds n) :=
  decidable_of_iff
    ((∀ stop ∈ mechanics.hardStopMin, stop ≤ n) ∧ ∀ stop ∈ mechanics.hardStopMax, n ≤ stop)
    ⟨fun ⟨hmin, hmax⟩ => ⟨hmin, hmax⟩, fun h => ⟨h.min, h.max⟩⟩

/-- The hard stops have at most 24 bits, so that they are numbers. -/
def HasExactStops (mechanics : Mechanics) : Prop :=
  (∀ stop ∈ mechanics.hardStopMin, stop.natAbs ≤ 2 ^ 24) ∧
    ∀ stop ∈ mechanics.hardStopMax, stop.natAbs ≤ 2 ^ 24

instance (mechanics : Mechanics) : Decidable mechanics.HasExactStops :=
  inferInstanceAs (Decidable ((∀ stop ∈ mechanics.hardStopMin, stop.natAbs ≤ 2 ^ 24) ∧
    ∀ stop ∈ mechanics.hardStopMax, stop.natAbs ≤ 2 ^ 24))

theorem HasExactStops.inRange (h : mechanics.HasExactStops) : mechanics.InRange := by
  have hcounter {stop : Int} (hstop : stop.natAbs ≤ 2 ^ 24) : IsCounter stop := by
    unfold IsCounter counterMin counterMax
    omega
  exact ⟨fun stop hstop => hcounter (h.1 stop hstop), fun stop hstop => hcounter (h.2 stop hstop)⟩

theorem Surrounds.admits (h : mechanics.Surrounds n) : mechanics.Admits (ofInt n) :=
  ⟨fun stop hstop => ofInt_le_ofInt (h.min stop hstop),
    fun stop hstop => ofInt_le_ofInt (h.max stop hstop)⟩

/-- A position between exact stops is between them as a counter, too. -/
theorem Admits.surrounds {position : Single} (h : mechanics.Admits position)
    (hexact : mechanics.HasExactStops) : mechanics.Surrounds position.toCounter := by
  constructor <;> intro stop hstop
  · have hle := toCounter_mono (h.min stop hstop)
    rwa [toCounter_ofInt (hexact.1 stop hstop)] at hle
  · have hle := toCounter_mono (h.max stop hstop)
    rwa [toCounter_ofInt (hexact.2 stop hstop)] at hle

/-- The motor is at a hard stop as far as its counter of the position tells. -/
theorem HasExactStops.toCounter_hardStop (hexact : mechanics.HasExactStops) {direction : Direction}
    {stop : Int} (hstop : mechanics.hardStop? direction = some stop) :
    mechanics.hardStopMin = some (ofInt stop).toCounter ∨
      mechanics.hardStopMax = some (ofInt stop).toCounter := by
  cases direction with
  | negative =>
    left
    rw [toCounter_ofInt (hexact.1 stop hstop)]
    exact hstop
  | positive =>
    right
    rw [toCounter_ofInt (hexact.2 stop hstop)]
    exact hstop

end Mechanics

namespace SimulatedChannel

variable {c next : SimulatedChannel} {act : MotorAct} {acts : List MotorAct}

/-! ## What every act keeps -/

/-- The mechanics of a motor are between its hard stops, and at one of them if it is blocked. -/
structure IsHeld (c : SimulatedChannel) : Prop where
  bounded : c.IsBounded
  admitted : c.mechanics.Admits c.mechanical
  pressed : c.isBlocked = true →
    ∃ direction stop, c.mechanics.hardStop? direction = some stop ∧ c.mechanical = ofInt stop

namespace IsHeld

theorem ofPosition {mechanics : Mechanics} {position : Int} (hrange : mechanics.InRange)
    (hposition : IsCounter position) (hinside : mechanics.Surrounds position) :
    (ofPosition mechanics position).IsHeld where
  bounded := .ofPosition hrange hposition
  admitted := hinside.admits
  pressed hblocked := by cases hblocked

/-- A travel ends where the stops let it. -/
theorem travel (h : c.IsHeld) {dt : Nat} (hdt : dt < UInt32.size) : (c.travel dt).IsHeld where
  bounded := h.bounded.travel hdt
  admitted := by
    have hsum := (not_nan_of_rank (h.bounded.finite_sum hdt)).1
    exact admits_clampToStops h.admitted.encloses hsum
  pressed := by
    rw [travel_eq]
    dsimp only
    rcases clampToStops_cases c.mechanics (c.mechanical + c.delta dt) with
      hfree | ⟨direction, stop, hstop, hheld⟩
    · rw [hfree]
      intro hblocked
      cases hblocked
    · rw [hheld]
      exact fun _ => ⟨direction, stop, hstop, rfl⟩

/-- **One act** leaves the mechanics between the stops. -/
theorem step (h : c.IsHeld) (hact : act.InRange) (hcase : c.ActCase act next) : next.IsHeld := by
  have hbounded := h.bounded.step hact hcase
  cases hcase with
  | stay act other target htarget hblocked =>
    exact ⟨hbounded, h.admitted, fun hpressed => h.pressed (hblocked hpressed)⟩
  | depart => exact ⟨hbounded, h.admitted, h.pressed⟩
  | brake => exact ⟨hbounded, h.admitted, h.pressed⟩
  | travel dt time htime =>
    have hdt : dt < UInt32.size := hact
    exact h.travel (htime.trans_lt hdt)

end IsHeld

theorem isHeld_after (hc : c.IsHeld) (hacts : ∀ act ∈ acts, act.InRange) : (c.after acts).IsHeld :=
  after_induction hc fun hact hcase h => h.step (hacts _ hact) hcase

/-! ## Never past a stop -/

/-- The mechanics of a motor are between its hard stops, and at one of them if it is blocked, as its
position is read. -/
structure StaysWithin (mechanics : Mechanics) (c : SimulatedChannel) : Prop where
  within : mechanics.Surrounds c.mechanicalPosition
  blocked : c.isBlocked = true → mechanics.hardStopMin = some c.mechanicalPosition ∨
    mechanics.hardStopMax = some c.mechanicalPosition

/-- **A motor never passes its hard stops**, and it is blocked only at one of them, whatever comes
to it. -/
theorem never_passes_stops {mechanics : Mechanics} {position : Int}
    (hexact : mechanics.HasExactStops) (hposition : IsCounter position)
    (hinside : mechanics.Surrounds position) (hacts : ∀ act ∈ acts, act.InRange) :
    ((ofPosition mechanics position).after acts).StaysWithin mechanics := by
  have hheld := isHeld_after (IsHeld.ofPosition hexact.inRange hposition hinside) hacts
  have hsame : ((ofPosition mechanics position).after acts).mechanics = mechanics :=
    mechanics_after _ acts
  refine ⟨(hsame ▸ hheld.admitted).surrounds hexact, fun hblocked => ?_⟩
  obtain ⟨direction, stop, hstop, hmechanical⟩ := hheld.pressed hblocked
  rw [hsame] at hstop
  rw [mechanicalPosition, hmechanical]
  exact hexact.toCounter_hardStop hstop

/-- A motor that is sent far past its stop, and then back by less, which takes it past the other
one. -/
theorem never_passes_stops_turns :
    ((ofPosition { hardStopMin := some (-30), hardStopMax := some 20 } 5).after
        [.command (.moveIncrements 500 1000 100), .influence (.advance 600),
          .command (.moveIncrements (-100) 1000 100), .influence (.advance 60)]).StaysWithin
        { hardStopMin := some (-30), hardStopMax := some 20 } ∧
      ((ofPosition { hardStopMin := some (-30), hardStopMax := some 20 } 5).after
        [.command (.moveIncrements 500 1000 100), .influence (.advance 600),
          .command (.moveIncrements (-100) 1000 100), .influence (.advance 60)]).isBlocked = true :=
  ⟨never_passes_stops (by decide) (by decide) (by decide) (by decide), by decide +kernel⟩

end SimulatedChannel

end MotionControl
