import MotionControl.Proofs.Axis.Command
import MotionControl.Proofs.Axis.Run
import MotionControl.Proofs.Numeric.Range
import MotionControl.Proofs.Settings.Validity

/-!
# Moves within the travel limits

A move is tested against the travel limits before it starts. A move in increments is tested in
increments, a move in axis units is tested there and then turned into increments, and each of the
steps on the way is rounded.

* `sum_le_of_rounded`: the errors of an incremental move added up.
* `Axis.NearLimits`: within the limits, up to these errors.
* `nearLimits_of_incremental`: an incremental move that is accepted ends there.
* `accepted_moves_near_limits`: **where an accepted move ends**, in each of the three ways to ask
  for it.
* `accepted_moves_past_limits`: moves that end past a limit.
-/

namespace MotionControl

/-! ## Errors -/

section

variable {c p d s m n l : ℚ}

/-- **The errors of an incremental move.** The position `c` is rounded to `p`, its sum with the
displacement `d` to `s`, which is at most `m`, and the displacement to `n`. -/
theorem sum_le_of_rounded (hp : |p - c| ≤ 17 / 2 ^ 27 * |c| + 1 / 2 ^ 22)
    (hs : |s - (p + d)| ≤ |p + d| / 2 ^ 24 + 1 / 2 ^ 22) (hsm : s ≤ m)
    (hn : n ≤ d + |d| / 2 ^ 24 + 1 / 2 + 1 / 2 ^ 150) :
    c + n ≤ m + 1 / 2 + (7 * |c| + 5 * |m| + 20) / 2 ^ 25 := by
  have hc := le_abs_self c
  have hc' := neg_abs_le c
  have hm := le_abs_self m
  have hm' := neg_abs_le m
  obtain ⟨hlow, hhigh⟩ := abs_le.1 hp
  obtain ⟨hlow', hhigh'⟩ := abs_le.1 hs
  have hd : |d| ≤ |p + d| + |p| := by
    have h := abs_sub (p + d) p
    simpa using h
  have hpabs : |p| ≤ |c| + (17 / 2 ^ 27 * |c| + 1 / 2 ^ 22) := by
    rw [abs_le]
    constructor <;> linarith
  -- the error of the sum goes with its size, on either side of zero
  rcases le_total 0 (p + d) with hside | hside
  · rw [abs_of_nonneg hside] at hlow' hhigh' hd
    norm_num at hlow hhigh hlow' hhigh' hpabs hn ⊢
    linarith
  · rw [abs_of_nonpos hside] at hlow' hhigh' hd
    norm_num at hlow hhigh hlow' hhigh' hpabs hn ⊢
    linarith

/-- The bound in terms of a limit `l` that has been rounded from `m`. -/
theorem sum_le_of_limit (h : c + n ≤ m + 1 / 2 + (7 * |c| + 5 * |m| + 20) / 2 ^ 25)
    (hm : m ≤ l + 1 / 2 + (1 / 2 ^ 150 + |m| / 2 ^ 24)) :
    2 ^ 22 * (c + n - l - 1) ≤ |c| + |l| + 3 := by
  have hl := le_abs_self l
  have hl' := neg_abs_le l
  have hc := abs_nonneg c
  rcases le_total 0 m with hside | hside
  · rw [abs_of_nonneg hside] at h hm
    norm_num at h hm ⊢
    linarith
  · rw [abs_of_nonpos hside] at h hm
    norm_num at h hm ⊢
    linarith

end

namespace Single

variable {x y s t : Single}

/-- The error of a position in axis units, in increments. -/
theorem position_error {c : Int} (hc : c.natAbs ≤ 2 ^ 31) (hs : s.isPositive = true)
    (h : (ofInt c / s).rank < infinityRank) :
    |(ofInt c / s).value * s.value - c| ≤ 17 / 2 ^ 27 * |(c : ℚ)| + 1 / 2 ^ 22 := by
  have hpos := value_pos hs
  have hfinite := (isPositive_iff.1 hs).1
  have hdiv := (rounds_div hs h).mul_right hpos.le hfinite
  rw [div_mul_cancel₀ _ hpos.ne'] at hdiv
  have hcounter := (rounds_ofInt hc).error_le
  have hsize : |(ofInt c).value| ≤ |(c : ℚ)| + |(ofInt c).value - c| := by
    have h := abs_add_le (c : ℚ) ((ofInt c).value - c)
    simpa using h
  have htriangle := abs_sub_le ((ofInt c / s).value * s.value) (ofInt c).value (c : ℚ)
  have hnonneg := abs_nonneg (c : ℚ)
  norm_num at hdiv hcounter ⊢
  linarith

/-- The error of a sum of positions, in increments. -/
theorem sum_error (hs : s.isPositive = true) (h : (x + y).rank < infinityRank) :
    |(x + y).value * s.value - (x.value * s.value + y.value * s.value)| ≤
      |x.value * s.value + y.value * s.value| / 2 ^ 24 + 1 / 2 ^ 22 := by
  have hsum := (rounds_add h).mul_right (value_pos hs).le (isPositive_iff.1 hs).1
  rw [add_mul] at hsum
  norm_num at hsum ⊢
  linarith

/-- The error of a displacement in increments. -/
theorem displacement_error (h : (t * s).ReadsExactly) :
    |((t * s).toCounter : ℚ) - t.value * s.value| ≤
      |t.value * s.value| / 2 ^ 24 + 1 / 2 + 1 / 2 ^ 150 := by
  have hrounds := (rounds_mul h.finite).error_le
  have hnearest := abs_nearestInt_sub_le (t * s)
  have htriangle := abs_sub_le ((t * s).nearestInt : ℚ) (t * s).value (t.value * s.value)
  rw [h.toCounter]
  linarith

/-- **The end of an incremental move between two limits**, which are not rounded yet. The lower
limit is the upper one of the move with all signs turned. -/
theorem incremental_bounds {c : Int} (hc : c.natAbs ≤ 2 ^ 31) (hs : s.isPositive = true)
    (hx : x.rank < infinityRank) (hy : y.rank < infinityRank) (hlow : x ≤ ofInt c / s + t)
    (hhigh : ofInt c / s + t ≤ y) (hexact : (t * s).ReadsExactly) :
    (c : ℚ) + (t * s).toCounter ≤
        y.value * s.value + 1 / 2 + (7 * |(c : ℚ)| + 5 * |y.value * s.value| + 20) / 2 ^ 25 ∧
      -(c : ℚ) + -(t * s).toCounter ≤
        -(x.value * s.value) + 1 / 2 +
          (7 * |-(c : ℚ)| + 5 * |-(x.value * s.value)| + 20) / 2 ^ 25 := by
  have hsum := finite_of_between hx hy hlow hhigh
  have hpos := (value_pos hs).le
  have hposition := position_error hc hs (finite_of_add hsum).1
  have hadded := sum_error hs hsum
  obtain ⟨hfrom, hto⟩ := abs_le.1 (displacement_error hexact)
  constructor
  · have hlimit := mul_le_mul_of_nonneg_right (value_le_of_le hhigh) hpos
    refine sum_le_of_rounded hposition hadded hlimit ?_
    linarith
  · have hlimit := neg_le_neg (mul_le_mul_of_nonneg_right (value_le_of_le hlow) hpos)
    refine sum_le_of_rounded (p := -((ofInt c / s).value * s.value)) (d := -(t.value * s.value))
      ?_ ?_ hlimit ?_
    · rw [abs_neg, ← neg_sub', abs_neg]
      exact hposition
    · rw [← neg_add, abs_neg, ← neg_sub', abs_neg]
      exact hadded
    · rw [abs_neg]
      linarith

end Single

/-- From a bound that is not rounded to the limit `l` in increments: past it by hardly more than an
increment, and not past it if it is exact. -/
theorem sum_le_of_bound {c n l : Int} {m : ℚ}
    (h : (c : ℚ) + n ≤ m + 1 / 2 + (7 * |(c : ℚ)| + 5 * |m| + 20) / 2 ^ 25) :
    (m ≤ l + 1 / 2 + (1 / 2 ^ 150 + |m| / 2 ^ 24) → 2 ^ 22 * (c + n - l - 1) ≤ |c| + |l| + 3) ∧
      (m = l → |c| + |l| + 3 < 2 ^ 21 → c + n ≤ l) := by
  constructor
  · intro hm
    have hcast := sum_le_of_limit h hm
    rw [← Int.cast_abs, ← Int.cast_abs] at hcast
    exact_mod_cast hcast
  · intro hm hfew
    have hcast : |(c : ℚ)| + |(l : ℚ)| + 3 < 2 ^ 21 := by
      rw [← Int.cast_abs, ← Int.cast_abs]
      exact_mod_cast hfew
    have hlt : (c : ℚ) + n < l + 1 := by
      have hnonneg := abs_nonneg (l : ℚ)
      rw [hm] at h
      norm_num at h hcast
      linarith
    have hint : c + n < l + 1 := by exact_mod_cast hlt
    omega

/-! ## Where a move ends -/

namespace Axis

variable {C : Type} [MotorChannel C]

/-- Within the travel limits, up to rounding: past a limit by one increment, and a `2 ^ 22`-th part
of the increments that are rounded, at most; and not at all past a limit that is a whole number of
increments, if these are few. -/
structure NearLimits (axis : Axis C) (reached : Int) : Prop where
  upper : 2 ^ 22 * (reached - axis.incrementLimits.2 - 1) ≤
    |axis.positionIncrements| + |axis.incrementLimits.2| + 3
  lower : 2 ^ 22 * (axis.incrementLimits.1 - reached - 1) ≤
    |axis.positionIncrements| + |axis.incrementLimits.1| + 3
  upper_of_whole :
    axis.settings.travelMax.value * axis.settings.stepsPerUnit.value = axis.incrementLimits.2 →
      |axis.positionIncrements| + |axis.incrementLimits.2| + 3 < 2 ^ 21 →
      reached ≤ axis.incrementLimits.2
  lower_of_whole :
    axis.settings.travelMin.value * axis.settings.stepsPerUnit.value = axis.incrementLimits.1 →
      |axis.positionIncrements| + |axis.incrementLimits.1| + 3 < 2 ^ 21 →
      axis.incrementLimits.1 ≤ reached

variable {axis axis' : Axis C}

/-- **An incremental move that is accepted ends near the limits**, if its displacement is in the
range of a counter. -/
theorem nearLimits_of_incremental (hvalid : axis.settings.fault? = none)
    (hposition : axis.positionIncrements.natAbs ≤ 2 ^ 31) {displacement : Single}
    (hwithin : axis.settings.withinTravel (axis.position + displacement) = true)
    (hexact : (displacement * axis.settings.stepsPerUnit).ReadsExactly) :
    axis.NearLimits (saturate (axis.positionIncrements +
      (displacement * axis.settings.stepsPerUnit).toCounter)) := by
  obtain ⟨hscale, -⟩ := AxisSettings.usable_of_fault? hvalid
  obtain ⟨hminFinite, hmaxFinite⟩ := AxisSettings.finite_of_fault? hvalid
  obtain ⟨hfrom, hto⟩ := AxisSettings.withinTravel_iff.1 hwithin
  obtain ⟨hupper, hlower⟩ :=
    Single.incremental_bounds hposition hscale hminFinite hmaxFinite hfrom hto hexact
  have hhigh := Single.toCounter_range (axis.settings.travelMax * axis.settings.stepsPerUnit)
  have hlow := Single.toCounter_range (axis.settings.travelMin * axis.settings.stepsPerUnit)
  have hmax := (Single.value_mul_bounds hmaxFinite hscale).1
  have hmin := (Single.value_mul_bounds hminFinite hscale).2
  -- the lower limit is bounded as an upper one is, with all signs turned
  rw [← Int.cast_neg, ← Int.cast_neg] at hlower
  have hupper' := sum_le_of_bound hupper
    (l := (axis.settings.travelMax * axis.settings.stepsPerUnit).toCounter)
  have hlower' := sum_le_of_bound hlower
    (l := -(axis.settings.travelMin * axis.settings.stepsPerUnit).toCounter)
  simp only [abs_neg, Int.cast_neg] at hlower'
  have hsize := abs_nonneg axis.positionIncrements
  have hsizeMax := abs_nonneg (axis.settings.travelMax * axis.settings.stepsPerUnit).toCounter
  have hsizeMin := abs_nonneg (axis.settings.travelMin * axis.settings.stepsPerUnit).toCounter
  refine ⟨?_, ?_, fun hwhole hfew => ?_, fun hwhole hfew => ?_⟩ <;>
    simp only [incrementLimits, saturate] at *
  · by_cases hlast : (axis.settings.travelMax * axis.settings.stepsPerUnit).toCounter < counterMax
    · have hbound := hupper'.1 (hmax hlast)
      omega
    · -- the limit is the last counter, which is never exceeded
      omega
  · by_cases hfirst : counterMin < (axis.settings.travelMin * axis.settings.stepsPerUnit).toCounter
    · have hbound := hlower'.1 (by linarith [hmin hfirst])
      omega
    · omega
  · have hbound := hupper'.2 hwhole hfew
    omega
  · have hbound := hlower'.2 (by rw [hwhole]) hfew
    omega

omit [MotorChannel C] in
/-- **A position within the travel limits** is within them in increments. -/
theorem target_within (hvalid : axis.settings.fault? = none) {target : Single}
    (hwithin : axis.settings.withinTravel target = true) :
    axis.incrementLimits.1 ≤ (target * axis.settings.stepsPerUnit).toCounter ∧
      (target * axis.settings.stepsPerUnit).toCounter ≤ axis.incrementLimits.2 := by
  obtain ⟨hscale, -⟩ := AxisSettings.usable_of_fault? hvalid
  obtain ⟨hminFinite, hmaxFinite⟩ := AxisSettings.finite_of_fault? hvalid
  obtain ⟨hfrom, hto⟩ := AxisSettings.withinTravel_iff.1 hwithin
  have hfinite := Single.finite_of_between hminFinite hmaxFinite hfrom hto
  exact ⟨Single.toCounter_mul_mono hminFinite hfinite hscale hfrom,
    Single.toCounter_mul_mono hfinite hmaxFinite hscale hto⟩

/-- **Where an accepted move ends.** On a referenced axis with valid settings, at any position,

* a move in increments ends within the limits, held to the range of a counter;
* a move to a position ends at the nearest increment to it, which is within the limits, unless the
  displacement has left the range of a counter;
* an incremental move whose displacement is in that range ends near the limits. -/
theorem accepted_moves_near_limits (hvalid : axis.settings.fault? = none)
    (hposition : counterMin ≤ axis.positionIncrements ∧ axis.positionIncrements ≤ counterMax) :
    (∀ {increments : Int} {velocity accel torque : Single} {now : Nat} {axis' : Axis C},
        axis.moveIncrements increments velocity accel torque now = .ok axis' →
        axis' = axis.issue increments velocity accel torque now ∧
          axis.incrementLimits.1 ≤ saturate (axis.positionIncrements + increments) ∧
          saturate (axis.positionIncrements + increments) ≤ axis.incrementLimits.2) ∧
      ∀ {request : MoveRequest} {now : Nat} {axis' : Axis C},
        axis.moveTo request now = .ok axis' →
        axis' = axis.issue (axis.requestedIncrements request)
            (request.velocity * axis.settings.stepsPerUnit)
            (request.accel * axis.settings.stepsPerUnit) request.torque now ∧
          (request.mode = .absolute →
            let target := (request.target * axis.settings.stepsPerUnit).toCounter
            axis.incrementLimits.1 ≤ target ∧ target ≤ axis.incrementLimits.2 ∧
              (counterMin ≤ target - axis.positionIncrements →
                target - axis.positionIncrements ≤ counterMax →
                axis.positionIncrements + axis.requestedIncrements request = target)) ∧
          (request.mode = .incremental →
            (request.target * axis.settings.stepsPerUnit).ReadsExactly →
            axis.NearLimits
              (saturate (axis.positionIncrements + axis.requestedIncrements request))) := by
  constructor
  · intro increments velocity accel torque now axis' haccepted
    obtain ⟨-, -, -, -, hlimits, hissue⟩ :=
      tryMoveIncrements_ok.1 (Attempt.outcome_eq_ok.1 haccepted)
    exact ⟨hissue.symm, hlimits⟩
  · intro request now axis' haccepted
    obtain ⟨-, husable, -, -, hwithin, hissue⟩ := tryMoveTo_ok.1 (Attempt.outcome_eq_ok.1 haccepted)
    refine ⟨hissue.symm, fun hmode => ?_, fun hmode hexact => ?_⟩
    · intro target
      have hrequested : axis.requestedPosition request = request.target := by
        rw [requestedPosition, hmode]
      have hincrements : axis.requestedIncrements request =
          saturate (target - axis.positionIncrements) := by
        rw [requestedIncrements, hmode]
      rw [hrequested] at hwithin
      obtain ⟨hlow, hhigh⟩ := target_within hvalid hwithin
      refine ⟨hlow, hhigh, fun hmin hmax => ?_⟩
      rw [hincrements, Single.saturate_of_range hmin hmax]
      omega
    · have hrequested : axis.requestedPosition request = axis.position + request.target := by
        rw [requestedPosition, hmode]
      have hincrements : axis.requestedIncrements request =
          (request.target * axis.settings.stepsPerUnit).toCounter := by
        rw [requestedIncrements, hmode]
      have hrange : axis.positionIncrements.natAbs ≤ 2 ^ 31 := by
        obtain ⟨hmin, hmax⟩ := hposition
        unfold counterMin at hmin
        unfold counterMax at hmax
        omega
      rw [hrequested] at hwithin
      rw [hincrements]
      exact nearLimits_of_incremental hvalid hrange hwithin hexact

end Axis

/-! ### An axis at a position -/

/-- A referenced axis of one increment per unit, with these travel limits and at this position. -/
def perch (travelMin travelMax : Single) (position : Int) : Axis ScriptedChannel :=
  { spindle with
    settings := { stepsPerUnit := 1, travelMin, travelMax }
    channels := [{ position }]
    isHomed := true }

/-- A slow move. -/
def nudge (mode : MoveMode) (target : Single) : MoveRequest where
  mode
  target
  velocity := 1
  accel := 1
  torque := 50

theorem perch_accepts (travelMin travelMax : Single) (position : Int) {request : MoveRequest}
    (husable : request.isUsable = true)
    (hwithin : (perch travelMin travelMax position).settings.withinTravel
      ((perch travelMin travelMax position).requestedPosition request) = true) :
    ∃ axis', (perch travelMin travelMax position).moveTo request 0 = .ok axis' :=
  ⟨_, Attempt.outcome_eq_ok.2 (Axis.tryMoveTo_ok.2 ⟨rfl, husable, rfl, rfl, hwithin, rfl⟩)⟩

/-- Moves of each kind that are accepted, and where they end. -/
theorem accepted_moves_near_limits_perch :
    (perch 0 400 10).settings.fault? = none ∧ (perch 0 400 10).positionIncrements = 10 ∧
      (0 ≤ saturate (10 + 5) ∧ saturate (10 + 5) ≤ 400) ∧
      10 + (perch 0 400 10).requestedIncrements (nudge .absolute 15) = 15 ∧
      (perch 0 400 10).NearLimits
        (saturate (10 + (perch 0 400 10).requestedIncrements (nudge .incremental 5))) := by
  have hvalid : (perch 0 400 10).settings.fault? = none := by decide +kernel
  have haxis := Axis.accepted_moves_near_limits hvalid (by decide)
  have hlimits : (perch 0 400 10).incrementLimits = (0, 400) := by decide +kernel
  obtain ⟨_, hincrements⟩ : ∃ axis', (perch 0 400 10).moveIncrements 5 1 1 50 0 = .ok axis' :=
    ⟨_, Attempt.outcome_eq_ok.2 (Axis.tryMoveIncrements_ok.2
      ⟨rfl, by decide +kernel, rfl, rfl, by decide +kernel, rfl⟩)⟩
  obtain ⟨_, habsolute⟩ : ∃ axis', (perch 0 400 10).moveTo (nudge .absolute 15) 0 = .ok axis' :=
    perch_accepts 0 400 10 (by decide +kernel) (by decide +kernel)
  obtain ⟨_, hincremental⟩ :
      ∃ axis', (perch 0 400 10).moveTo (nudge .incremental 5) 0 = .ok axis' :=
    perch_accepts 0 400 10 (by decide +kernel) (by decide +kernel)
  have hmove := (haxis.1 hincrements).2
  have htarget := ((haxis.2 habsolute).2.1 rfl).2.2 (by decide +kernel) (by decide +kernel)
  rw [hlimits] at hmove
  refine ⟨hvalid, rfl, hmove, htarget.trans (by decide +kernel), ?_⟩
  exact (haxis.2 hincremental).2.2 rfl (by decide +kernel)

/-- **Accepted moves that end past a limit**: an incremental move with a half increment to the
limit, one at a position that single precision does not hold, a move to a position whose
displacement leaves the range of a counter, and a move in increments that leaves this range. -/
theorem accepted_moves_past_limits :
    ((perch (-10) (-0.5) (-1)).settings.fault? = none ∧
        (∃ axis', (perch (-10) (-0.5) (-1)).moveTo (nudge .incremental 0.5) 0 = .ok axis') ∧
        (perch (-10) (-0.5) (-1)).incrementLimits.2 <
          -1 + (perch (-10) (-0.5) (-1)).requestedIncrements (nudge .incremental 0.5)) ∧
      ((perch 0 1073741824 1073741824).settings.fault? = none ∧
        (∃ axis', (perch 0 1073741824 1073741824).moveTo (nudge .incremental 64) 0 = .ok axis') ∧
        (perch 0 1073741824 1073741824).incrementLimits.2 + 63 <
          1073741824 + (perch 0 1073741824 1073741824).requestedIncrements
            (nudge .incremental 64)) ∧
      ((perch 0 1000000000 (-2147483648)).settings.fault? = none ∧
        (∃ axis', (perch 0 1000000000 (-2147483648)).moveTo (nudge .absolute 1000000000) 0 =
          .ok axis') ∧
        -2147483648 + (perch 0 1000000000 (-2147483648)).requestedIncrements
            (nudge .absolute 1000000000) <
          (perch 0 1000000000 (-2147483648)).incrementLimits.1) ∧
      ((perch 0 2147483648 2147483647).settings.fault? = none ∧
        (∃ axis', (perch 0 2147483648 2147483647).moveIncrements 5 1 1 50 0 = .ok axis') ∧
        (perch 0 2147483648 2147483647).incrementLimits.2 < 2147483647 + 5) := by
  refine ⟨⟨by decide +kernel, ?_, by decide +kernel⟩, ⟨by decide +kernel, ?_, by decide +kernel⟩,
    ⟨by decide +kernel, ?_, by decide +kernel⟩, ⟨by decide +kernel, ?_, by decide +kernel⟩⟩
  · exact perch_accepts _ _ _ (by decide +kernel) (by decide +kernel)
  · exact perch_accepts _ _ _ (by decide +kernel) (by decide +kernel)
  · exact perch_accepts _ _ _ (by decide +kernel) (by decide +kernel)
  · exact ⟨_, Attempt.outcome_eq_ok.2 (Axis.tryMoveIncrements_ok.2
      ⟨rfl, by decide +kernel, rfl, rfl, by decide +kernel, rfl⟩)⟩

end MotionControl
