import MotionControl.Proofs.Dispense.Account
import MotionControl.Proofs.Numeric.Value

/-!
# The travel that an operation counts

An operation is told positions, one after the other, and counts the travel between them. Each
segment goes through single precision, which holds every integer up to `2 ^ 24` and only some of
those beyond. What is counted depends on how the travel is cut into segments only as far as single
precision cannot hold a segment.

* `Direction.segments`: the travel of each segment; `sum_segments`: all of it together.
* `DispenseOperation.foldSegments`: the operation after all of the positions.
* `IsCapped.dispensed_foldSegments`: it has counted each segment as single precision holds it, and
  is capped once.
* `tally_segments`: **the count is the travel up to one increment in `2 ^ 24`**, and exact if single
  precision holds the segments.
* `tally_depends_on_segments`: one increment is lost in a long segment, and not in two shorter ones.
-/

namespace MotionControl

/-! ## Segments -/

/-- The travel of each segment that ends at one of the positions, from a start on. -/
def Direction.segments (direction : Direction) : Int → List Int → List Int
  | _, [] => []
  | start, position :: positions =>
    direction.toInt * (position - start) :: direction.segments position positions

/-- **The travel of all segments** is that from the start to the last position. -/
theorem Direction.sum_segments (direction : Direction) (start : Int) (positions : List Int) :
    (direction.segments start positions).sum =
      direction.toInt * (positions.getLastD start - start) := by
  induction positions generalizing start with
  | nil => simp [segments]
  | cons position positions ih =>
    rw [segments, List.sum_cons, ih, List.getLastD_cons]
    ring

/-- The travel of a segment as single precision holds it. -/
def countedTravel (n : Int) : Int := (Single.ofInt n).toCounter

/-- **What a segment counts**, if it does not go against the direction. -/
theorem DispenseOperation.segmentTravel_eq {operation : DispenseOperation} {direction : Direction}
    (hdirection : operation.direction = direction.sign) {position : Int}
    (hforward : 0 ≤ direction.toInt * (position - operation.segmentStart))
    (hrange : counterMin ≤ position - operation.segmentStart ∧
      position - operation.segmentStart ≤ counterMax) :
    operation.segmentTravel position =
        countedTravel (direction.toInt * (position - operation.segmentStart)) ∧
      0 ≤ countedTravel (direction.toInt * (position - operation.segmentStart)) := by
  rw [segmentTravel, hdirection, wrap_of_range hrange.1 hrange.2]
  generalize hdisplacement : position - operation.segmentStart = displacement at *
  have habs : displacement.natAbs ≤ 2 ^ 31 := by
    unfold counterMin counterMax at hrange
    omega
  have hfinite := Single.finite_ofInt habs
  have hnan : (Single.ofInt displacement * direction.sign).isNaN = false := by
    rw [Single.mul_comm']
    exact (Single.not_nan_of_rank ((Single.sign_mul direction hfinite).1 ▸ hfinite)).1
  have hcounter : (Single.ofInt displacement * direction.sign).toCounter =
      countedTravel (direction.toInt * displacement) := by
    rw [countedTravel, Single.toCounter_eq_saturate hnan,
      Single.toCounter_eq_saturate (Single.isNaN_ofInt _), Single.nearestInt_mul_sign _ hfinite,
      Single.nearestInt_ofInt_mul]
  have hnonneg : 0 ≤ countedTravel (direction.toInt * displacement) := by
    have hsign : (Single.ofInt (direction.toInt * displacement)).isNegative = false := by
      rw [Single.ofInt, Single.nearest, Single.isNegative_ofRank]
      exact decide_eq_false (Int.not_lt.2 hforward)
    rw [countedTravel, Single.toCounter_eq_saturate (Single.isNaN_ofInt _), Single.nearestInt,
      hsign]
    simp only [Bool.false_eq_true, if_false]
    exact Single.saturate_mono (Int.natCast_nonneg _)
  rw [hcounter]
  exact ⟨Int.max_eq_right hnonneg, hnonneg⟩

/-! ## All segments -/

namespace DispenseOperation

variable {operation : DispenseOperation} {direction : Direction} {positions : List Int}

/-- The operation after the segments that end at these positions. -/
def foldSegments (positions : List Int) (operation : DispenseOperation) : DispenseOperation :=
  positions.foldl (fun operation position => operation.foldSegment position) operation

theorem total_foldSegments (positions : List Int) (operation : DispenseOperation) :
    (operation.foldSegments positions).total = operation.total := by
  induction positions generalizing operation with
  | nil => rfl
  | cons position positions ih => exact ih (operation.foldSegment position)

/-- No segment goes against the direction, and the difference of its positions is a counter. -/
def GoesForward (direction : Direction) (positions : List Int) (operation : DispenseOperation) :
    Prop :=
  ∀ n ∈ direction.segments operation.segmentStart positions,
    0 ≤ n ∧ counterMin ≤ direction.toInt * n ∧ direction.toInt * n ≤ counterMax

theorem GoesForward.bounds (h : operation.GoesForward direction positions) :
    ∀ n ∈ direction.segments operation.segmentStart positions, 0 ≤ n ∧ n ≤ 2 ^ 31 := by
  intro n hn
  obtain ⟨hnonneg, hmin, hmax⟩ := h n hn
  unfold counterMin counterMax at *
  cases direction <;> simp only [Direction.toInt] at hmin hmax <;> omega

/-- **Each segment is counted as single precision holds it**, and the count is capped once. -/
theorem IsCapped.dispensed_foldSegments (h : operation.IsCapped)
    (hdirection : operation.direction = direction.sign)
    (hforward : operation.GoesForward direction positions) :
    (operation.foldSegments positions).dispensed = min operation.total
      (operation.dispensed +
        ((direction.segments operation.segmentStart positions).map countedTravel).sum) ∧
      0 ≤ ((direction.segments operation.segmentStart positions).map countedTravel).sum := by
  -- a capped count that only grows is the cap of the whole sum
  induction positions generalizing operation with
  | nil => simp [foldSegments, Direction.segments, h.capped]
  | cons position positions ih =>
    obtain ⟨hfirst, hrest⟩ := List.forall_mem_cons.1 hforward
    rw [direction.toInt_mul_toInt_mul] at hfirst
    obtain ⟨htravel, hnonneg⟩ := segmentTravel_eq hdirection hfirst.1 hfirst.2
    have hstep := h.dispensed_foldSegment position
    have hafter := ih (h.foldSegment position).toIsCapped hdirection hrest
    have htotal : (operation.foldSegment position).total = operation.total := rfl
    have hstart : (operation.foldSegment position).segmentStart = position := rfl
    rw [htotal, hstart, hstep, htravel] at hafter
    rw [Direction.segments, List.map_cons, List.sum_cons]
    refine ⟨hafter.1.trans ?_, Int.add_nonneg hnonneg hafter.2⟩
    have hsum := hafter.2
    omega

theorem IsBalanced.foldSegments (h : operation.IsBalanced) (positions : List Int) :
    (operation.foldSegments positions).IsBalanced := by
  induction positions generalizing operation with
  | nil => exact h
  | cons position positions ih => exact ih (h.toIsCapped.foldSegment position)

/-- The account is balanced after any segment. -/
theorem IsCapped.isBalanced_foldSegments (h : operation.IsCapped) (hsome : positions ≠ []) :
    (operation.foldSegments positions).IsBalanced := by
  cases positions with
  | nil => exact absurd rfl hsome
  | cons position positions => exact (h.foldSegment position).foldSegments positions

end DispenseOperation

/-! ## The error of the count -/

/-- The error of a list of segments is at most one increment in `2 ^ 24`. -/
theorem sum_countedTravel_error {segments : List Int} (h : ∀ n ∈ segments, 0 ≤ n ∧ n ≤ 2 ^ 31) :
    2 ^ 24 * |(segments.map countedTravel).sum - segments.sum| ≤ segments.sum := by
  induction segments with
  | nil => simp
  | cons n segments ih =>
    obtain ⟨hfirst, hrest⟩ := List.forall_mem_cons.1 h
    have hrange : n.natAbs ≤ 2 ^ 31 := by omega
    have hone : 2 ^ 24 * |countedTravel n - n| ≤ |n| := Single.toCounter_ofInt_error hrange
    have hmany := ih hrest
    rw [abs_of_nonneg hfirst.1] at hone
    rw [List.map_cons, List.sum_cons, List.sum_cons]
    have hsplit : countedTravel n + (segments.map countedTravel).sum - (n + segments.sum) =
        (countedTravel n - n) + ((segments.map countedTravel).sum - segments.sum) := by ring
    have htriangle := abs_add_le (countedTravel n - n)
      ((segments.map countedTravel).sum - segments.sum)
    rw [hsplit]
    omega

/-- Segments that single precision holds are counted as they are, up to the last counter. -/
theorem min_sum_countedTravel {segments : List Int} (h : ∀ n ∈ segments, 0 ≤ n ∧ n ≤ 2 ^ 31)
    (hheld : ∀ n ∈ segments, (Single.ofInt n).HasValue n) :
    0 ≤ (segments.map countedTravel).sum ∧ 0 ≤ segments.sum ∧
      min counterMax (segments.map countedTravel).sum = min counterMax segments.sum := by
  induction segments with
  | nil => simp
  | cons n segments ih =>
    obtain ⟨hfirst, hrest⟩ := List.forall_mem_cons.1 h
    obtain ⟨hvalue, hvalues⟩ := List.forall_mem_cons.1 hheld
    have hone : countedTravel n = saturate n := by
      rw [countedTravel, Single.toCounter_eq_saturate (Single.isNaN_ofInt n), hvalue.nearestInt]
    have hmany := ih hrest hvalues
    rw [List.map_cons, List.sum_cons, List.sum_cons, hone]
    unfold saturate counterMin counterMax at *
    omega

/-! ## The count -/

/-- **The count of a forward travel.** Over any positions that do not go against the direction, the
operation counts each segment as single precision holds it, up to the total, and the rest is what
is left. The count is the travel up to one increment in `2 ^ 24`. It is the travel itself if single
precision holds every segment, and then any other such segments of the same travel count the
same. -/
theorem tally_segments {operation : DispenseOperation} {direction : Direction}
    {positions : List Int} (hdirection : operation.direction = direction.sign)
    (hcapped : operation.IsCapped) (hforward : operation.GoesForward direction positions) :
    let segments := direction.segments operation.segmentStart positions
    let travel :=
      direction.toInt * (positions.getLastD operation.segmentStart - operation.segmentStart)
    let after := operation.foldSegments positions
    after.dispensed =
        min operation.total (operation.dispensed + (segments.map countedTravel).sum) ∧
      (positions ≠ [] → after.remaining = operation.total - after.dispensed) ∧
      2 ^ 24 * |after.dispensed - min operation.total (operation.dispensed + travel)| ≤ travel ∧
      ((∀ n ∈ segments, (Single.ofInt n).HasValue n) →
        after.dispensed = min operation.total (operation.dispensed + travel)) := by
  intro segments travel after
  have hcount : after.dispensed =
      min operation.total (operation.dispensed + (segments.map countedTravel).sum) :=
    (hcapped.dispensed_foldSegments hdirection hforward).1
  have htravel : segments.sum = travel := direction.sum_segments _ _
  have hrange : ∀ n ∈ segments, 0 ≤ n ∧ n ≤ 2 ^ 31 := hforward.bounds
  have herror := sum_countedTravel_error hrange
  have htotal := hcapped.total_le
  have hnonneg := hcapped.nonneg
  refine ⟨hcount, fun hsome => ?_, ?_, fun hheld => ?_⟩
  · rw [← operation.total_foldSegments positions]
    exact (hcapped.isBalanced_foldSegments hsome).remaining
  · -- the cap brings the two counts no farther apart
    have hclose : |after.dispensed - min operation.total (operation.dispensed + travel)| ≤
        |(segments.map countedTravel).sum - segments.sum| := by
      have hupper := le_abs_self ((segments.map countedTravel).sum - segments.sum)
      have hlower := neg_abs_le ((segments.map countedTravel).sum - segments.sum)
      rw [abs_le, hcount, ← htravel]
      omega
    rw [htravel] at herror hclose
    omega
  · obtain ⟨hcounted, hsum, hmin⟩ := min_sum_countedTravel hrange hheld
    rw [hcount, ← htravel]
    omega

/-- The operation of the travel that is lost: it is to go on by more than single precision holds. -/
def longOperation : DispenseOperation where
  kind := .inject
  targetVolume := 20000000
  stepsPerVolume := 1
  direction := Direction.sign .positive
  total := 20000000
  startPosition := 0
  velocity := 1
  accel := 1
  torque := 50

/-- Two segments that add up to a travel which single precision does not hold. -/
theorem tally_segments_two :
    (longOperation.foldSegments [1, 16777217]).dispensed = 16777217 := by
  have hcapped : longOperation.IsCapped := ⟨by decide, by decide, by decide⟩
  have hforward : longOperation.GoesForward .positive [1, 16777217] := by
    unfold DispenseOperation.GoesForward
    decide
  have hcount := (tally_segments rfl hcapped hforward).2.2.2
  refine (hcount fun n hn => Single.hasValue_ofInt ?_).trans (by decide)
  revert n
  decide

/-- **The count depends on the segments.** One segment of `2 ^ 24 + 1` increments counts one
increment less, and two segments of the same travel do not. -/
theorem tally_depends_on_segments :
    longOperation.direction = Direction.sign .positive ∧ longOperation.IsCapped ∧
      longOperation.dispensed = 0 ∧ longOperation.GoesForward .positive [16777217] ∧
      longOperation.GoesForward .positive [1, 16777217] ∧
      min longOperation.total
        (Direction.positive.toInt * (16777217 - longOperation.segmentStart)) = 16777217 ∧
      (longOperation.foldSegments [16777217]).dispensed = 16777216 ∧
      (longOperation.foldSegments [1, 16777217]).dispensed = 16777217 := by
  refine ⟨rfl, ⟨by decide, by decide, by decide⟩, rfl, ?_, ?_, by decide, by decide +kernel,
    by decide +kernel⟩
  · unfold DispenseOperation.GoesForward
    decide
  · unfold DispenseOperation.GoesForward
    decide

end MotionControl
