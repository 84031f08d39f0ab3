import MotionControl.Dispense.Manager
import MotionControl.Proofs.Numeric.Value

/-!
# The account of an operation

An operation counts its increments segment by segment. Whatever the positions are, what is delivered
and what is left make up the total.

* `DispenseOperation.IsBalanced`: the account, which `isBalanced_operationOf` opens and
  `IsCapped.foldSegment` keeps.
* `DispenseOperation.Continues`: what an operation never loses in its course.
-/

namespace MotionControl

namespace DispenseOperation

/-- What an operation has delivered is at most its total, which is a counter. -/
structure IsCapped (operation : DispenseOperation) : Prop where
  nonneg : 0 ≤ operation.dispensed
  capped : operation.dispensed ≤ operation.total
  total_le : operation.total ≤ counterMax

/-- The account of an operation: what is delivered and what is left make up the total. -/
structure IsBalanced (operation : DispenseOperation) : Prop extends operation.IsCapped where
  remaining : operation.remaining = operation.total - operation.dispensed

/-- What an operation never loses in its course: all that it was started with, and what it has
delivered. -/
structure Continues (before after : DispenseOperation) : Prop where
  terms : after =
    { before with
      dispensed := after.dispensed, remaining := after.remaining
      segmentStart := after.segmentStart }
  delivered : before.dispensed ≤ after.dispensed

variable {operation before middle after : DispenseOperation} {position : Int}

theorem Continues.refl (operation : DispenseOperation) : operation.Continues operation :=
  ⟨rfl, Int.le_refl _⟩

theorem Continues.trans (h : before.Continues middle) (h' : middle.Continues after) :
    before.Continues after := by
  refine ⟨?_, Int.le_trans h.delivered h'.delivered⟩
  have hmiddle := h.terms
  have hafter := h'.terms
  rw [hmiddle] at hafter
  exact hafter

theorem Continues.kind (h : before.Continues after) : after.kind = before.kind := by
  rw [h.terms]

/-- Another start of the segment is no part of the account. -/
theorem continues_segmentStart (operation : DispenseOperation) (position : Int) :
    operation.Continues { operation with segmentStart := position } :=
  ⟨rfl, Int.le_refl _⟩

theorem IsBalanced.segmentStart (h : operation.IsBalanced) (position : Int) :
    IsBalanced { operation with segmentStart := position } :=
  ⟨⟨h.nonneg, h.capped, h.total_le⟩, h.remaining⟩

/-- A segment adds to what is delivered, up to the total. -/
theorem IsCapped.dispensed_foldSegment (h : operation.IsCapped) (position : Int) :
    (operation.foldSegment position).dispensed =
      min operation.total (operation.dispensed + operation.segmentTravel position) := by
  have hnonneg := h.nonneg
  have hcapped := h.capped
  have htotal := h.total_le
  have htravel : 0 ≤ operation.segmentTravel position := Int.le_max_left ..
  have hdispensed : (operation.foldSegment position).dispensed =
      min (saturate (operation.dispensed + operation.segmentTravel position))
        operation.total := rfl
  -- the sum may leave the range of a counter, but only above the total
  rw [hdispensed]
  unfold saturate counterMin
  omega

theorem IsCapped.le_dispensed (h : operation.IsCapped) (position : Int) :
    operation.dispensed ≤ (operation.foldSegment position).dispensed := by
  have hcapped := h.capped
  have htravel : 0 ≤ operation.segmentTravel position := Int.le_max_left ..
  rw [h.dispensed_foldSegment position]
  omega

/-- **Counting a segment balances the account**, wherever the segment ends. -/
theorem IsCapped.foldSegment (h : operation.IsCapped) (position : Int) :
    (operation.foldSegment position).IsBalanced := by
  have hmore := h.le_dispensed position
  have hcapped : (operation.foldSegment position).dispensed ≤ operation.total := by
    rw [h.dispensed_foldSegment position]
    exact Int.min_le_left ..
  have hnonneg := Int.le_trans h.nonneg hmore
  exact ⟨⟨hnonneg, hcapped, h.total_le⟩, remaining_foldSegment hnonneg hcapped h.total_le⟩

theorem IsCapped.continues_foldSegment (h : operation.IsCapped) (position : Int) :
    operation.Continues (operation.foldSegment position) :=
  ⟨rfl, h.le_dispensed position⟩

end DispenseOperation

/-- An operation that has just been accepted has all of its increments left. -/
theorem Dispenser.isBalanced_operationOf {request : DispenseRequest} {position : Int}
    {settings : DispenseSettings} (hvolume : request.volume.isPositive = true)
    (hfactor : settings.stepsPerVolume.isPositive = true) :
    (Dispenser.operationOf request position settings).IsBalanced := by
  have htotal : 0 ≤ (Dispenser.operationOf request position settings).total :=
    Single.toCounter_mul_nonneg hvolume hfactor
  exact ⟨⟨Int.le_refl 0, htotal, (Single.toCounter_range _).2⟩, (Int.sub_zero _).symm⟩

end MotionControl
