import MotionControl.Proofs.Text.Line
import MotionControl.Protocol.Report

/-!
# Lines that are cut

A line that is written by one call is cut at its tail if it has no room. The status line of an axis
is written by a call for each effort, and these calls go on after an earlier one has been cut: such
a line may lose its middle.

* `IsCutAtTail`: a line has room, and is a first part of its text.
* `lines_cut_at_tail`: **every line of one call is cut at its tail**, and when the status line of an
  axis is.
* `axis_line_loses_middle`: a status line that is not.
-/

namespace MotionControl

/-- A line has at most `Line.maxLength` bytes, and is a first part of the text of its calls. -/
structure IsCutAtTail (calls : List (List String)) (line : String) : Prop where
  bounded : line.utf8ByteSize ≤ Line.maxLength
  begins : line.toList <+: (Line.fullText calls).toList

/-- What one call writes is cut at its tail. -/
theorem isCutAtTail_kept (calls : List (List String)) : IsCutAtTail calls (Line.kept calls) :=
  ⟨Line.length_render_le _, Line.kept_prefix_fullText calls⟩

theorem isCutAtTail_call (pieces : List String) : IsCutAtTail [pieces] (Line.render [pieces]) := by
  have hkept := isCutAtTail_kept [pieces]
  rwa [Line.kept, List.flatten_singleton] at hkept

theorem isCutAtTail_reply (reply : Reply) : IsCutAtTail reply.calls reply.line := by
  cases reply <;> exact isCutAtTail_call _

theorem isCutAtTail_report (report : Report) : IsCutAtTail report.calls report.line := by
  cases report <;> exact isCutAtTail_call _

theorem isCutAtTail_dispense (status : DispenseStatus) : IsCutAtTail status.calls status.line :=
  isCutAtTail_call _

/-- A line is cut at its tail if all calls but the last one have room. -/
theorem isCutAtTail_of_room {calls : List (List String)} (hsome : calls ≠ [])
    (hroom : (Line.fullText calls.dropLast).utf8ByteSize ≤ Line.maxLength) :
    IsCutAtTail calls (Line.render calls) := by
  have hkept := Line.render_eq_kept hroom (calls.getLast hsome)
  rw [List.dropLast_append_getLast] at hkept
  rw [hkept]
  exact isCutAtTail_kept calls

/-- When the status line of an axis is cut at its tail. -/
structure AxisLineCut (status : AxisStatus) : Prop where
  bounded : status.line.utf8ByteSize ≤ Line.maxLength
  /-- The line begins as its text does, up to the first piece that does not fit. -/
  begins : (Line.kept status.calls).toList <+: status.line.toList ∧
    (Line.kept status.calls).toList <+: (Line.fullText status.calls).toList
  /-- It is cut at its tail if what is written after that is what is missing, such as nothing. -/
  iff : IsCutAtTail status.calls status.line ↔
    Line.writtenAfter status.calls <+: Line.missing status.calls
  /-- It is if there is room for all but the last effort. -/
  room : (Line.fullText status.calls.dropLast).utf8ByteSize ≤ Line.maxLength →
    IsCutAtTail status.calls status.line

/-- **Every reply, report and status line of a dispense is cut at its tail**, whatever is in it. So
is the status line of an axis, unless more of it is written after the first piece that does not
fit. -/
theorem lines_cut_at_tail (reply : Reply) (report : Report) (dispense : DispenseStatus)
    (axis : AxisStatus) :
    IsCutAtTail reply.calls reply.line ∧ IsCutAtTail report.calls report.line ∧
      IsCutAtTail dispense.calls dispense.line ∧ AxisLineCut axis := by
  refine ⟨isCutAtTail_reply reply, isCutAtTail_report report, isCutAtTail_dispense dispense, ?_⟩
  have hbounded : axis.line.utf8ByteSize ≤ Line.maxLength := Line.length_render_le _
  refine ⟨hbounded, ⟨Line.kept_prefix_render _, Line.kept_prefix_fullText _⟩, ?_, ?_⟩
  · rw [← Line.render_prefix_iff]
    exact ⟨fun h => h.begins, fun h => ⟨hbounded, h⟩⟩
  · exact isCutAtTail_of_room (List.cons_ne_nil _ _)

/-- A referenced axis at rest, with a name of some length and two efforts. -/
def namedStatus (length : Nat) : AxisStatus where
  name := "".pushn 'a' length
  state := "Standby"
  phase := none
  isHomed := true
  position := 1.5
  torque := [12.5, 3]

/-- A dispense that has delivered nothing yet. -/
def idleStatus : DispenseStatus where
  phase := "Idle"
  kind := none
  dispensed := 0
  target := 0
  remaining := 0
  lastCompleted := 0
  lastOutcome := none
  faulted := none

/-- The last effort has no room. -/
theorem lines_cut_at_tail_long :
    (namedStatus 100).line ≠ Line.fullText (namedStatus 100).calls ∧
      IsCutAtTail (namedStatus 100).calls (namedStatus 100).line :=
  ⟨by decide +kernel,
    (lines_cut_at_tail .accepted (.done "extruder") idleStatus (namedStatus 100)).2.2.2.room
      (by decide +kernel)⟩

/-- **A status line may lose its middle**: the name has no room, the efforts have. -/
theorem axis_line_loses_middle :
    (namedStatus 156).line = "AXIS 12.5,3.0" ∧
      ¬ IsCutAtTail (namedStatus 156).calls (namedStatus 156).line := by
  have hline : (namedStatus 156).line = "AXIS 12.5,3.0" := by decide +kernel
  refine ⟨hline, fun h => ?_⟩
  have hbegins : ¬ (namedStatus 156).line.toList <+:
      (Line.fullText (namedStatus 156).calls).toList := by decide +kernel
  exact hbegins h.begins

end MotionControl
