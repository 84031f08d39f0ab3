import MotionControl.Text.Line
import Mathlib.Data.List.Infix

/-!
# What a line has room for

A line takes pieces while they fit whole. A call that does not fit is cut at a piece; the calls
after it may still add to the line.

* `length_render_le`: a line has at most `maxLength` bytes.
* `render_eq_fullText`: **a text that has room is written whole**.
* `kept`: what is written before the first piece that does not fit; `kept_prefix_render`,
  `kept_prefix_fullText`: the line and the text both begin with it.
* `render_eq_kept`: **only the last call is cut** if all the others have room.
* `render_prefix_iff`: when a line is a first part of the text.
-/

namespace MotionControl.Line

variable {line : String} {pieces : List String} {calls : List (List String)}

/-! ## Lines grow -/

theorem prefix_appendCall (line : String) (pieces : List String) :
    line.toList <+: (appendCall line pieces).toList := by
  induction pieces generalizing line with
  | nil => exact List.prefix_rfl
  | cons piece pieces ih =>
    unfold appendCall
    split
    · refine List.IsPrefix.trans ?_ (ih (line ++ piece))
      rw [String.toList_append]
      exact List.prefix_append _ _
    · exact List.prefix_rfl

theorem prefix_appendCalls (line : String) (calls : List (List String)) :
    line.toList <+: (calls.foldl appendCall line).toList := by
  induction calls generalizing line with
  | nil => exact List.prefix_rfl
  | cons pieces calls ih => exact (prefix_appendCall line pieces).trans (ih _)

/-- A line begins with its first piece, if there is room for it. -/
theorem prefix_render {head : String} {pieces : List String} {calls : List (List String)}
    (hroom : head.utf8ByteSize ≤ maxLength) :
    head.toList <+: (render ((head :: pieces) :: calls)).toList := by
  have hfirst : appendCall "" (head :: pieces) = appendCall head pieces := by
    rw [appendCall, if_pos (by simpa using hroom), String.empty_append]
  unfold render
  rw [List.foldl_cons, hfirst]
  exact (prefix_appendCall head pieces).trans (prefix_appendCalls _ _)

theorem length_appendCall_le (hline : line.utf8ByteSize ≤ maxLength) (pieces : List String) :
    (appendCall line pieces).utf8ByteSize ≤ maxLength := by
  induction pieces generalizing line with
  | nil => exact hline
  | cons piece rest ih =>
    unfold appendCall
    split
    · rename_i hroom
      exact ih (by rwa [String.utf8ByteSize_append])
    · exact hline

/-- **A line has at most `maxLength` bytes.** -/
theorem length_render_le (calls : List (List String)) :
    (render calls).utf8ByteSize ≤ maxLength := by
  have key (line : String) (hline : line.utf8ByteSize ≤ maxLength) :
      (calls.foldl appendCall line).utf8ByteSize ≤ maxLength := by
    induction calls generalizing line with
    | nil => exact hline
    | cons pieces calls ih => exact ih _ (length_appendCall_le hline pieces)
  exact key "" (by decide)

/-! ## Pieces with and without room -/

/-- There is room for some pieces in a line. -/
def HasRoom (line : String) (pieces : List String) : Prop :=
  line.utf8ByteSize + (String.join pieces).utf8ByteSize ≤ maxLength

theorem HasRoom.cons_iff {piece : String} :
    HasRoom line (piece :: pieces) ↔ HasRoom (line ++ piece) pieces := by
  rw [HasRoom, HasRoom, String.join_cons, String.utf8ByteSize_append, String.utf8ByteSize_append,
    Nat.add_assoc]

/-- Pieces that have room are written whole, and what comes after them goes on from there. -/
theorem appendCall_append_of_hasRoom (h : HasRoom line pieces) (more : List String) :
    appendCall line (pieces ++ more) = appendCall (line ++ String.join pieces) more := by
  induction pieces generalizing line with
  | nil => rw [List.nil_append, String.join_nil, String.append_empty]
  | cons piece rest ih =>
    have hrest : HasRoom (line ++ piece) rest := HasRoom.cons_iff.1 h
    have hpiece : line.utf8ByteSize + piece.utf8ByteSize ≤ maxLength := by
      unfold HasRoom at hrest
      rw [String.utf8ByteSize_append] at hrest
      omega
    rw [List.cons_append, appendCall, if_pos hpiece, ih hrest, String.join_cons,
      String.append_assoc]

theorem appendCall_of_hasRoom (h : HasRoom line pieces) :
    appendCall line pieces = line ++ String.join pieces := by
  have happend := appendCall_append_of_hasRoom h []
  rwa [List.append_nil] at happend

/-- Nothing of a call is written after a piece that has no room. -/
theorem appendCall_append_of_not_hasRoom (h : ¬ HasRoom line pieces) (more : List String)
    (hline : line.utf8ByteSize ≤ maxLength) :
    appendCall line (pieces ++ more) = appendCall line pieces := by
  induction pieces generalizing line with
  | nil =>
    refine absurd ?_ h
    simpa [HasRoom] using hline
  | cons piece rest ih =>
    rw [List.cons_append, appendCall, appendCall]
    split
    · rename_i hpiece
      exact ih (fun hrest => h (HasRoom.cons_iff.2 hrest)) (by rwa [String.utf8ByteSize_append])
    · rfl

/-- What a call writes is a first part of its text. -/
theorem appendCall_prefix (line : String) (pieces : List String) :
    (appendCall line pieces).toList <+: (line ++ String.join pieces).toList := by
  induction pieces generalizing line with
  | nil => rw [appendCall, String.join_nil, String.append_empty]
  | cons piece rest ih =>
    unfold appendCall
    split
    · rw [String.join_cons, ← String.append_assoc]
      exact ih (line ++ piece)
    · rw [String.toList_append]
      exact List.prefix_append _ _

/-! ## Whole lines -/

theorem foldl_appendCall_of_hasRoom (calls : List (List String)) (h : HasRoom line calls.flatten) :
    calls.foldl appendCall line = line ++ String.join calls.flatten := by
  induction calls generalizing line with
  | nil => rw [List.foldl_nil, List.flatten_nil, String.join_nil, String.append_empty]
  | cons pieces calls ih =>
    unfold HasRoom at h
    rw [List.flatten_cons, String.join_append, String.utf8ByteSize_append] at h
    have hfirst : HasRoom line pieces := by
      unfold HasRoom
      omega
    have hrest : HasRoom (line ++ String.join pieces) calls.flatten := by
      rw [HasRoom, String.utf8ByteSize_append]
      omega
    rw [List.foldl_cons, appendCall_of_hasRoom hfirst, ih hrest, List.flatten_cons,
      String.join_append, String.append_assoc]

theorem hasRoom_empty_iff :
    HasRoom "" calls.flatten ↔ (fullText calls).utf8ByteSize ≤ maxLength := by
  rw [HasRoom, String.utf8ByteSize_empty, Nat.zero_add]
  rfl

/-- **A text that has room is written whole.** -/
theorem render_eq_fullText (h : (fullText calls).utf8ByteSize ≤ maxLength) :
    render calls = fullText calls := by
  rw [render, foldl_appendCall_of_hasRoom calls (hasRoom_empty_iff.2 h), String.empty_append]
  rfl

/-! ## Lines that are cut -/

/-- What is written before the first piece that does not fit: a single call with all the pieces
writes just that. -/
def kept (calls : List (List String)) : String := render [calls.flatten]

theorem kept_prefix_fullText (calls : List (List String)) :
    (kept calls).toList <+: (fullText calls).toList := by
  have hprefix := appendCall_prefix "" calls.flatten
  rwa [String.empty_append] at hprefix

theorem kept_prefix_render (calls : List (List String)) :
    (kept calls).toList <+: (render calls).toList := by
  have key (line : String) (hline : line.utf8ByteSize ≤ maxLength) :
      (appendCall line calls.flatten).toList <+: (calls.foldl appendCall line).toList := by
    -- on the calls: up to the first that is cut both write the same, and then only the line grows
    induction calls generalizing line with
    | nil => exact List.prefix_rfl
    | cons pieces calls ih =>
      rw [List.flatten_cons, List.foldl_cons]
      by_cases hroom : HasRoom line pieces
      · rw [appendCall_append_of_hasRoom hroom, appendCall_of_hasRoom hroom]
        refine ih _ ?_
        rwa [String.utf8ByteSize_append]
      · rw [appendCall_append_of_not_hasRoom hroom _ hline]
        exact prefix_appendCalls _ calls
  exact key "" (by decide)

/-- **Only the last call is cut** if all the others have room. -/
theorem render_eq_kept (h : (fullText calls).utf8ByteSize ≤ maxLength) (last : List String) :
    render (calls ++ [last]) = kept (calls ++ [last]) := by
  have hkept : kept (calls ++ [last]) = appendCall (fullText calls) last := by
    have hwhole := appendCall_append_of_hasRoom (hasRoom_empty_iff.2 h) last
    rw [String.empty_append] at hwhole
    rw [kept, List.flatten_append, List.flatten_singleton]
    exact hwhole
  have hrender : render (calls ++ [last]) = appendCall (render calls) last := by
    rw [render, List.foldl_append]
    rfl
  rw [hkept, hrender, render_eq_fullText h]

/-- What is written after the first piece that does not fit. -/
def writtenAfter (calls : List (List String)) : List Char :=
  (render calls).toList.drop (kept calls).toList.length

/-- What of the text comes with and after the first piece that does not fit. -/
def missing (calls : List (List String)) : List Char :=
  (fullText calls).toList.drop (kept calls).toList.length

/-- **A line is a first part of the text** exactly if what is written after the first piece that
does not fit happens to be what is missing. -/
theorem render_prefix_iff (calls : List (List String)) :
    (render calls).toList <+: (fullText calls).toList ↔
      writtenAfter calls <+: missing calls := by
  have hrender := List.prefix_iff_eq_append.1 (kept_prefix_render calls)
  have hfull := List.prefix_iff_eq_append.1 (kept_prefix_fullText calls)
  rw [← hrender, ← hfull, List.prefix_append_right_inj]
  rfl

end MotionControl.Line
