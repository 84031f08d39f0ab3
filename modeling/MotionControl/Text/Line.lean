/-!
# Lines of bounded length

A line is written by formatting calls, each a list of pieces. A piece that does not fit into what
is left of the line is dropped together with the rest of its call; the next call goes on from
where the line stands.

* `Line.render` is the written line.
* `Line.fullText` is what the calls would write with unlimited room.
-/

namespace MotionControl.Line

/-- The most bytes in a line. -/
def maxLength : Nat := 160

/-- Appends pieces while they fit whole. -/
def appendCall (line : String) : List String → String
  | [] => line
  | piece :: rest =>
    if line.utf8ByteSize + piece.utf8ByteSize ≤ maxLength then appendCall (line ++ piece) rest
    else line

/-- The line that a sequence of formatting calls writes. -/
def render (calls : List (List String)) : String := calls.foldl appendCall ""

/-- All pieces of all calls. -/
def fullText (calls : List (List String)) : String := String.join calls.flatten

end MotionControl.Line
