import MotionControl.Axis.Homing
import MotionControl.Numeric.Whole
import MotionControl.Protocol.Parser

/-!
# Scripts

A script has one command per line. What follows a `#` is a comment, and white space around a line
does not count. A line `wait` holds the script until the machine is quiescent, and a line
`wait MS` holds it for some milliseconds.

* `ScriptLine.read` tells what a line asks for.
* `scriptLines` splits a text into lines.
-/

namespace MotionControl

/-- What holds a script. -/
inductive Hold where
  /-- Until nothing is in motion. -/
  | untilQuiescent
  /-- Until an instant of the clock. -/
  | untilTime (time : Nat)
deriving DecidableEq, Repr

/-- What a line of a script asks for. -/
inductive ScriptLine where
  /-- The line is empty, or a comment. -/
  | blank
  /-- The line holds the script. -/
  | wait (hold : Hold)
  /-- The line is meant to hold the script, but has a wrong argument. -/
  | malformed (error : ParseError)
  /-- The line is a command for the machine. -/
  | command (text : String)
deriving DecidableEq, Repr

namespace ScriptLine

/-- The line without its comment and the white space around it. -/
def content (line : String) : String :=
  .ofList (trim (line.toList.takeWhile (· != '#')))

/-- Reads the arguments of a wait that starts at `now`. -/
def readWait (now : Nat) : List String → ScriptLine
  | [] => wait .untilQuiescent
  | [duration] =>
    match parseWhole? UInt64.size duration with
    | some duration => wait (.untilTime (later now duration))
    | none => malformed .invalidNumber
  | _ => malformed .trailingArguments

/-- Reads a line at the time `now`. -/
def read (now : Nat) (line : String) : ScriptLine :=
  let text := content line
  match words text with
  | [] => blank
  | word :: rest => if foldCase word = "wait" then readWait now rest else command text

end ScriptLine

/-- Splits bytes at each line feed; `line` holds the bytes of the current line, last one first. A
line feed at the very end starts no further line. -/
def splitLines (line : List UInt8) : List UInt8 → List (List UInt8)
  | [] => if line.isEmpty then [] else [line.reverse]
  | byte :: rest =>
    if byte = 10 then line.reverse :: splitLines [] rest else splitLines (byte :: line) rest

/-- The lines of a script; a line that is not UTF-8 is none. -/
def scriptLines (bytes : ByteArray) : List (Option String) :=
  (splitLines [] bytes.toList).map fun line => String.fromUTF8? ⟨line.toArray⟩

end MotionControl
