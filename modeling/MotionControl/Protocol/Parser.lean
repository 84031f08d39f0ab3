import MotionControl.Numeric.Numeral
import MotionControl.Protocol.Command
import MotionControl.Text.Words

/-!
# Reading commands

A line is read word by word: a keyword, then the arguments that the keyword takes. Keywords and
move modes compare without case, axis names are kept as they are, and numbers are finite decimal
numerals. Of several problems the leftmost is reported.

* `Command.ofWords` reads a list of words.
* `Command.parse` reads a line; only the words of the line matter.
-/

namespace MotionControl

/-- Why a line is no command. -/
inductive ParseError where
  /-- The line has no words. -/
  | empty
  /-- The first word is no keyword. -/
  | unknownCommand
  /-- The keyword takes more arguments than there are. -/
  | missingArgument
  /-- A word in the place of a number is no finite decimal numeral. -/
  | invalidNumber
  /-- A word in the place of a move mode is neither `abs` nor `inc`. -/
  | invalidMode
  /-- A word in the place of an axis name has too many bytes. -/
  | nameTooLong
  /-- The keyword takes fewer arguments than there are. -/
  | trailingArguments
deriving DecidableEq, Repr

namespace ParseError

/-- The word for an error in a reply. -/
def token : ParseError → String
  | empty => "empty"
  | unknownCommand => "unknown_command"
  | missingArgument => "missing_argument"
  | invalidNumber => "invalid_number"
  | invalidMode => "invalid_mode"
  | nameTooLong => "name_too_long"
  | trailingArguments => "trailing_arguments"

end ParseError

/-- The first word of a command. -/
inductive Keyword where
  | move | home | abort | enable | disable | clear
  | inject | purge | pause | resume | cancel | status
deriving DecidableEq, Repr

namespace Keyword

def token : Keyword → String
  | move => "move"
  | home => "home"
  | abort => "abort"
  | enable => "enable"
  | disable => "disable"
  | clear => "clear"
  | inject => "inject"
  | purge => "purge"
  | pause => "pause"
  | resume => "resume"
  | cancel => "cancel"
  | status => "status"

def all : List Keyword :=
  [move, home, abort, enable, disable, clear, inject, purge, pause, resume, cancel, status]

/-- The keyword that a word spells, without regard to case. -/
def ofString? (word : String) : Option Keyword := all.find? (·.token == foldCase word)

end Keyword

/-- A single precision number in decimal, as long as it is finite. -/
def Single.parseFinite? (text : String) : Option Single :=
  match Numeral.parse? text.toList with
  | some numeral => if numeral.toSingle.isFinite then some numeral.toSingle else none
  | none => none

/-- The move mode that a word spells, without regard to case. -/
def MoveMode.ofString? (word : String) : Option MoveMode :=
  if foldCase word = "abs" then some .absolute
  else if foldCase word = "inc" then some .incremental
  else none

/-- Reads arguments off the front of a list of words. -/
abbrev ArgumentReader := StateT (List String) (Except ParseError)

namespace ArgumentReader

/-- Takes the next word and reads it with `read?`; a word that `read?` refuses is an `error`. -/
def argument {α : Type} (read? : String → Option α) (error : ParseError) : ArgumentReader α := do
  match ← get with
  | [] => throw .missingArgument
  | word :: rest =>
    match read? word with
    | none => throw error
    | some value =>
      set rest
      return value

def axis : ArgumentReader Label := argument Label.ofString? .nameTooLong

def mode : ArgumentReader MoveMode := argument MoveMode.ofString? .invalidMode

def number : ArgumentReader Single := argument Single.parseFinite? .invalidNumber

/-- The arguments of a dispense command. -/
def dispense (kind : DispenseKind) : ArgumentReader Command := do
  return .dispense
    { kind, volume := ← number, speed := ← number, accel := ← number, torque := ← number }

/-- The arguments that a keyword takes. -/
def arguments : Keyword → ArgumentReader Command
  | .move => do
    return .move (← axis)
      { mode := ← mode, target := ← number, velocity := ← number, accel := ← number,
        torque := ← number }
  | .home => do return .home (← axis) (← number) (← number)
  | .abort => do return .abort (← axis)
  | .enable => do return .enable (← axis)
  | .disable => do return .disable (← axis)
  | .clear => do return .clearFault (← axis)
  | .inject => dispense .inject
  | .purge => dispense .purge
  | .pause => return .pause
  | .resume => return .resume
  | .cancel => return .cancel
  | .status => return .status

end ArgumentReader

namespace Command

/-- Reads the words of a line as a command. -/
def ofWords : List String → Except ParseError Command
  | [] => .error .empty
  | word :: rest => do
    match Keyword.ofString? word with
    | none => throw .unknownCommand
    | some keyword =>
      let (command, rest) ← (ArgumentReader.arguments keyword).run rest
      if rest.isEmpty then return command else throw .trailingArguments

/-- Reads a line as a command. -/
def parse (line : String) : Except ParseError Command := ofWords (words line)

end Command

end MotionControl
