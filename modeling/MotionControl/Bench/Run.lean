import MotionControl.Bench.Script
import MotionControl.Bench.Setup
import MotionControl.Machine.Tick

/-!
# Running a bench

A `Bench` drives a machine with simulated channels: each tick takes at most one command, lets the
machine update itself, writes what there is to tell, and lets the channels move for the length of
a tick.

* `Bench.tick` is one tick.
* `ScriptRun.demand` tells what a run of a script needs next: it stops, passes a tick, or wants a
  line.
* `Bench.run` runs a whole script. Comments, empty lines and waits take no tick of their own.
-/

namespace MotionControl

/-- What a bench counts. -/
structure Tally where
  ticks : Nat := 0
  /-- Lines that were handed to the machine as commands. -/
  commands : Nat := 0
  /-- Commands that were refused and lines that could not be read. -/
  rejected : Nat := 0
  reports : Nat := 0
  /-- Reports that tell of a failure. -/
  failures : Nat := 0
  /-- Whether the limit of ticks has left work undone, in the last run that came to it. -/
  timedOut : Bool := false
deriving DecidableEq, Repr

/-- A machine with simulated channels, its clock and what it has written. -/
structure Bench where
  machine : Machine SimulatedChannel
  /-- The length of a tick in milliseconds. -/
  tickLength : Nat
  /-- The time in milliseconds. -/
  now : Nat := 0
  tally : Tally := {}
  /-- The lines written, last one first. -/
  written : List String := []

namespace Bench

/-- The bench that a description sets up, with ticks of at least one millisecond. -/
def ofSetup (setup : BenchSetup) (tickLength : Nat) : Except SettingsError Bench := do
  let makeChannel (axis : AxisSettings) (channel : Nat) : Id SimulatedChannel :=
    .ofPosition (setup.mechanicsOf axis channel) 0
  let machine ← (Machine.ofSettings makeChannel setup.settings).run
  return { machine, tickLength := max tickLength 1 }

/-- The lines written, in order. -/
def output (bench : Bench) : List String := bench.written.reverse

def write (line : String) (bench : Bench) : Bench :=
  { bench with written := line :: bench.written }

/-! ## One tick -/

/-- Writes the answer to a command or a line. -/
def answer (bench : Bench) : Reply → Bench
  | .accepted => bench.write Reply.accepted.line
  | .rejected reason =>
    { bench.write (Reply.rejected reason).line with
      tally := { bench.tally with rejected := bench.tally.rejected + 1 } }

/-- Reads a line as a command. A line that is none is answered at once. -/
def readCommand (line : String) (bench : Bench) : Bench × Option Command :=
  match Command.parse line with
  | .ok command =>
    ({ bench with tally := { bench.tally with commands := bench.tally.commands + 1 } },
      some command)
  | .error error => (bench.answer (.rejected error.token), none)

/-- Writes the report of an event. -/
def publish (bench : Bench) (event : MachineEvent) : Bench :=
  let report := bench.machine.report event
  let failures := if report.isError || event.isFault then 1 else 0
  { bench.write report.line with
    tally := { bench.tally with
      reports := bench.tally.reports + 1
      failures := bench.tally.failures + failures } }

/-- Writes the status of the machine. -/
def writeStatus (bench : Bench) : Bench :=
  bench.machine.statusLines.foldl (fun bench line => bench.write line) bench

/-- Lets the machine tick, and writes the answer, the reports and the status if it is due. -/
def update (command : Option Command) (bench : Bench) : Bench :=
  let (machine, output) := bench.machine.tick bench.now command
  let bench := { bench with machine }
  let bench := output.replyMessage.elim bench bench.answer
  let bench := output.events.foldl publish bench
  if output.telemetryDue then bench.writeStatus else bench

/-- Lets the channels move for the length of a tick. -/
def passTime (bench : Bench) : Bench :=
  { bench with
    machine := bench.machine.mapChannels (·.advance bench.tickLength)
    now := bench.now + bench.tickLength
    tally := { bench.tally with ticks := bench.tally.ticks + 1 } }

/-- One tick, with a line to read as a command or without. -/
def tick (line : Option String) (bench : Bench) : Bench :=
  match line with
  | none => (bench.update none).passTime
  | some line =>
    let (bench, command) := bench.readCommand line
    (bench.update command).passTime

/-- Notes the verdict of a run. -/
def conclude (timedOut : Bool) (bench : Bench) : Bench :=
  { bench with tally := { bench.tally with timedOut } }

end Bench

/-! ## Running a script -/

/-- A bench on the way through a script. -/
structure ScriptRun where
  bench : Bench
  /-- What the script waits for. -/
  hold : Option Hold := none
  /-- Whether the end of the script was found. -/
  isEnded : Bool := false

/-- What a run needs to go on. -/
inductive Demand where
  /-- Nothing: the run is over, with the verdict whether the limit has left work undone. -/
  | stop (timedOut : Bool)
  /-- A tick without a command. -/
  | tick
  /-- The next line of the script. -/
  | line
deriving DecidableEq, Repr

namespace ScriptRun

/-- Whether the script has to wait. -/
def isHeld (run : ScriptRun) : Bool :=
  match run.hold with
  | none => false
  | some .untilQuiescent => !run.bench.machine.isQuiescent
  | some (.untilTime time) => run.bench.now < time

/-- Whether the limit of ticks is reached. -/
def isSpent (limit : Option Nat) (run : ScriptRun) : Bool :=
  limit.any (· ≤ run.bench.tally.ticks)

/-- What a run needs next. The limit counts before anything else, and a hold before the rest of the
script. There is a new verdict at the limit only; at the end of the script the last one stays. -/
def demand (limit : Option Nat) (run : ScriptRun) : Demand :=
  if run.isSpent limit then .stop (!run.isEnded || !run.bench.machine.isQuiescent)
  else if run.isHeld then .tick
  else if !run.isEnded then .line
  else if run.bench.machine.isQuiescent then .stop run.bench.tally.timedOut
  else .tick

/-- Passes a tick without a command. -/
def pass (run : ScriptRun) : ScriptRun := { run with bench := run.bench.tick none }

/-- Takes the next line of the script, which is not held any more. -/
def take (line : String) (run : ScriptRun) : ScriptRun :=
  match ScriptLine.read run.bench.now line with
  | .blank => { run with hold := none }
  | .wait hold => { run with hold := some hold }
  | .malformed error =>
    { run with bench := run.bench.answer (.rejected error.token), hold := none }
  | .command text => { run with bench := run.bench.tick (some text), hold := none }

/-- Takes note of the end of the script. -/
def close (run : ScriptRun) : ScriptRun := { run with hold := none, isEnded := true }

end ScriptRun

/-- How a run of a script ends. -/
inductive Ending where
  /-- The script is done, or the limit of ticks is reached. -/
  | finished (timedOut : Bool)
  /-- A line of the script is not text. -/
  | unreadable
  /-- The run was not let go on for long enough. -/
  | unfinished
deriving DecidableEq, Repr

/-- What there is to say about a script that is not text. -/
def Ending.unreadableMessage : String := "i/o error: stream did not contain valid UTF-8"

namespace ScriptRun

/-- Goes on with a script for at most `n` demands. -/
def runFor (limit : Option Nat) : Nat → List (Option String) → ScriptRun → Bench × Ending
  | 0, _, run => (run.bench, .unfinished)
  | n + 1, script, run =>
    match run.demand limit with
    | .stop timedOut => (run.bench.conclude timedOut, .finished timedOut)
    | .tick => runFor limit n script run.pass
    | .line =>
      match script with
      | [] => runFor limit n [] run.close
      | none :: _ => (run.bench, .unreadable)
      | some line :: rest => runFor limit n rest (run.take line)

end ScriptRun

namespace Bench

/-- Runs a script, whose lines are none where they are not text. Each demand but the last passes a
tick, takes a line or finds the end of the script. Without a limit, the clock is one: it has room
for `clockEnd` ticks. -/
def run (script : List (Option String)) (limit : Option Nat) (bench : Bench) : Bench × Ending :=
  ScriptRun.runFor limit (limit.getD clockEnd + script.length + 2) script { bench }

end Bench

end MotionControl
