import MotionControl.Program.Log
import MotionControl.Program.Session

/-!
# The program

Drives a bench from a script file or from the standard input, one command per tick, and prints
what the bench writes as soon as it is written.
-/

namespace MotionControl.Program

/-- Logs a message; a detail only if the options ask for details. -/
def log (options : BenchOptions) (level : LogLevel) (message : String) : IO Unit :=
  if level = .debug && !options.isVerbose then pure ()
  else IO.eprintln (LogEntry.line { level, message } options.logsJson)

/-- Reads the bytes of a line, without the line feed; there is none at the end. -/
partial def readLine (stream : IO.FS.Stream) (line : ByteArray) : IO (Option ByteArray) := do
  let next ← stream.read 1
  match next.data[0]? with
  | none => return if line.isEmpty then none else some line
  | some byte => if byte = 10 then return some line else readLine stream (line.push byte)

/-- Prints what a bench has written. -/
def print (bench : Bench) : IO Bench := do
  if !bench.written.isEmpty then
    let out ← IO.getStdout
    for line in bench.output do out.putStrLn line
    out.flush
  return { bench with written := [] }

/-- Goes on with a script until its run ends. -/
partial def drive (options : BenchOptions) (stream : IO.FS.Stream) (run : ScriptRun) :
    IO (Bench × Ending) := do
  let run := { run with bench := ← print run.bench }
  match run.demand options.tickLimit with
  | .stop timedOut => return (run.bench.conclude timedOut, .finished timedOut)
  | .tick => drive options stream run.pass
  | .line =>
    match ← readLine stream .empty with
    | none => drive options stream run.close
    | some bytes =>
      match String.fromUTF8? bytes with
      | none => return (run.bench, .unreadable)
      | some line => do
        log options .debug ("<- " ++ line)
        drive options stream (run.take line)

/-- Logs a fatal error, and exits. -/
def giveUp (options : BenchOptions) (error : FatalError) : IO UInt32 := do
  log options .error ("FATAL: " ++ error.message)
  return 1

/-- Logs how a run went. -/
def logRun (options : BenchOptions) (bench : Bench) (ending : Ending) : IO Unit := do
  let tally := bench.tally
  log options .info ("Run finished: ticks=" ++ toString tally.ticks ++
    ", commands=" ++ toString tally.commands ++ ", rejected=" ++ toString tally.rejected ++
    ", reports=" ++ toString tally.reports ++ ", failures=" ++ toString tally.failures)
  for axis in bench.machine.axes do
    log options .info (axis.settings.name.text ++ ": state=" ++ axis.state.name ++
      " homed=" ++ toString axis.isHomed ++
      " pos=" ++ String.join (volumePieces axis.position))
  log options .info ("Simulated " ++ toString bench.now ++ " ms")
  if ending = .finished true then
    log options .warn ("Work still outstanding after " ++ toString tally.ticks ++ " ticks")

/-- Runs a script on a bench. -/
def driveScript (options : BenchOptions) (stream : IO.FS.Stream) (bench : Bench) : IO UInt32 := do
  let (bench, ending) ← drive options stream { bench }
  if ending = .unreadable then giveUp options .unreadableScript
  else
    logRun options bench ending
    return ending.exitCode

/-- Does something with a file, if it can be had. -/
def attempt {α : Type} (action : IO α) : IO (Option α) :=
  try some <$> action catch _ => pure none

/-- Finds the script and runs it on a bench. -/
def findScript (options : BenchOptions) (bench : Bench) : IO UInt32 := do
  match options.script with
  | none =>
    log options .info "Reading commands from stdin"
    driveScript options (← IO.getStdin) bench
  | some path =>
    match ← attempt (IO.FS.Handle.mk path .read) with
    | none => giveUp options (.noFile path)
    | some handle => driveScript options (.ofHandle handle) bench

/-- Sets up a bench and runs its script. -/
def serve (options : BenchOptions) : IO UInt32 := do
  log options .info ("Loading config from " ++ options.config)
  let content ← attempt (IO.FS.readBinFile options.config)
  match content.bind String.fromUTF8? with
  | none => giveUp options (.noFile options.config)
  | some text =>
    match Bench.ofDescription text options.tickLength with
    | .error error => giveUp options (.setup error)
    | .ok bench => findScript options bench

end MotionControl.Program

open MotionControl in
/-- Runs the program with its arguments and gives its exit code. -/
def main (arguments : List String) : IO UInt32 := do
  match Invocation.ofArguments arguments with
  | .help =>
    for line in Program.help do IO.println line
    return 0
  | .version =>
    IO.println Program.version
    return 0
  | .invalid error =>
    IO.eprintln ("error: " ++ error.message)
    return 2
  | .bench options =>
    try Program.serve options
    catch _ => Program.giveUp options .unreadableScript
