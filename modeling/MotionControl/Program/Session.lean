import MotionControl.Bench.Run
import MotionControl.Program.Arguments
import MotionControl.Program.Host

/-!
# A session of the program

The program sets up a bench, runs a script on it and prints what the bench writes. It exits with 0
when it is done, with 1 after a fatal error, and with 2 if the limit of ticks leaves work undone or
the arguments are wrong.

* `Program.run` is a session as a function of the files and the standard input.
-/

namespace MotionControl

/-- Why the program gives up. -/
inductive FatalError where
  /-- A file is not there or is not text. -/
  | noFile (path : String)
  /-- The description of the bench is refused. -/
  | setup (error : SetupError)
  /-- The script is not text. -/
  | unreadableScript
deriving DecidableEq, Repr

namespace FatalError

def message : FatalError → String
  | noFile path => "failed to read " ++ path
  | setup error => error.message
  | unreadableScript => Ending.unreadableMessage

end FatalError

/-- The bench that a description sets up. -/
def Bench.ofDescription (text : String) (tickLength : Nat) : Except SetupError Bench := do
  (Bench.ofSetup (← BenchSetup.parse text) tickLength).mapError .settings

/-- The code with which the program exits after a run. -/
def Ending.exitCode : Ending → UInt32
  | finished false => 0
  | finished true | unfinished => 2
  | unreadable => 1

/-- The lines of the script that the options name. -/
def Host.script (host : Host) (options : BenchOptions) :
    Except FatalError (List (Option String)) :=
  match options.script with
  | none => .ok (scriptLines host.input)
  | some path =>
    match host.lines? path with
    | none => .error (.noFile path)
    | some lines => .ok lines

namespace Program

/-- What the program prints when it is asked for its version. -/
def version : String := "aliquot-bench 0.1.0"

/-- What the program prints when it is asked for help. -/
def help : List String :=
  ["Drive the Aliquot motion core on simulated channels",
    "",
    "Usage: aliquot-bench [OPTIONS]",
    "",
    "Options:",
    "      --config <CONFIG>        Bench configuration TOML " ++
      "(machine plus simulated mechanics) [default: config/bench.toml]",
    "      --script <FILE>          Command script, one protocol line per tick. " ++
      "Reads stdin when absent",
    "      --tick-ms <TICK_MS>      Simulated time per tick in milliseconds [default: 10]",
    "      --max-ticks <MAX_TICKS>  Stop after this many ticks",
    "  -v, --verbose                Enable verbose logging (DEBUG level)",
    "      --json                   Output logs in JSON format",
    "  -h, --help                   Print help",
    "  -V, --version                Print version"]

/-- Sets up a bench and runs its script. The description is read and checked before the script is
looked for. -/
def runBench (host : Host) (options : BenchOptions) : Except FatalError (Bench × Ending) := do
  match host.text? options.config with
  | none => throw (.noFile options.config)
  | some text =>
    let bench ← (Bench.ofDescription text options.tickLength).mapError .setup
    let script ← (host.afterReading options.config).script options
    return bench.run script options.tickLimit

/-- A session: the exit code and the lines printed. -/
def run (host : Host) (arguments : List String) : UInt32 × List String :=
  match Invocation.ofArguments arguments with
  | .help => (0, help)
  | .version => (0, [version])
  | .invalid _ => (2, [])
  | .bench options =>
    match runBench host options with
    | .error _ => (1, [])
    | .ok (bench, ending) => (ending.exitCode, bench.output)

end Program

end MotionControl
