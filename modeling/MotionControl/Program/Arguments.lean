import MotionControl.Numeric.Whole

/-!
# Arguments of the program

Options with a value are written `--name=value` or `--name value`, where a value of its own does
not start with a dash unless it is one. Switches are written `--name`, and some of them as letters
after a single dash. No option may be given twice, and nothing else is expected.

* `Invocation.ofArguments` reads the arguments from left to right. The first thing that is wrong,
  or that asks for help or for the version, decides.
-/

namespace MotionControl

/-- How a bench is to be run. -/
structure BenchOptions where
  /-- The file with the description of the bench. -/
  config : String := "config/bench.toml"
  /-- The file with the script; without one the standard input is the script. -/
  script : Option String := none
  /-- The length of a tick in milliseconds. -/
  tickLength : Nat := 10
  /-- The run stops after this many ticks. -/
  tickLimit : Option Nat := none
  /-- Whether details are logged. -/
  isVerbose : Bool := false
  /-- Whether log entries are written as JSON. -/
  logsJson : Bool := false
deriving DecidableEq, Repr

/-- An option with a value. -/
inductive Setting where
  | config | script | tickLength | tickLimit
deriving DecidableEq, Repr

namespace Setting

def all : List Setting := [config, script, tickLength, tickLimit]

/-- The name of an option on the command line. -/
def name : Setting → String
  | config => "config"
  | script => "script"
  | tickLength => "tick-ms"
  | tickLimit => "max-ticks"

/-- What stands for the value of an option in a message. -/
def placeholder : Setting → String
  | config => "CONFIG"
  | script => "FILE"
  | tickLength => "TICK_MS"
  | tickLimit => "MAX_TICKS"

def usage (setting : Setting) : String :=
  "--" ++ setting.name ++ " <" ++ setting.placeholder ++ ">"

def ofName? (name : String) : Option Setting := all.find? (·.name == name)

/-- Sets an option to a value, if that is one for it: a path is not empty, and a number has 32
bits for a length and 64 bits for a limit. -/
def assign? (value : String) (options : BenchOptions) : Setting → Option BenchOptions
  | config => if value.isEmpty then none else some { options with config := value }
  | script => if value.isEmpty then none else some { options with script := some value }
  | tickLength =>
    (parseInteger? UInt32.size value).map fun length => { options with tickLength := length }
  | tickLimit =>
    (parseWhole? UInt64.size value).map fun limit => { options with tickLimit := some limit }

end Setting

/-- An option without a value. -/
inductive Switch where
  | verbose | json | help | version
deriving DecidableEq, Repr

namespace Switch

def all : List Switch := [verbose, json, help, version]

/-- The name of a switch on the command line. -/
def name : Switch → String
  | verbose => "verbose"
  | json => "json"
  | help => "help"
  | version => "version"

/-- The letter of a switch, if it has one. -/
def letter? : Switch → Option Char
  | verbose => some 'v'
  | json => none
  | help => some 'h'
  | version => some 'V'

def usage (switch : Switch) : String := "--" ++ switch.name

def ofName? (name : String) : Option Switch := all.find? (·.name == name)

def ofLetter? (letter : Char) : Option Switch := all.find? (·.letter? == some letter)

end Switch

/-- What is wrong with the arguments. -/
inductive ArgumentError where
  /-- An argument that the program does not have. -/
  | unexpected (argument : String)
  /-- An option without its value. -/
  | missingValue (usage : String)
  /-- A value that is none for its option. -/
  | invalidValue (value usage : String)
  /-- A value for a switch. -/
  | unneededValue (value usage : String)
  /-- An option that is given twice. -/
  | repeated (usage : String)
deriving DecidableEq, Repr

namespace ArgumentError

def message : ArgumentError → String
  | unexpected argument => "unexpected argument '" ++ argument ++ "' found"
  | missingValue usage => "a value is required for '" ++ usage ++ "' but none was supplied"
  | invalidValue value usage => "invalid value '" ++ value ++ "' for '" ++ usage ++ "'"
  | unneededValue value usage =>
    "unexpected value '" ++ value ++ "' for '" ++ usage ++ "' found; no more were expected"
  | repeated usage => "the argument '" ++ usage ++ "' cannot be used multiple times"

end ArgumentError

/-- What the program is asked for. -/
inductive Invocation where
  | bench (options : BenchOptions)
  | help
  | version
  | invalid (error : ArgumentError)
deriving DecidableEq, Repr

/-- The form of an argument. -/
inductive Argument where
  /-- Two dashes, after which no option follows. -/
  | separator
  /-- The name of an option, and what follows an equals sign. -/
  | long (name : String) (value : Option String)
  /-- Letters of switches. -/
  | letters (letters : List Char)
  /-- Neither: a value of the option before, if that needs one. -/
  | word
deriving DecidableEq, Repr

/-- The form of an argument: a dash alone is a word. -/
def Argument.ofString (text : String) : Argument :=
  match text.toList with
  | ['-', '-'] => separator
  | '-' :: '-' :: rest =>
    let name := String.ofList (rest.takeWhile (· != '='))
    match rest.dropWhile (· != '=') with
    | [] => long name none
    | _ :: value => long name (some (.ofList value))
  | '-' :: letter :: rest => letters (letter :: rest)
  | _ => word

/-- What was read of the arguments so far. -/
structure GivenOptions where
  options : BenchOptions := {}
  settings : List Setting := []
  switches : List Switch := []
  /-- The option whose value comes next. -/
  awaiting : Option Setting := none
  /-- Whether a separator was given. -/
  isSeparated : Bool := false
deriving DecidableEq, Repr

namespace GivenOptions

/-- Sets an option to a value. -/
def set (setting : Setting) (value : String) (given : GivenOptions) :
    Except Invocation GivenOptions :=
  if setting ∈ given.settings then .error (.invalid (.repeated setting.usage))
  else
    match setting.assign? value given.options with
    | none => .error (.invalid (.invalidValue value setting.usage))
    | some options =>
      .ok { given with options, settings := setting :: given.settings, awaiting := none }

/-- Takes note of a switch. Help and version leave no choice. -/
def turnOn (given : GivenOptions) (switch : Switch) : Except Invocation GivenOptions :=
  if switch ∈ given.switches then .error (.invalid (.repeated switch.usage))
  else
    let given := { given with switches := switch :: given.switches }
    match switch with
    | .help => .error .help
    | .version => .error .version
    | .verbose => .ok { given with options := { given.options with isVerbose := true } }
    | .json => .ok { given with options := { given.options with logsJson := true } }

/-- Takes note of a switch by its letter. -/
def turnOnLetter (given : GivenOptions) (letter : Char) : Except Invocation GivenOptions :=
  match Switch.ofLetter? letter with
  | none => .error (.invalid (.unexpected ("-" ++ letter.toString)))
  | some switch => given.turnOn switch

/-- Reads an option by its name, with the value that is attached to it. -/
def readOption (given : GivenOptions) (name : String) (attached : Option String) :
    Except Invocation GivenOptions :=
  match Switch.ofName? name, Setting.ofName? name, attached with
  | some switch, _, none => given.turnOn switch
  | some switch, _, some value => .error (.invalid (.unneededValue value switch.usage))
  | none, some setting, none => .ok { given with awaiting := some setting }
  | none, some setting, some value => given.set setting value
  | none, none, _ => .error (.invalid (.unexpected ("--" ++ name)))

/-- Reads the next argument. -/
def read (given : GivenOptions) (argument : String) : Except Invocation GivenOptions :=
  if given.isSeparated then .error (.invalid (.unexpected argument))
  else
    match given.awaiting, Argument.ofString argument with
    | some setting, .word => given.set setting argument
    | some setting, _ => .error (.invalid (.missingValue setting.usage))
    | none, .word => .error (.invalid (.unexpected argument))
    | none, .separator => .ok { given with isSeparated := true }
    | none, .letters letters => letters.foldlM turnOnLetter given
    | none, .long name attached => given.readOption name attached

/-- What the arguments ask for, once all are read. -/
def finish (given : GivenOptions) : Invocation :=
  match given.awaiting with
  | none => .bench given.options
  | some setting => .invalid (.missingValue setting.usage)

end GivenOptions

/-- Reads the arguments of the program. -/
def Invocation.ofArguments (arguments : List String) : Invocation :=
  match arguments.foldlM GivenOptions.read {} with
  | .ok given => given.finish
  | .error other => other

end MotionControl
