/-!
# Log entries

The program logs to the standard error output, so that the standard output holds nothing but
lines of the protocol. An entry is written as plain text or as an object of JSON.
-/

namespace MotionControl

/-- How much an entry matters. -/
inductive LogLevel where
  | debug | info | warn | error
deriving DecidableEq, Repr

def LogLevel.label : LogLevel → String
  | debug => "DEBUG"
  | info => "INFO"
  | warn => "WARN"
  | error => "ERROR"

/-- A message of the program about itself. -/
structure LogEntry where
  level : LogLevel
  message : String
deriving DecidableEq, Repr

namespace LogEntry

/-- A character within a string of JSON. -/
def escape (c : Char) : String :=
  if c = '"' then "\\\""
  else if c = '\\' then "\\\\"
  else if c.toNat < 0x20 then
    "\\u00" ++ String.ofList [Nat.digitChar (c.toNat / 16), Nat.digitChar (c.toNat % 16)]
  else c.toString

def quote (text : String) : String := "\"" ++ String.join (text.toList.map escape) ++ "\""

/-- The line of an entry. -/
def line (entry : LogEntry) (asJson : Bool) : String :=
  if asJson then
    "\x7b\"level\":" ++ quote entry.level.label ++ ",\"message\":" ++ quote entry.message ++
      "\x7d"
  else entry.level.label ++ " " ++ entry.message

end LogEntry

end MotionControl
