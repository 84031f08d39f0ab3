import MotionControl.Toml.Scalar

/-!
# TOML strings and keys

A string is basic (in double quotes, with escapes) or literal (in single quotes), on one line or,
with three quotes, on several. A line ends in a line feed or in a carriage return and a line feed,
and a string keeps the line ends that it holds. A key is bare or a string on one line; keys joined
by points make a path.

Each reader takes the characters after the opening quote and returns what it has read together
with the characters that follow.
-/

namespace MotionControl.Toml

/-- Control characters other than the tab do not stand in strings and comments. -/
def isControl (c : Char) : Bool := (c.toNat < 0x20 && c != '\t') || c.toNat == 0x7f

/-! ## Escapes -/

/-- Splits off a character given by its code point in `n` hexadecimal digits. -/
def codePoint? (n : Nat) (text : List Char) : Option (Char × List Char) := do
  let digits ← (text.take n).mapM (digitValue? 16)
  let code := ofDigits 16 digits
  if digits.length = n ∧ code.isValidChar then some (Char.ofNat code, text.drop n) else none

/-- Splits off what follows a backslash. -/
def escape? : List Char → Option (Char × List Char)
  | 'b' :: rest => some ('\x08', rest)
  | 't' :: rest => some ('\t', rest)
  | 'n' :: rest => some ('\n', rest)
  | 'f' :: rest => some ('\x0c', rest)
  | 'r' :: rest => some ('\r', rest)
  | 'e' :: rest => some ('\x1b', rest)
  | '"' :: rest => some ('"', rest)
  | '\\' :: rest => some ('\\', rest)
  | 'x' :: rest => codePoint? 2 rest
  | 'u' :: rest => codePoint? 4 rest
  | 'U' :: rest => codePoint? 8 rest
  | _ => none

/-! ## Strings on one line -/

/-- Reads a basic string; `room` bounds its length. -/
def basicString? (acc : List Char) : Nat → List Char → Option (String × List Char)
  | 0, _ => none
  | room + 1, text =>
    match text with
    | [] => none
    | '"' :: rest => some (String.ofList acc.reverse, rest)
    | '\\' :: rest => do
      let (c, rest) ← escape? rest
      basicString? (c :: acc) room rest
    | c :: rest => if isControl c then none else basicString? (c :: acc) room rest

/-- Reads a literal string. -/
def literalString? (text : List Char) : Option (String × List Char) :=
  let body := text.takeWhile (· != '\'')
  match text.dropWhile (· != '\'') with
  | [] => none
  | _ :: rest => if body.any isControl then none else some (String.ofList body, rest)

/-! ## Strings on several lines -/

/-- Drops spaces and tabs. -/
def dropBlanks (text : List Char) : List Char := text.dropWhile fun c => c == ' ' || c == '\t'

/-- Splits off a line end. A carriage return is part of one only before a line feed. -/
def lineEnd? : List Char → Option (List Char × List Char)
  | '\n' :: rest => some (['\n'], rest)
  | '\r' :: '\n' :: rest => some (['\r', '\n'], rest)
  | _ => none

/-- Drops a line end right after the opening quotes. -/
def dropFirstLineEnd (text : List Char) : List Char :=
  match lineEnd? text with
  | some (_, rest) => rest
  | none => text

/-- Drops blanks and line ends. -/
def dropSpace : List Char → List Char
  | ' ' :: rest | '\t' :: rest | '\n' :: rest | '\r' :: '\n' :: rest => dropSpace rest
  | rest => rest

/-- Drops what a backslash at the end of a line joins: blanks, the line end, and all further blanks
and line ends. -/
def joinLines? (text : List Char) : Option (List Char) :=
  (lineEnd? (dropBlanks text)).map fun (_, rest) => dropSpace rest

/-- Splits off the closing quotes. One or two quotes right before them belong to the text. -/
def closing? (quote : Char) (text : List Char) : Option (List Char × List Char) :=
  let quotes := text.takeWhile (· == quote)
  if quotes.length < 3 then none
  else
    let kept := min (quotes.length - 3) 2
    some (quotes.take kept, text.drop (kept + 3))

/-- Reads a string on several lines; `room` bounds its length. -/
def multilineString? (quote : Char) (acc : List Char) :
    Nat → List Char → Option (String × List Char)
  | 0, _ => none
  | room + 1, text =>
    match closing? quote text with
    | some (kept, rest) => some (String.ofList (acc.reverse ++ kept), rest)
    | none =>
      match lineEnd? text, text with
      | some (mark, rest), _ => multilineString? quote (mark.reverse ++ acc) room rest
      | none, [] => none
      | none, c :: rest =>
        if c = '\\' ∧ quote = '"' then
          match joinLines? rest with
          | some rest => multilineString? quote acc room rest
          | none => do
            let (c, rest) ← escape? rest
            multilineString? quote (c :: acc) room rest
        else if isControl c then none
        else multilineString? quote (c :: acc) room rest

/-- Reads a string from its opening quotes on; nothing if the text starts with no quote. -/
def string? (text : List Char) : Option (String × List Char) :=
  match text with
  | '"' :: '"' :: '"' :: rest =>
    multilineString? '"' [] (rest.length + 1) (dropFirstLineEnd rest)
  | '\'' :: '\'' :: '\'' :: rest =>
    multilineString? '\'' [] (rest.length + 1) (dropFirstLineEnd rest)
  | '"' :: rest => basicString? [] (rest.length + 1) rest
  | '\'' :: rest => literalString? rest
  | _ => none

/-! ## Keys -/

/-- Letters, digits, underscores and dashes of ASCII make bare keys. -/
def isBareKey (c : Char) : Bool := c.isAlphanum || c == '_' || c == '-'

/-- Reads one key. -/
def key? (text : List Char) : Option (String × List Char) :=
  match text with
  | '"' :: rest => basicString? [] (rest.length + 1) rest
  | '\'' :: rest => literalString? rest
  | _ =>
    let name := text.takeWhile isBareKey
    if name.isEmpty then none else some (String.ofList name, text.dropWhile isBareKey)

/-- Reads at most `room` keys joined by points. -/
def pathWithin? : Nat → List Char → Option (List String × List Char)
  | 0, _ => none
  | room + 1, text => do
    let (key, rest) ← key? (dropBlanks text)
    match dropBlanks rest with
    | '.' :: rest =>
      let (keys, rest) ← pathWithin? room rest
      return (key :: keys, rest)
    | rest => return ([key], rest)

/-- The number of keys that a path may have. -/
def maxPathLength : Nat := 80

/-- Reads a path. -/
def path? (text : List Char) : Option (List String × List Char) := pathWithin? maxPathLength text

end MotionControl.Toml
