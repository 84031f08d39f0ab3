import MotionControl.Toml.Document
import MotionControl.Toml.Text

/-!
# Reading TOML documents

`document?` reads a text as a TOML document, the table of all its keys. A document is a sequence
of lines that hold a header or an assignment or neither, and may end in a comment.
-/

namespace MotionControl.Toml

/-! ## Space and comments -/

/-- Skips blanks, line ends and comments; `inComment` tells whether a comment has begun. -/
def skipSpace? (inComment : Bool) : List Char → Option (List Char)
  | [] => some []
  | '\n' :: rest => skipSpace? false rest
  | '\r' :: '\n' :: rest => skipSpace? false ('\n' :: rest)
  | c :: rest =>
    if inComment then if isControl c then none else skipSpace? true rest
    else if c = ' ' ∨ c = '\t' then skipSpace? false rest
    else if c = '#' then skipSpace? true rest
    else some (c :: rest)

/-- Skips the rest of a line, which holds nothing but a comment, and further space. -/
def endLine? (text : List Char) : Option (List Char) :=
  match dropBlanks text with
  | [] => some []
  | c :: rest => if c = '\n' ∨ c = '\r' ∨ c = '#' then skipSpace? false (c :: rest) else none

/-! ## Values -/

/-- The number of arrays and tables in braces that may stand in each other. -/
def maxNesting : Nat := 80

/-- The characters that an unquoted scalar goes on with. -/
def isScalar (c : Char) : Bool :=
  !(c == ' ' || c == '\t' || c == '\n' || c == '\r' || c == ',' || c == ']' || c == '}' ||
    c == '#')

/-- Splits off an unquoted scalar. After a date, a space and a time belong to it. -/
def splitScalar (text : List Char) : List Char × List Char :=
  let first := text.takeWhile isScalar
  match text.dropWhile isScalar with
  | ' ' :: c :: rest =>
    if c.isDigit ∧ splitDate? first = some [] then
      (first ++ ' ' :: (c :: rest).takeWhile isScalar, (c :: rest).dropWhile isScalar)
    else (first, ' ' :: c :: rest)
  | rest => (first, rest)

mutual

/-- Reads a value in which arrays and tables may nest to a depth of `depth`; `room` bounds the
number of steps. -/
def valueWithin? : Nat → Nat → List Char → Option (Value × List Char)
  | 0, _, _ => none
  | room + 1, depth, text =>
    match depth, text with
    | 0, '[' :: _ | 0, '{' :: _ => none
    | depth + 1, '[' :: rest => items? room depth [] rest
    | depth + 1, '{' :: rest => entries? room depth (.empty .defined) rest
    | _, c :: _ =>
      if c = '"' ∨ c = '\'' then (string? text).map fun (s, rest) => (.string s, rest)
      else
        let (token, rest) := splitScalar text
        (scalar? token).map fun v => (v, rest)
    | _, [] => none

/-- Reads the items of an array after those in `items`, last one first. -/
def items? : Nat → Nat → List Value → List Char → Option (Value × List Char)
  | 0, _, _, _ => none
  | room + 1, depth, items, text => do
    match ← skipSpace? false text with
    | ']' :: rest => return (.array items.reverse, rest)
    | text => do
      let (item, rest) ← valueWithin? room depth text
      match ← skipSpace? false rest with
      | ',' :: rest => items? room depth (item :: items) rest
      | ']' :: rest => return (.array (item :: items).reverse, rest)
      | _ => none

/-- Reads the entries of a table in braces after those in `entries`. The line may end anywhere but
in a path. -/
def entries? : Nat → Nat → Tree → List Char → Option (Value × List Char)
  | 0, _, _, _ => none
  | room + 1, depth, entries, text => do
    match ← skipSpace? false text with
    | '}' :: rest => return (entries.toValue, rest)
    | text => do
      let (keys, rest) ← path? text
      match ← skipSpace? false rest with
      | '=' :: rest =>
        let (v, rest) ← valueWithin? room depth (← skipSpace? false rest)
        let entries ← entries.assign? [] keys v
        match ← skipSpace? false rest with
        | ',' :: rest => entries? room depth entries rest
        | '}' :: rest => return (entries.toValue, rest)
        | _ => none
      | _ => none

end

/-- Reads a value. A step reads a character at least, or is followed by one that does. -/
def value? (text : List Char) : Option (Value × List Char) :=
  valueWithin? (2 * text.length + 2) maxNesting text

/-! ## Documents -/

/-- Reads the lines of a document under a header; `room` bounds their number. -/
def lines? : Nat → List String → Tree → List Char → Option Tree
  | 0, _, _, _ => none
  | room + 1, header, tree, text => do
    match ← skipSpace? false text with
    | [] => return tree
    | '[' :: '[' :: rest =>
      match ← path? rest with
      | (header, ']' :: ']' :: rest) =>
        lines? room header (← tree.openItem? header) (← endLine? rest)
      | _ => none
    | '[' :: rest =>
      match ← path? rest with
      | (header, ']' :: rest) =>
        lines? room header (← tree.openTable? header) (← endLine? rest)
      | _ => none
    | text =>
      match ← path? text with
      | (keys, '=' :: rest) =>
        let (v, rest) ← value? (dropBlanks rest)
        lines? room header (← tree.assign? header keys v) (← endLine? rest)
      | _ => none

/-- Drops a byte order mark. -/
def dropMark : List Char → List Char
  | c :: rest => if c.toNat = 0xfeff then rest else c :: rest
  | [] => []

/-- Reads a document. -/
def document? (text : String) : Option Value :=
  let chars := dropMark text.toList
  (lines? (chars.length + 1) [] (.empty .defined) chars).map Tree.toValue

end MotionControl.Toml
