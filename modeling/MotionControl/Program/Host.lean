import MotionControl.Bench.Script

/-!
# Where the program is started

A host holds the files below the directory in which the program is started, and the standard input.

* `Host.follow?` follows a path, name by name. A name can only be looked up in a directory, so
  `missing/../file` leads nowhere, though `..` undoes the name before it.
* `Host.entry?` is what a path leads to.
-/

namespace MotionControl

/-- What a path leads to. -/
inductive PathEntry where
  | file (content : ByteArray)
  | directory

/-- The names in a path. -/
def pathNames (path : String) : List String := path.splitOn "/"

/-- A place is given by the names that lead to it, after one `..` for each directory further up. -/
abbrev Place := List String

/-- What the program finds where it is started. -/
structure Host where
  /-- The files and their places. -/
  files : List (Place × ByteArray)
  /-- The standard input. -/
  input : ByteArray

namespace Host

/-- The host with files under plain paths, which have no `..` in them. -/
def ofFiles (files : List (String × ByteArray)) (input : ByteArray) : Host where
  files := files.map fun (path, content) =>
    ((pathNames path).filter fun name => name != "" && name != ".", content)
  input := input

/-- A directory is the start or a place further up, or it has files below it. -/
def isDirectory (host : Host) (place : Place) : Bool :=
  place.all (· == "..") ||
    host.files.any fun (names, _) => place.length < names.length && place.isPrefixOf names

/-- The entry at a place. -/
def entryAt? (host : Host) (place : Place) : Option PathEntry :=
  if host.isDirectory place then some .directory else (host.files.lookup place).map .file

/-- The place to which a name leads from a place. -/
def enter? (host : Host) (place : Place) (name : String) : Option Place :=
  if !host.isDirectory place then none
  else if name = "" ∨ name = "." then some place
  else if name = ".." then
    some (if place.all (· == "..") then place ++ [name] else place.dropLast)
  else
    let next := place ++ [name]
    (host.entryAt? next).map fun _ => next

/-- The place to which a path leads. A path from the root starts further up. -/
def follow? (host : Host) (path : String) : Option Place :=
  (pathNames path).foldlM host.enter? (if path.startsWith "/" then [".."] else [])

/-- Whether a path names the standard input. -/
def isInputPath (path : String) : Bool :=
  path == "/dev/stdin" || path == "/dev/fd/0" || path == "/proc/self/fd/0"

/-- What a path leads to. Of the files further up, the device without content and the standard input
are known. -/
def entry? (host : Host) (path : String) : Option PathEntry :=
  if path = "/dev/null" then some (.file .empty)
  else if isInputPath path then some (.file host.input)
  else (host.follow? path).bind host.entryAt?

/-- The host after a file was read: the standard input can be read once. -/
def afterReading (host : Host) (path : String) : Host :=
  if isInputPath path then { host with input := .empty } else host

/-- The text of a file. -/
def text? (host : Host) (path : String) : Option String :=
  match host.entry? path with
  | some (.file content) => String.fromUTF8? content
  | _ => none

/-- The lines of the script under a path. A directory can be opened, but its first line cannot be
read. -/
def lines? (host : Host) (path : String) : Option (List (Option String)) :=
  (host.entry? path).map fun
    | .file content => scriptLines content
    | .directory => [none]

end Host

end MotionControl
