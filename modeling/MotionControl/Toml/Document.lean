import MotionControl.Toml.Value

/-!
# Building TOML tables

A document is a sequence of assignments under table headers. `Tree` is a table while it is built:
it knows how each table came to be, because a table may be defined only once. A table that a
header or a path has passed through can still be defined, one that dotted keys have made can only
be extended by dotted keys, and values are closed.

* `Tree.assign?` sets a key, given as a path, in the table of a header.
* `Tree.openTable?` and `Tree.openItem?` take the headers of a table and of an item of an array.
* `Tree.toValue` is the finished table.
-/

namespace MotionControl.Toml

/-- How a table came to be. -/
inductive TableOrigin where
  /-- A header defined it, or it is an item of an array of tables. -/
  | defined
  /-- A longer header passed through it. -/
  | passed
  /-- A dotted key made it. -/
  | dotted
deriving DecidableEq, Repr

/-- A part of a document that is being built. -/
inductive Tree where
  | value (v : Value)
  | table (origin : TableOrigin) (entries : List (String × Tree))
  /-- An array of tables, the last item first. -/
  | tables (items : List Tree)

namespace Tree

/-- Sets the value of a key, in its place if the key is there and at the end if not. -/
def setEntry (key : String) (tree : Tree) : List (String × Tree) → List (String × Tree)
  | [] => [(key, tree)]
  | (k, t) :: rest => if k = key then (key, tree) :: rest else (k, t) :: setEntry key tree rest

/-- The empty table. -/
def empty (origin : TableOrigin) : Tree := table origin []

mutual

/-- The finished value. -/
def toValue : Tree → Value
  | value v => v
  | table _ entries => .table (entryValues entries)
  | tables items => .array (itemValues items).reverse

/-- The finished entries of a table. -/
def entryValues : List (String × Tree) → List (String × Value)
  | [] => []
  | (key, tree) :: rest => (key, tree.toValue) :: entryValues rest

/-- The finished items of an array of tables. -/
def itemValues : List Tree → List Value
  | [] => []
  | tree :: rest => tree.toValue :: itemValues rest

end

/-- Changes the table that a path leads to. Tables on the way are made where they are missing, as
tables of the given origin; an array of tables leads to its last item. Dotted keys do not go
through a table that a header has defined. -/
def update? (origin : TableOrigin)
    (change : TableOrigin → List (String × Tree) → Option Tree) :
    List String → Tree → Option Tree
  | _, value _ => none
  | _, tables [] => none
  | path, tables (last :: earlier) => do
    return tables ((← update? origin change path last) :: earlier)
  | [], table own entries => change own entries
  | key :: rest, table own entries =>
    match entries.lookup key with
    | none => do
      let made ← update? origin change rest (empty origin)
      return table own (setEntry key made entries)
    | some (table .defined inner) =>
      if origin = .dotted then none
      else do
        let changed ← update? origin change rest (table .defined inner)
        return table own (setEntry key changed entries)
    | some found => do
      let changed ← update? origin change rest found
      return table own (setEntry key changed entries)
termination_by path tree => (path.length, sizeOf tree)

/-- Sets a key in the table of a header. The key is new, and of a dotted key all tables on the way
but the first have been made by dotted keys. -/
def assign? (header keys : List String) (v : Value) (root : Tree) : Option Tree := do
  let key ← keys.getLast?
  let way := keys.dropLast
  let insert (own : TableOrigin) (entries : List (String × Tree)) : Option Tree :=
    if !way.isEmpty && own ≠ .dotted then none
    else if (entries.lookup key).isSome then none
    else some (table own (entries ++ [(key, value v)]))
  update? .passed (fun own entries => update? .dotted insert way (table own entries)) header root

/-- Takes the header of a table, which no header and no dotted key has defined. -/
def openTable? (header : List String) (root : Tree) : Option Tree := do
  let key ← header.getLast?
  let define (own : TableOrigin) (entries : List (String × Tree)) : Option Tree :=
    match entries.lookup key with
    | none => some (table own (setEntry key (empty .defined) entries))
    | some (table .passed inner) => some (table own (setEntry key (table .defined inner) entries))
    | some _ => none
  update? .passed define header.dropLast root

/-- Takes the header of a further item of an array of tables. -/
def openItem? (header : List String) (root : Tree) : Option Tree := do
  let key ← header.getLast?
  let extend (own : TableOrigin) (entries : List (String × Tree)) : Option Tree :=
    match entries.lookup key with
    | none => some (table own (setEntry key (tables [empty .defined]) entries))
    | some (tables items) =>
      some (table own (setEntry key (tables (empty .defined :: items)) entries))
    | some _ => none
  update? .passed extend header.dropLast root

end Tree

end MotionControl.Toml
