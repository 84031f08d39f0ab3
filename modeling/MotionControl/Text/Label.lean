/-!
# Labels

A `Label` is a name of at most 16 bytes, the room a name has in a command and in a stored
configuration.

* `Label.ofString?` takes a text that fits.
* `Label.truncate` keeps the leading characters that fit.
-/

namespace MotionControl

/-- The most bytes in a name. -/
def maxLabelBytes : Nat := 16

/-- A name of at most `maxLabelBytes` bytes. -/
structure Label where
  text : String
  fits : text.utf8ByteSize ≤ maxLabelBytes
deriving DecidableEq

namespace Label

instance : ToString Label := ⟨Label.text⟩

def empty : Label := ⟨"", by decide⟩

instance : Inhabited Label := ⟨empty⟩

def isEmpty (label : Label) : Bool := label.text.isEmpty

/-- The label with this text, if it fits. -/
def ofString? (text : String) : Option Label :=
  if h : text.utf8ByteSize ≤ maxLabelBytes then some ⟨text, h⟩ else none

/-- Appends characters up to the first that does not fit. -/
def extend (label : Label) : List Char → Label
  | [] => label
  | c :: rest =>
    if h : (label.text.push c).utf8ByteSize ≤ maxLabelBytes then
      extend ⟨label.text.push c, h⟩ rest
    else label

/-- The leading characters of a text, up to the first that does not fit. -/
def truncate (text : String) : Label := empty.extend text.toList

end Label

end MotionControl
