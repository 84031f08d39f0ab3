/-!
# Words of a line

A line of the protocol is read as its words: the longest runs of characters other than ASCII
whitespace.

* `words` splits a text into its words.
* `foldCase` maps ASCII letters to lower case, so that keywords compare without case.
* `trim` drops the white space around a text.
-/

namespace MotionControl

/-- Space, tab, line feed, form feed and carriage return separate words. -/
def isSeparator (c : Char) : Bool :=
  c == ' ' || c == '\t' || c == '\n' || c == '\x0c' || c == '\r'

/-- Splits characters into words; `word` holds the characters of the current word, last one
first. -/
def wordsFrom (word : List Char) : List Char → List String
  | [] => if word.isEmpty then [] else [String.ofList word.reverse]
  | c :: rest =>
    if isSeparator c then
      if word.isEmpty then wordsFrom [] rest
      else String.ofList word.reverse :: wordsFrom [] rest
    else wordsFrom (c :: word) rest

/-- The words of a text, in order. -/
def words (text : String) : List String := wordsFrom [] text.toList

/-- A text with its ASCII letters in lower case. -/
def foldCase (text : String) : String := text.map Char.toLower

/-- Whether a character is white space, of Unicode as a whole. -/
def isSpace (c : Char) : Bool :=
  let n := c.toNat
  (0x09 ≤ n && n ≤ 0x0d) || n == 0x20 || n == 0x85 || n == 0xa0 || n == 0x1680 ||
    (0x2000 ≤ n && n ≤ 0x200a) || n == 0x2028 || n == 0x2029 || n == 0x202f || n == 0x205f ||
    n == 0x3000

/-- Characters without the white space around them. -/
def trim (text : List Char) : List Char :=
  ((text.dropWhile isSpace).reverse.dropWhile isSpace).reverse

end MotionControl
