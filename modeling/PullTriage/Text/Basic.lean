import PullTriage.Unicode.Basic

/-!
# Lines and fields

Trimming and splitting into fields go by white space of every script.  A carriage return before the
end of a line is white space, so trimming a line takes it away too.
-/

namespace PullTriage.Text

open Unicode

/-- The lines: the pieces between line feeds. -/
def lines (text : List Char) : List (List Char) :=
  text.splitOn '\n'

/-- The text without the white space at its ends. -/
def trim (text : List Char) : List Char :=
  ((text.dropWhile isBlank).reverse.dropWhile isBlank).reverse

/-- The longest parts without white space. -/
def fields (text : List Char) : List (List Char) :=
  (text.splitOnP isBlank).filter fun piece => !piece.isEmpty

/-- Does the text begin with `start`? -/
def startsWith (text start : String) : Bool :=
  start.toList.isPrefixOf text.toList

end PullTriage.Text
