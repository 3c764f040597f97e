import PullTriage.Regex.Parser
import PullTriage.Regex.Search

/-!
# Regular expressions

A compiled expression keeps the text that it was compiled from.  `Regex.compile` succeeds exactly
on the patterns that the reader accepts, and `Regex.search` gives the first match in a text, with
its groups.
-/

namespace PullTriage

/-- A compiled regular expression. -/
structure Regex where
  pattern : String
  node : Regex.Node Regex.Leaf
deriving Repr, DecidableEq

namespace Regex

/-- Compiles a pattern; `none` if it is not a regular expression.  Only the grammar decides: there
is no limit to how deep groups nest (a compiler may have one, such as 250 levels) nor to how large
an expression is once its counts are unfolded (such as ten megabytes). -/
def compile (pattern : String) : Option Regex :=
  (Node.ofPattern? pattern.toList).map fun node => ⟨pattern, node⟩

/-- What is said of a pattern that does not compile.  Where in the pattern the error is, and which,
is not said. -/
def complaint (_pattern : String) : String :=
  "regex parse error"

/-- The number of groups, the match as a whole not counted. -/
def groupCount (re : Regex) : Nat :=
  re.node.groupCount

/-- A match in a text: its ends, as positions in the text, and its groups. -/
structure Match where
  text : List Char
  start : Nat
  stop : Nat
  captures : Captures
deriving Repr

/-- The part of a text between two positions. -/
def slice (text : List Char) (start stop : Nat) : String :=
  String.ofList ((text.drop start).take (stop - start))

/-- The text of a group, if the group took part in the match.  Group 0 is the whole match. -/
def Match.group (m : Match) (index : Nat) : Option String :=
  if index = 0 then some (slice m.text m.start m.stop)
  else
    match m.captures.find? (fun c => c.1 == index) with
    | some (_, start, stop) => some (slice m.text start stop)
    | none => none

/-- The texts of the groups `1 … count`. -/
def Match.groups (m : Match) (count : Nat) : List (Option String) :=
  (List.range count).map fun i => m.group (i + 1)

/-- The first match in a text. -/
def search (re : Regex) (text : String) : Option Match :=
  let chars := text.toList
  (re.node.search chars).map fun found => ⟨chars, found.1, found.2.1, found.2.2⟩

/-- Is there a match in the text? -/
def isMatch (re : Regex) (text : String) : Bool :=
  (re.search text).isSome

/-- The characters that have a meaning of their own in a pattern, which `escape` takes away. -/
def escapeChar (c : Char) : List Char :=
  if isMeta c then ['\\', c] else [c]

/-- A pattern that matches exactly these characters. -/
def escape (cs : List Char) : List Char :=
  cs.flatMap escapeChar

end Regex

end PullTriage
