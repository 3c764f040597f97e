/-!
# Sets of code points

A set of code points is a list of ranges, both ends included, in increasing order and disjoint.
Membership is the only operation that the rest of the library needs: unions and complements of
sets are taken at the level of character classes.

Large sets are written as text, in hexadecimal: `41-5A 61-7A AA` is two ranges and a single code
point.
-/

namespace PullTriage.Unicode

/-- A set of code points, as increasing disjoint ranges. -/
abbrev CodeSet := List (Nat × Nat)

/-- Membership.  The ranges increase, so a range that starts above the code point ends the search. -/
def CodeSet.has : CodeSet → Nat → Bool
  | [], _ => false
  | (lo, hi) :: rest, code =>
    if code < lo then false
    else if code ≤ hi then true
    else CodeSet.has rest code

/-- The value of one hexadecimal digit. -/
def hexDigit? (c : Char) : Option Nat :=
  if '0' ≤ c ∧ c ≤ '9' then some (c.toNat - 48)
  else if 'a' ≤ c ∧ c ≤ 'f' then some (c.toNat - 87)
  else if 'A' ≤ c ∧ c ≤ 'F' then some (c.toNat - 55)
  else none

/-- The number written by hexadecimal digits; any other character is passed over. -/
def hexValue (digits : List Char) : Nat :=
  digits.foldl (fun n c => match hexDigit? c with | some d => 16 * n + d | none => n) 0

/-- The range written as `41-5A`, or as `AA` when it is one code point. -/
def rangeOfText (word : List Char) : Nat × Nat :=
  let lo := word.takeWhile (· != '-')
  let hi := word.dropWhile (· != '-')
  (hexValue lo, if hi.isEmpty then hexValue lo else hexValue hi)

/-- The words of a table: the parts between spaces and line feeds. -/
def words (text : String) : List (List Char) :=
  (text.toList.splitOnP fun c => c == ' ' || c == '\n').filter fun word => !word.isEmpty

/-- The set written as ranges with space between them. -/
def CodeSet.ofText (text : String) : CodeSet :=
  (words text).map rangeOfText

end PullTriage.Unicode
