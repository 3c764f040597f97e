import PullTriage.Unicode.Basic
import PullTriage.Unicode.Fold

/-!
# Character classes

A character class is an expression over sets of code points: unions, intersections, symmetric
differences and complements, and the closure of a class under case folding.  Membership is decided
by evaluating the expression, so no set is ever computed and each operation has exactly the law
that its name states.
-/

namespace PullTriage.Regex

open Unicode

/-- A class of characters. -/
inductive CharClass where
  /-- The listed code points. -/
  | codes (set : CodeSet)
  | union (a b : CharClass)
  | inter (a b : CharClass)
  /-- The code points that are in exactly one of the two. -/
  | symmDiff (a b : CharClass)
  | compl (a : CharClass)
  /-- The characters that differ in case only from a member; `wide` says whether letters outside
  ASCII have a case. -/
  | folded (wide : Bool) (a : CharClass)
deriving Repr, DecidableEq

namespace CharClass

/-- The ASCII letters that differ in case only from this code point, itself among them. -/
def asciiOrbit (code : Nat) : List Nat :=
  if 0x41 ≤ code ∧ code ≤ 0x5A then [code, code + 32]
  else if 0x61 ≤ code ∧ code ≤ 0x7A then [code - 32, code]
  else [code]

/-- Membership of a code point. -/
def has : CharClass → Nat → Bool
  | codes set, n => set.has n
  | union a b, n => a.has n || b.has n
  | inter a b, n => a.has n && b.has n
  | symmDiff a b, n => a.has n != b.has n
  | compl a, n => !a.has n
  | folded wide a, n => (if wide then foldOrbit n else asciiOrbit n).any a.has

/-- The class without members. -/
def empty : CharClass := codes []

/-- The class of one character. -/
def single (c : Char) : CharClass := codes [(c.toNat, c.toNat)]

/-- The class of the characters from `lo` to `hi`. -/
def range (lo hi : Char) : CharClass := codes [(lo.toNat, hi.toNat)]

/-- The members of `a` that are not in `b`. -/
def diff (a b : CharClass) : CharClass := inter a (compl b)

/-- The complement if `negated`, else the class itself. -/
def negateIf (negated : Bool) (a : CharClass) : CharClass :=
  if negated then compl a else a

/-- The closure under case folding if `fold`, else the class itself. -/
def foldIf (fold wide : Bool) (a : CharClass) : CharClass :=
  if fold then folded wide a else a

/-- Every character. -/
def any : CharClass := codes [(0, 0x10FFFF)]

/-- Every character but the line feed. -/
def notNewline : CharClass := compl (single '\n')

/-- Every character but the line feed and the carriage return. -/
def notLineEnd : CharClass := compl (codes [(0x0A, 0x0A), (0x0D, 0x0D)])

/-- The decimal digits, of every script or of ASCII. -/
def digit (wide : Bool) : CharClass :=
  codes (if wide then decimalDigits else [(0x30, 0x39)])

/-- White space, of every script or of ASCII. -/
def space (wide : Bool) : CharClass :=
  codes (if wide then whiteSpace else [(0x09, 0x0D), (0x20, 0x20)])

/-- The word characters, of every script or of ASCII. -/
def word (wide : Bool) : CharClass :=
  codes (if wide then wordCharacters else [(0x30, 0x39), (0x41, 0x5A), (0x5F, 0x5F), (0x61, 0x7A)])

/-- The classes that are named in brackets and colons, all within ASCII. -/
def posix? : String → Option CharClass
  | "alnum" => some (codes [(0x30, 0x39), (0x41, 0x5A), (0x61, 0x7A)])
  | "alpha" => some (codes [(0x41, 0x5A), (0x61, 0x7A)])
  | "ascii" => some (codes [(0x00, 0x7F)])
  | "blank" => some (codes [(0x09, 0x09), (0x20, 0x20)])
  | "cntrl" => some (codes [(0x00, 0x1F), (0x7F, 0x7F)])
  | "digit" => some (codes [(0x30, 0x39)])
  | "graph" => some (codes [(0x21, 0x7E)])
  | "lower" => some (codes [(0x61, 0x7A)])
  | "print" => some (codes [(0x20, 0x7E)])
  | "punct" => some (codes [(0x21, 0x2F), (0x3A, 0x40), (0x5B, 0x60), (0x7B, 0x7E)])
  | "space" => some (codes [(0x09, 0x0D), (0x20, 0x20)])
  | "upper" => some (codes [(0x41, 0x5A)])
  | "word" => some (codes [(0x30, 0x39), (0x41, 0x5A), (0x5F, 0x5F), (0x61, 0x7A)])
  | "xdigit" => some (codes [(0x30, 0x39), (0x41, 0x46), (0x61, 0x66)])
  | _ => none

/-- A class that is read byte by byte may hold ASCII only: a byte above 127 is not a character. -/
def asciiOnly (a : CharClass) : Bool :=
  (List.range 128).all fun i => !a.has (i + 128)

end CharClass

end PullTriage.Regex
