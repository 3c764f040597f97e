import PullTriage.Regex.Basic
import PullTriage.Text.Decimal

/-!
# Label templates

A label may refer to the groups of the match that its rule made: `$1` stands for the first group and
`$0` for the whole match.  A `$` without a digit after it stands for itself, and so does one with a
number of 2 to the 64th or more.  A reference to a group that took no part in the match is left as
it is written.
-/

namespace PullTriage

/-- A part of a label template. -/
inductive LabelTemplate.Segment where
  | literal (text : String)
  /-- A reference to a group, with the digits as they are written. -/
  | group (index : Nat) (digits : String)
deriving Repr, DecidableEq

/-- A label template: the text it was read from, and its parts. -/
structure LabelTemplate where
  source : String
  segments : List LabelTemplate.Segment
deriving Repr, DecidableEq

namespace LabelTemplate

/-- The group number and the digits of the reference that a text begins with, after its `$`. -/
def reference? (text : List Char) : Option (Nat × List Char) :=
  let digits := text.takeWhile Char.isDigit
  (Text.decimalBelow? UInt64.size digits).map fun index => (index, digits)

/-- Puts a literal character in front of some segments. -/
def literalThen (c : Char) : List Segment → List Segment
  | .literal text :: rest => .literal (String.singleton c ++ text) :: rest
  | segments => .literal (String.singleton c) :: segments

/-- The segments of a text of which the first `skip` characters belong to a reference before. -/
def segmentsOf : (skip : Nat) → List Char → List Segment
  | _, [] => []
  | skip + 1, _ :: rest => segmentsOf skip rest
  | 0, c :: rest =>
    match (if c = '$' then reference? rest else none) with
    | some (index, digits) => .group index (String.ofList digits) :: segmentsOf digits.length rest
    | none => literalThen c (segmentsOf 0 rest)

/-- Reads a template. -/
def parse (source : String) : LabelTemplate :=
  ⟨source, segmentsOf 0 source.toList⟩

/-- The segment as it is written. -/
def Segment.written : Segment → String
  | literal text => text
  | group _ digits => "$" ++ digits

/-- The group that a segment refers to. -/
def Segment.index? : Segment → Option Nat
  | literal _ => none
  | group index _ => some index

/-- The highest group that the template refers to. -/
def maxGroup? (template : LabelTemplate) : Option Nat :=
  (template.segments.filterMap Segment.index?).max?

/-- Does the template refer to no group? -/
def isLiteral (template : LabelTemplate) : Bool :=
  template.maxGroup?.isNone

/-- What a segment stands for in a match. -/
def Segment.render (found : Regex.Match) : Segment → String
  | literal text => text
  | group index digits => (found.group index).getD ("$" ++ digits)

/-- The label that the template stands for in a match. -/
def render (template : LabelTemplate) (found : Regex.Match) : String :=
  String.join (template.segments.map (Segment.render found))

end LabelTemplate

end PullTriage
