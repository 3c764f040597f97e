import PullTriage.Text.Basic

/-!
# Release lines

The branches of a release line are named for it: `v18.x`, `20.3`, and `v18.x-staging` for the branch
where its next release is prepared.
-/

namespace PullTriage

open Unicode

/-- Is the character a decimal digit, of whatever script? -/
def isDecimalDigit (c : Char) : Bool :=
  decimalDigits.has c.toNat

/-- The minor version that a text begins with: digits, or a single `x`. -/
def minorVersion (text : List Char) : List Char :=
  match text with
  | 'x' :: _ => ['x']
  | _ => text.takeWhile isDecimalDigit

/-- The release line of a base branch: an optional `v`, a major and a minor version, when they are
the whole name or `-staging` follows. -/
def releaseLine? (branch : String) : Option String :=
  let chars := branch.toList
  let mark := chars.takeWhile (· == 'v') |>.take 1
  let major := (chars.drop mark.length).takeWhile isDecimalDigit
  match chars.drop (mark.length + major.length) with
  | '.' :: rest =>
    let minor := minorVersion rest
    let tail := rest.drop minor.length
    if major.isEmpty || minor.isEmpty then none
    else if tail.isEmpty || ("-staging".toList.isPrefixOf? tail).isSome then
      some (String.ofList (mark ++ major ++ '.' :: minor))
    else none
  | _ => none

end PullTriage
