import PullTriage.Glob.PathPattern
import PullTriage.Text.Basic

/-!
# Ownership manifests

A manifest has one rule a line, a glob and an owner with white space between them.  Blank lines and
lines that begin with `#` do not count.  Any other line makes the whole manifest invalid: it is
reported, and never applied in part.

There is no precedence among rules.  Every rule whose glob matches a path contributes its owner, in
the order of the manifest.
-/

namespace PullTriage

/-- The way in which reading a manifest fails: a line that is not a glob and an owner. -/
inductive ManifestError where
  | malformedLine (line : Nat) (content : String)
deriving Repr, DecidableEq

/-- The text of an error. -/
def ManifestError.message : ManifestError → String
  | malformedLine line content =>
    "malformed manifest line " ++ toString line ++ ": expected `<pattern> <owner>`, found "
      ++ Text.quoted content

/-- A rule of a manifest, with the number of its line. -/
structure OwnershipRule where
  pattern : PathPattern
  owner : String
  line : Nat
deriving Repr, DecidableEq

/-- The rules of a manifest, in order. -/
structure Manifest where
  rules : List OwnershipRule
deriving Repr, DecidableEq

namespace Manifest

/-- The rule on a line, or `none` on a line that does not count. -/
def ruleOfLine (number : Nat) (raw : List Char) : Except ManifestError (Option OwnershipRule) :=
  let line := Text.trim raw
  if line.isEmpty || line.head? == some '#' then .ok none
  else
    match Text.fields line with
    | [glob, owner] =>
      .ok (some ⟨PathPattern.compile (String.ofList glob), String.ofList owner, number⟩)
    | _ => .error (.malformedLine number (String.ofList line))

/-- Reads a manifest; the error is that of the first malformed line. -/
def parse (text : String) : Except ManifestError Manifest := do
  let rules ← ((Text.lines text.toList).zipIdx 1).mapM fun (raw, number) => ruleOfLine number raw
  return ⟨rules.filterMap id⟩

/-- The number of rules. -/
def size (manifest : Manifest) : Nat :=
  manifest.rules.length

/-- The rules that match a path. -/
def matchingRules (manifest : Manifest) (path : String) : List OwnershipRule :=
  manifest.rules.filter fun rule => rule.pattern.matches? path

/-- The owners of a path, one for each rule that matches. -/
def ownersOf (manifest : Manifest) (path : String) : List String :=
  (manifest.matchingRules path).map (·.owner)

/-- The owners of some paths, each at its first place only. -/
def uniqueOwners (manifest : Manifest) (paths : List String) : List String :=
  (paths.flatMap manifest.ownersOf).eraseDups

end Manifest

end PullTriage
