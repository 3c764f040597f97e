import PullTriage.Glob.Expression
import PullTriage.Label.Template

/-!
# Label rules

A rule gives its labels to the paths that match its pattern and not its exclusion.  The references
in its labels are checked when the rule is made, so a label of a rule can only refer to groups that
the pattern has.
-/

namespace PullTriage

/-- The ways in which making a rule fails. -/
inductive RuleError where
  /-- The pattern is not a regular expression. -/
  | invalidPattern (pattern complaint : String)
  /-- A label refers to a group that the pattern does not have. -/
  | missingGroup (template : String) (group : Nat) (pattern : String) (available : Nat)
  /-- The rule has no labels. -/
  | noLabels (pattern : String)
deriving Repr, DecidableEq

/-- The text of an error. -/
def RuleError.message : RuleError → String
  | invalidPattern pattern complaint => "invalid rule pattern '" ++ pattern ++ "': " ++ complaint
  | missingGroup template group pattern available =>
    "label '" ++ template ++ "' references $" ++ toString group ++ " but '" ++ pattern ++ "' has "
      ++ toString available ++ " capture group(s)"
  | noLabels pattern => "rule '" ++ pattern ++ "' has no labels"

/-- A rule that gives labels to paths. -/
structure LabelRule where
  pattern : Regex
  exclude : Option Regex
  labels : List LabelTemplate
deriving Repr, DecidableEq

namespace LabelRule

/-- Compiles a pattern. -/
def compilePattern (pattern : String) : Except RuleError Regex :=
  match Regex.compile pattern with
  | some regex => .ok regex
  | none => .error (.invalidPattern pattern (Regex.complaint pattern))

/-- Reads a label and checks its references. -/
def checkedTemplate (pattern : Regex) (label : String) : Except RuleError LabelTemplate :=
  let template := LabelTemplate.parse label
  match template.maxGroup? with
  | some group =>
    if pattern.groupCount < group then
      .error (.missingGroup label group pattern.pattern pattern.groupCount)
    else .ok template
  | none => .ok template

/-- Makes a rule from a regular expression and labels. -/
def ofPattern (pattern : String) (labels : List String) : Except RuleError LabelRule := do
  let regex ← compilePattern pattern
  if labels.isEmpty then throw (.noLabels pattern)
  let templates ← labels.mapM (checkedTemplate regex)
  return ⟨regex, none, templates⟩

/-- Makes a rule from a glob over paths relative to the root. -/
def ofGlob (glob : String) (labels : List String) : Except RuleError LabelRule :=
  ofPattern (Glob.translateRelative glob) labels

/-- The rule, for paths that do not match `exclude`. -/
def excluding (rule : LabelRule) (exclude : String) : Except RuleError LabelRule := do
  let regex ← compilePattern exclude
  return { rule with exclude := some regex }

/-- The match by which the rule fires on a path. -/
def fires? (rule : LabelRule) (path : String) : Option Regex.Match :=
  if rule.exclude.any (·.isMatch path) then none else rule.pattern.search path

/-- The labels of the rule for a path that it fires on. -/
def labelsFor? (rule : LabelRule) (path : String) : Option (List String) :=
  (rule.fires? path).map fun found => rule.labels.map (·.render found)

end LabelRule

end PullTriage
