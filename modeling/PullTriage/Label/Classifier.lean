import PullTriage.Label.ReleaseLine
import PullTriage.Label.Rule
import PullTriage.Label.Set

/-!
# Classifying a pull request

A classifier reduces the changed paths of a pull request, its description and its base branch to a
short list of labels.  The labels come in this order, each at its first place:

1. for each path, those of the first exclusive rule that fires on it, and then those of every
   inclusive rule that does;
2. the names at the start of the description that the classifier knows as subsystems;
3. the release line of the base branch.

The list is cut after `maxLabels` labels.
-/

namespace PullTriage

/-- Rules, subsystem names and a cap, which is never zero. -/
structure LabelClassifier where
  exclusive : List LabelRule
  inclusive : List LabelRule
  subsystems : List String
  maxLabels : Nat := 5
  maxLabels_pos : 0 < maxLabels := by decide

namespace LabelClassifier

/-- The classifier of some tables and subsystem names, with the usual cap. -/
def ofTables (exclusive inclusive : List LabelRule) (subsystems : List String) :
    LabelClassifier where
  exclusive := exclusive
  inclusive := inclusive
  subsystems := subsystems

/-- The classifier with another cap; zero counts as one. -/
def withMaxLabels (classifier : LabelClassifier) (maxLabels : Nat) : LabelClassifier :=
  { classifier with maxLabels := max maxLabels 1, maxLabels_pos := by omega }

/-- The labels of a path relative to the root. -/
def pathLabels (classifier : LabelClassifier) (path : String) : List String :=
  (classifier.exclusive.findSome? (·.labelsFor? path)).getD [] ++
    (classifier.inclusive.filterMap (·.labelsFor? path)).flatten

/-- The names before the first colon of a description. -/
def leadingNames (body : String) : List String :=
  ((body.toList.takeWhile (· != ':')).splitOn ',').map
    fun piece => String.ofList (Text.trim piece)

/-- The labels of a description. -/
def bodyLabels (classifier : LabelClassifier) (body : String) : List String :=
  (leadingNames body).filter classifier.subsystems.contains

/-- The labels that apply, in order and with repetitions. -/
def candidates (classifier : LabelClassifier) (paths : List String) (body base : Option String) :
    List String :=
  paths.flatMap (fun path => classifier.pathLabels (String.ofList (Glob.relative path.toList)))
    ++ (body.map classifier.bodyLabels).getD []
    ++ (base.bind releaseLine?).toList

/-- The labels that apply. -/
def accumulate (classifier : LabelClassifier) (paths : List String) (body base : Option String) :
    LabelSet :=
  LabelSet.ofList (classifier.candidates paths body base)

/-- The first labels that apply, as many as the cap allows; `none` if none applies. -/
def classify (classifier : LabelClassifier) (paths : List String) (body base : Option String) :
    Option (List String) :=
  (classifier.accumulate paths body base).finish classifier.maxLabels

end LabelClassifier

end PullTriage
