import PullTriage.Label.Classifier
import PullTriage.Proofs.Distinct
import PullTriage.Proofs.Text.Split
import Mathlib.Data.List.Forall2

/-!
# What a classifier collects

The labels of a pull request are described here without the functions that find them.  A rule
`Gives` labels to a path if its pattern matches the path, its exclusion does not, and the labels are
rendered in that match.  Of the exclusive rules the first one that gives anything counts
(`FirstGives`), and of the inclusive rules each one (`EachGives`).  A description names the
subsystems before its first colon (`StartsWithNames`).  `Collects` puts the labels of the paths, of
the description and of the base branch in a row.

There is one list that a classifier collects, and it is `candidates`.  Inserting its labels into a
set one by one is taking away every repetition (`toList_ofList`), and since the cap is never zero,
cutting the list leaves nothing only if there was nothing: `classify_eq_first_collected`.
-/

namespace PullTriage

/-! ## Distinct labels -/

namespace LabelSet

lemma ofList_append_singleton (labels : List String) (label : String) :
    ofList (labels ++ [label]) = (ofList labels).insert label := by
  rw [ofList, insertAll, List.foldl_append]
  rfl

/-- A set made of a list has the labels of the list, each at its first place. -/
lemma toList_ofList (labels : List String) : (ofList labels).toList = labels.eraseDups := by
  induction labels using List.reverseRecOn with
  | nil => rfl
  | append_singleton labels label ih =>
    rw [ofList_append_singleton, toList_insert, ih, Distinct.eraseDups_append_singleton]
    simp only [List.mem_eraseDups]

lemma mem_toList_ofList {labels : List String} {label : String} :
    label ∈ (ofList labels).toList ↔ label ∈ labels := by
  rw [toList_ofList, List.mem_eraseDups]

lemma finish_eq_ite (set : LabelSet) (cap : Nat) : set.finish cap =
    if set.toList.take cap = [] then none else some (set.toList.take cap) := by
  rw [finish]
  cases set.toList.take cap <;> rfl

lemma finish_eq (set : LabelSet) {cap : Nat} (hcap : 0 < cap) :
    set.finish cap = if set.toList = [] then none else some (set.toList.take cap) := by
  simp only [finish_eq_ite, List.take_eq_nil_iff, hcap.ne', false_or]

end LabelSet

/-- A relation that is the graph of a function relates a list to its image only. -/
lemma forall₂_iff_map_eq {α β : Type} {R : α → β → Prop} {f : α → β}
    (h : ∀ a b, R a b ↔ f a = b) (as : List α) (bs : List β) :
    List.Forall₂ R as bs ↔ as.map f = bs := by
  have hR : R = fun a b => f a = b := by
    funext a b
    exact propext (h a b)
  rw [hR, ← List.forall₂_map_left_iff (R := Eq), List.forall₂_eq_eq_eq]

/-! ## Rules -/

namespace LabelRule

/-- The rule fires on a path and gives it these labels. -/
def Gives (rule : LabelRule) (path : String) (labels : List String) : Prop :=
  ∃ found, rule.pattern.search path = some found ∧
    (∀ exclude, rule.exclude = some exclude → exclude.search path = none) ∧
    labels = rule.labels.map (·.render found)

/-- The rule does not fire on a path. -/
def IsSilent (rule : LabelRule) (path : String) : Prop :=
  ∀ labels, ¬ rule.Gives path labels

/-- The labels of the first rule that fires, or none if no rule does. -/
def FirstGives (rules : List LabelRule) (path : String) (labels : List String) : Prop :=
  (labels = [] ∧ ∀ rule ∈ rules, rule.IsSilent path) ∨
    ∃ before rule after, rules = before ++ rule :: after ∧ (∀ r ∈ before, r.IsSilent path) ∧
      rule.Gives path labels

/-- The labels of every rule that fires, in the order of the rules. -/
def EachGives (rules : List LabelRule) (path : String) (labels : List String) : Prop :=
  ∃ blocks, List.Forall₂ (fun rule block =>
    rule.Gives path block ∨ (block = [] ∧ rule.IsSilent path)) rules blocks ∧
      labels = blocks.flatten

lemma exclude_any_eq_false_iff {rule : LabelRule} {path : String} :
    rule.exclude.any (·.isMatch path) = false ↔
      ∀ exclude, rule.exclude = some exclude → exclude.search path = none := by
  cases rule.exclude with
  | none => simp
  | some exclude => simp [Regex.isMatch]

lemma labelsFor?_eq_some_iff {rule : LabelRule} {path : String} {labels : List String} :
    rule.labelsFor? path = some labels ↔ rule.Gives path labels := by
  rw [labelsFor?, Option.map_eq_some_iff, Gives]
  refine exists_congr fun found => ?_
  rw [fires?, ← exclude_any_eq_false_iff]
  by_cases hexclude : rule.exclude.any (·.isMatch path) = true
  · simp [hexclude]
  · rw [if_neg hexclude, eq_comm (a := labels)]
    simp [hexclude]

lemma labelsFor?_eq_none_iff {rule : LabelRule} {path : String} :
    rule.labelsFor? path = none ↔ rule.IsSilent path := by
  rw [Option.eq_none_iff_forall_ne_some]
  exact forall_congr' fun labels => not_congr labelsFor?_eq_some_iff

lemma exists_gives_of_findSome? {rules : List LabelRule} {path : String} {labels : List String}
    (h : rules.findSome? (·.labelsFor? path) = some labels) :
    ∃ rule ∈ rules, rule.Gives path labels := by
  obtain ⟨rule, hrule, hgiven⟩ := List.exists_of_findSome?_eq_some h
  exact ⟨rule, hrule, labelsFor?_eq_some_iff.1 hgiven⟩

lemma firstGives_iff {rules : List LabelRule} {path : String} {labels : List String} :
    FirstGives rules path labels ↔
      (rules.findSome? (·.labelsFor? path)).getD [] = labels := by
  cases hfirst : rules.findSome? (·.labelsFor? path) with
  | none =>
    have silent : ∀ rule ∈ rules, rule.IsSilent path := fun rule hrule =>
      labelsFor?_eq_none_iff.1 (List.findSome?_eq_none_iff.1 hfirst rule hrule)
    refine ⟨?_, fun h => .inl ⟨h.symm, silent⟩⟩
    rintro (⟨rfl, -⟩ | ⟨before, rule, after, rfl, -, hgives⟩)
    · rfl
    · exact absurd hgives (silent rule (by simp) labels)
  | some given =>
    constructor
    · rintro (⟨-, silent⟩ | ⟨before, rule, after, hrules, hbefore, hgives⟩)
      · obtain ⟨rule, hrule, hgives⟩ := exists_gives_of_findSome? hfirst
        exact absurd hgives (silent rule hrule given)
      · have hlabels : rules.findSome? (·.labelsFor? path) = some labels :=
          List.findSome?_eq_some_iff.2 ⟨before, rule, after, hrules,
            labelsFor?_eq_some_iff.2 hgives, fun r hr => labelsFor?_eq_none_iff.2 (hbefore r hr)⟩
        exact Option.some.inj (hfirst.symm.trans hlabels)
    · rintro rfl
      obtain ⟨before, rule, after, hrules, hrule, hbefore⟩ := List.findSome?_eq_some_iff.1 hfirst
      exact .inr ⟨before, rule, after, hrules,
        fun r hr => labelsFor?_eq_none_iff.1 (hbefore r hr), labelsFor?_eq_some_iff.1 hrule⟩

lemma flatten_filterMap_labelsFor? (rules : List LabelRule) (path : String) :
    (rules.filterMap (·.labelsFor? path)).flatten =
      (rules.map fun rule => (rule.labelsFor? path).getD []).flatten := by
  induction rules with
  | nil => rfl
  | cons rule rules ih =>
    rw [List.map_cons, List.flatten_cons, ← ih, List.filterMap_cons]
    cases rule.labelsFor? path <;> rfl

lemma eachGives_iff {rules : List LabelRule} {path : String} {labels : List String} :
    EachGives rules path labels ↔ (rules.filterMap (·.labelsFor? path)).flatten = labels := by
  have block (rule : LabelRule) (labels : List String) :
      rule.Gives path labels ∨ (labels = [] ∧ rule.IsSilent path) ↔
        (rule.labelsFor? path).getD [] = labels := by
    rw [← labelsFor?_eq_some_iff, ← labelsFor?_eq_none_iff, eq_comm (a := labels)]
    cases rule.labelsFor? path <;> simp
  rw [flatten_filterMap_labelsFor?, EachGives]
  simp only [forall₂_iff_map_eq block]
  exact ⟨fun ⟨_, hblocks, h⟩ => hblocks ▸ h.symm, fun h => ⟨_, rfl, h.symm⟩⟩

end LabelRule

/-! ## Classifiers -/

namespace LabelClassifier

/-- The labels of a path: those of the first exclusive rule that fires, and then those of each
inclusive rule that does. -/
def PathGives (classifier : LabelClassifier) (path : String) (labels : List String) : Prop :=
  ∃ first each, LabelRule.FirstGives classifier.exclusive path first ∧
    LabelRule.EachGives classifier.inclusive path each ∧ labels = first ++ each

/-- The names that a description begins with: the part before its first colon, split at its commas
and trimmed. -/
def StartsWithNames (body : String) (names : List String) : Prop :=
  ∃ start pieces, Text.StartsBefore ':' body.toList start ∧ Text.SplitsAt ',' start pieces ∧
    List.Forall₂ (fun piece name => Text.TrimsTo piece name.toList) pieces names

/-- The labels of a description: those of its names that the classifier allows. -/
def BodyGives (classifier : LabelClassifier) (body : Option String) (labels : List String) :
    Prop :=
  (body = none ∧ labels = []) ∨
    ∃ text names, body = some text ∧ StartsWithNames text names ∧
      labels = names.filter (· ∈ classifier.subsystems)

/-- The labels of the paths in their order, without a slash in front of each, then those of the
description, and then the release line of the base branch. -/
def Collects (classifier : LabelClassifier) (paths : List String) (body base : Option String)
    (labels : List String) : Prop :=
  ∃ blocks named,
    List.Forall₂ (fun path block =>
      classifier.PathGives (String.ofList (Glob.relative path.toList)) block) paths blocks ∧
    classifier.BodyGives body named ∧
    labels = blocks.flatten ++ named ++ (base.bind releaseLine?).toList

lemma pathGives_iff {classifier : LabelClassifier} {path : String} {labels : List String} :
    classifier.PathGives path labels ↔ classifier.pathLabels path = labels := by
  simp only [PathGives, LabelRule.firstGives_iff, LabelRule.eachGives_iff]
  constructor
  · rintro ⟨first, each, rfl, rfl, rfl⟩
    rfl
  · rintro rfl
    exact ⟨_, _, rfl, rfl, rfl⟩

lemma startsWithNames_iff {body : String} {names : List String} :
    StartsWithNames body names ↔ leadingNames body = names := by
  have trimmed (piece : List Char) (name : String) :
      Text.TrimsTo piece name.toList ↔ String.ofList (Text.trim piece) = name := by
    rw [← Text.trim_eq_iff]
    exact ⟨fun h => by rw [h, String.ofList_toList], fun h => by rw [← h, String.toList_ofList]⟩
  simp only [StartsWithNames, ← Text.takeWhile_ne_eq_iff, ← Text.splitOn_eq_iff,
    forall₂_iff_map_eq trimmed]
  constructor
  · rintro ⟨start, pieces, rfl, rfl, rfl⟩
    rfl
  · rintro rfl
    exact ⟨_, _, rfl, rfl, rfl⟩

lemma bodyGives_iff {classifier : LabelClassifier} {body : Option String} {labels : List String} :
    classifier.BodyGives body labels ↔ (body.map classifier.bodyLabels).getD [] = labels := by
  simp only [BodyGives, startsWithNames_iff]
  have allowed (names : List String) : names.filter (· ∈ classifier.subsystems) =
      names.filter classifier.subsystems.contains :=
    List.filter_congr fun name _ => by simp
  cases body with
  | none => simp [eq_comm]
  | some text => simp [allowed, bodyLabels, eq_comm]

lemma collects_iff {classifier : LabelClassifier} {paths : List String} {body base : Option String}
    {labels : List String} :
    classifier.Collects paths body base labels ↔
      labels = classifier.candidates paths body base := by
  have block (path : String) (labels : List String) :
      classifier.PathGives (String.ofList (Glob.relative path.toList)) labels ↔
        classifier.pathLabels (String.ofList (Glob.relative path.toList)) = labels :=
    pathGives_iff
  simp only [Collects, bodyGives_iff, forall₂_iff_map_eq block]
  constructor
  · rintro ⟨blocks, named, rfl, rfl, rfl⟩
    rw [candidates, List.flatMap]
  · rintro rfl
    exact ⟨_, _, rfl, rfl, by rw [candidates, List.flatMap]⟩

/-- What a pull request is classified by is never empty, has no label twice and keeps to the cap. -/
lemma classify_eq_some {classifier : LabelClassifier} {paths : List String}
    {body base : Option String} {labels : List String}
    (h : classifier.classify paths body base = some labels) :
    labels ≠ [] ∧ labels.Nodup ∧ labels.length ≤ classifier.maxLabels := by
  have cap := classifier.maxLabels_pos
  rw [classify, LabelSet.finish_eq _ cap] at h
  by_cases hempty : (classifier.accumulate paths body base).toList = []
  · rw [if_pos hempty] at h
    cases h
  · rw [if_neg hempty, Option.some.injEq] at h
    subst h
    refine ⟨fun hnil => ?_, (classifier.accumulate paths body base).nodup.sublist
      (List.take_sublist _ _), List.length_take_le _ _⟩
    rcases List.take_eq_nil_iff.1 hnil with hzero | hnil
    · omega
    · exact hempty hnil

/-- A classifier collects one list.  What it accumulates is that list without repetitions, and it
classifies a pull request by the first labels of that, as many as its cap allows, unless there are
none at all. -/
theorem classify_eq_first_collected (classifier : LabelClassifier) (paths : List String)
    (body base : Option String) :
    ∃ collected, (∀ labels, classifier.Collects paths body base labels ↔ labels = collected) ∧
      (classifier.accumulate paths body base).toList = collected.eraseDups ∧
      classifier.classify paths body base =
        (if collected.eraseDups = [] then none
          else some (collected.eraseDups.take classifier.maxLabels)) ∧
      ∀ cap, (classifier.withMaxLabels cap).classify paths body base =
        if collected.eraseDups = [] then none
        else some (collected.eraseDups.take (max cap 1)) := by
  refine ⟨classifier.candidates paths body base, fun labels => collects_iff, ?_, ?_, fun cap => ?_⟩
  · exact LabelSet.toList_ofList _
  · rw [classify, LabelSet.finish_eq _ classifier.maxLabels_pos, accumulate, LabelSet.toList_ofList]
  · have cut := LabelSet.finish_eq (classifier.accumulate paths body base)
      (classifier.withMaxLabels cap).maxLabels_pos
    rw [accumulate, LabelSet.toList_ofList] at cut
    exact cut

end LabelClassifier

end PullTriage
