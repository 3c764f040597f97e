import PullTriage.Proofs.Label.Paths
import PullTriage.Proofs.Regex.Beginning

/-!
# Rules on the paths of an area

An area is a set of paths that is given by how they begin: with one text, and not with some others
(`Area`).  A rule that is written for a directory treats all paths of an area alike, and whether it
does is decided from the beginning of the paths: `Area.fires` says that the rule fires on each of
them, and `Area.silences` that it fires on none.  `LabelRule.leads` and `LabelRule.withholds` say of
a label that the rule gives it first, and that it never gives it.

Where the first rule that fires is the only one that counts, the rules before it matter as well.
`Area.settledBy` walks down the rules to one that fires on all of the area, past rules that fire on
none of it or that give the same label first.  Then the first label of every path of the area is
known, whichever of these rules gives it: `exists_findSome?_of_settledBy`.

These conditions are computed.  They are enough for what is concluded from them, and a rule may well
fire on all of an area without `fires` finding it out.
-/

namespace PullTriage

open Regex

/-! ## The labels of a rule -/

namespace LabelRule

/-- The first label of the rule is this one, whatever the match. -/
def leads (rule : LabelRule) (label : String) : Bool :=
  (rule.labels.head?.map (·.segments)) == some [.literal label]

/-- No label of the rule is this one, whatever the match. -/
def withholds (rule : LabelRule) (label : String) : Bool :=
  rule.labels.all fun template =>
    match template.segments with
    | [.literal text] => text != label
    | _ => false

variable {rule : LabelRule} {path label : String} {labels : List String}

lemma render_of_segments_eq {template : LabelTemplate} {text : String} {found : Match}
    (h : template.segments = [.literal text]) : template.render found = text := by
  rw [LabelTemplate.render, h]
  exact String.empty_append

lemma Gives.length_eq (h : rule.Gives path labels) : labels.length = rule.labels.length := by
  obtain ⟨found, -, -, rfl⟩ := h
  exact List.length_map _

lemma Gives.eq_cons_of_leads (h : rule.Gives path labels) (hleads : rule.leads label = true) :
    ∃ rest, labels = label :: rest := by
  obtain ⟨found, -, -, rfl⟩ := h
  rw [leads, beq_iff_eq, Option.map_eq_some_iff] at hleads
  obtain ⟨template, hhead, hsegments⟩ := hleads
  obtain ⟨rest, hlabels⟩ := List.head?_eq_some_iff.1 hhead
  rw [hlabels, List.map_cons, render_of_segments_eq hsegments]
  exact ⟨_, rfl⟩

lemma Gives.not_mem_of_withholds (h : rule.Gives path labels)
    (hwithholds : rule.withholds label = true) : label ∉ labels := by
  obtain ⟨found, -, -, rfl⟩ := h
  intro hmem
  obtain ⟨template, htemplate, hrender⟩ := List.mem_map.1 hmem
  have hother := List.all_eq_true.1 hwithholds template htemplate
  split at hother
  · rename_i text hsegments
    rw [render_of_segments_eq hsegments] at hrender
    simp [hrender] at hother
  · cases hother

end LabelRule

/-! ## Areas -/

/-- The paths that begin with `opening` and with none of `without`. -/
structure Area where
  opening : String
  without : List String := []
deriving Repr, DecidableEq

namespace Area

/-- Is the path, relative to the root, one of the area? -/
def Has (area : Area) (path : String) : Prop :=
  area.opening.toList <+: path.toList ∧
    ∀ other ∈ area.without, ¬ other.toList <+: path.toList

instance (area : Area) (path : String) : Decidable (area.Has path) :=
  inferInstanceAs (Decidable (_ ∧ _))

/-- The expression matches no path of the area: a path with this opening has no match, or only the
paths have one that are taken out of the area. -/
def avoids (area : Area) (re : Regex) : Bool :=
  re.node.avoids area.opening.toList ||
    area.without.any fun other => re.node == (Node.word other.toList).fromStart

/-- The expression matches every path of the area, since it is the opening behind `^`. -/
def ensures (area : Area) (re : Regex) : Bool :=
  re.node == (Node.word area.opening.toList).fromStart

/-- The rule fires on no path of the area. -/
def silences (area : Area) (rule : LabelRule) : Bool :=
  area.avoids rule.pattern || rule.exclude.any area.ensures

/-- The rule fires on every path of the area. -/
def fires (area : Area) (rule : LabelRule) : Bool :=
  area.ensures rule.pattern && rule.exclude.all area.avoids

/-- Of the rules, the first one that fires gives this label first, on every path of the area, and
there is one that fires. -/
def settledBy (area : Area) (label : String) : List LabelRule → Bool
  | [] => false
  | rule :: rest =>
    rule.leads label && area.fires rule ||
      (rule.leads label || area.silences rule) && area.settledBy label rest

variable {area : Area} {path label : String} {re : Regex} {rule : LabelRule}

lemma isSome_search_of_eq_word {word : List Char} (h : re.node = (Node.word word).fromStart) :
    (re.search path).isSome = true ↔ word <+: path.toList := by
  rw [Regex.search, Option.isSome_map, h, isSome_search_fromStart (reads_word word),
    ← ways_zero_ne_nil_iff (reads_word word), ways_word_ne_nil_iff]

lemma search_eq_none (hpath : area.Has path) (h : area.avoids re = true) :
    re.search path = none := by
  obtain ⟨hopening, hwithout⟩ := hpath
  rcases Bool.or_eq_true_iff.1 h with havoids | htaken
  · exact search_eq_none_of_avoids havoids hopening
  · obtain ⟨other, hother, heq⟩ := List.any_eq_true.1 htaken
    rw [beq_iff_eq] at heq
    rw [← Option.not_isSome_iff_eq_none, isSome_search_of_eq_word heq]
    exact hwithout other hother

lemma isSome_search (hpath : area.Has path) (h : area.ensures re = true) :
    (re.search path).isSome = true := by
  rw [ensures, beq_iff_eq] at h
  exact (isSome_search_of_eq_word h).2 hpath.1

lemma isSilent_of_silences (hpath : area.Has path) (h : area.silences rule = true) :
    rule.IsSilent path := by
  rintro labels ⟨found, hfound, hexclude, -⟩
  rcases Bool.or_eq_true_iff.1 h with havoids | hexcluded
  · rw [search_eq_none hpath havoids] at hfound
    cases hfound
  · obtain ⟨exclude, heq, hensures⟩ := (Option.any_eq_true _ _).1 hexcluded
    have hsome : (exclude.search path).isSome = true := isSome_search hpath hensures
    rw [hexclude exclude heq] at hsome
    cases hsome

lemma gives_of_fires (hpath : area.Has path) (h : area.fires rule = true) :
    ∃ labels, rule.Gives path labels := by
  obtain ⟨hensures, havoids⟩ := Bool.and_eq_true_iff.1 h
  obtain ⟨found, hfound⟩ := Option.isSome_iff_exists.1 (isSome_search hpath hensures)
  refine ⟨_, found, hfound, ?_, rfl⟩
  intro exclude heq
  rw [heq, Option.all_some] at havoids
  exact search_eq_none hpath havoids

/-- The first label of a path of the area, as far as these rules give it. -/
theorem exists_findSome?_of_settledBy (hpath : area.Has path) {rules : List LabelRule}
    (h : area.settledBy label rules = true) :
    ∃ rest, rules.findSome? (·.labelsFor? path) = some (label :: rest) := by
  induction rules with
  | nil => cases h
  | cons rule rules ih =>
    rw [settledBy, Bool.or_eq_true, Bool.and_eq_true, Bool.and_eq_true, Bool.or_eq_true] at h
    rw [List.findSome?_cons]
    cases hgiven : rule.labelsFor? path with
    | none =>
      have silent : rule.IsSilent path := LabelRule.labelsFor?_eq_none_iff.1 hgiven
      rcases h with ⟨-, hfires⟩ | ⟨-, hrest⟩
      · obtain ⟨labels, hlabels⟩ := gives_of_fires hpath hfires
        exact absurd hlabels (silent labels)
      · exact ih hrest
    | some labels =>
      have gives : rule.Gives path labels := LabelRule.labelsFor?_eq_some_iff.1 hgiven
      have leads : rule.leads label = true := by
        rcases h with ⟨hleads, -⟩ | ⟨hleads | hsilences, -⟩
        · exact hleads
        · exact hleads
        · exact absurd gives (isSilent_of_silences hpath hsilences labels)
      obtain ⟨rest, rfl⟩ := gives.eq_cons_of_leads leads
      exact ⟨rest, rfl⟩

end Area

end PullTriage
