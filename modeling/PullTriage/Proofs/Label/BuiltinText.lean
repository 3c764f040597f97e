import PullTriage.Proofs.Label.Builtin
import PullTriage.Proofs.Label.Making
import PullTriage.Proofs.Label.ReleaseLine
import PullTriage.Proofs.Label.Template
import PullTriage.Proofs.Regex.Participation

/-!
# The built-in labels as text

A label of the tables is text, except where it refers to a group of its pattern.  A reference could
leave a label without a meaning in two ways: a group that took no part in the match leaves the
reference standing, and a group that stands for nothing may leave a label empty.  Neither happens
with the built-in rules.  In every match of theirs each group that a label refers to stands for a
name, which is not empty and lies between two slashes of the path (`LabelTemplate.IsFilled`).

Only the few patterns behind a reference have to be read for this (`isFilled_of_mem_tables`), and
`Node.names` computes from them what holds of all matches.  So the labels of a pull request are not
empty, and a dollar sign in one of them was in a path: `builtin_labels_filled`.
-/

namespace PullTriage

open Regex

/-! ## Templates without a gap -/

namespace LabelTemplate

/-- In this match each reference of the template is replaced by a name, the text of its group, which
is not empty and has no slash; what stands between the references is text without a dollar sign. -/
structure IsFilled (template : LabelTemplate) (found : Match) : Prop where
  replaced : ∀ index digits, .group index digits ∈ template.segments →
    ∃ name, found.group index = some name ∧ name ≠ "" ∧ '/' ∉ name.toList ∧
      Segment.render found (.group index digits) = name
  literal : ∀ text, .literal text ∈ template.segments → text ≠ "" ∧ '$' ∉ text.toList

variable {template : LabelTemplate} {found : Match}

lemma segments_parse_ne_nil {source : String} (h : source ≠ "") : (parse source).segments ≠ [] := by
  intro hnil
  have written := (isReadFrom_parse source).written
  rw [hnil] at written
  exact h written.symm

lemma IsFilled.render_segment_ne_empty (h : template.IsFilled found) {segment : Segment}
    (hmem : segment ∈ template.segments) : segment.render found ≠ "" := by
  cases segment with
  | literal text => exact (h.literal text hmem).1
  | group index digits =>
    obtain ⟨name, -, hne, -, hrender⟩ := h.replaced index digits hmem
    rwa [hrender]

lemma IsFilled.render_ne_empty (h : template.IsFilled found) (hne : template.segments ≠ []) :
    template.render found ≠ "" := by
  obtain ⟨segment, rest, hsegments⟩ := List.exists_cons_of_ne_nil hne
  have first := h.render_segment_ne_empty (hsegments ▸ List.mem_cons_self)
  rw [← String.toList_inj.ne, toList_render, renderedAll, hsegments, List.flatMap_cons]
  intro hempty
  exact first (String.toList_inj.1 (List.append_eq_nil_iff.1 hempty).1)

/-- A dollar sign of the label was in the text that the groups are taken from. -/
lemma IsFilled.dollar_mem_text (h : template.IsFilled found)
    (hdollar : '$' ∈ (template.render found).toList) : '$' ∈ found.text := by
  rw [toList_render, renderedAll] at hdollar
  obtain ⟨segment, hmem, hsegment⟩ := List.mem_flatMap.1 hdollar
  cases segment with
  | literal text => exact absurd hsegment (h.literal text hmem).2
  | group index digits =>
    obtain ⟨name, hgroup, -, -, hrender⟩ := h.replaced index digits hmem
    rw [hrender] at hsegment
    exact mem_text_of_mem_group hgroup hsegment

end LabelTemplate

namespace LabelClassifier

/-! ## The tables -/

/-- The labels of the entry are text without a dollar sign, except for references to groups that
stand for a name in every match. -/
def Entry.isFilled (entry : Entry) : Bool :=
  entry.labels.all fun label =>
    label != "" && (LabelTemplate.parse label).segments.all fun segment =>
      match segment with
      | .literal text => !text.toList.contains '$'
      | .group index _ => entry.rule.toOption.all fun rule => rule.pattern.node.names '/' index

lemma isFilled_of_mem_tables : ∀ entry ∈ exclusiveTable ++ inclusiveTable,
    entry.isFilled = true := by
  decide +kernel

lemma Entry.isMade {entry : Entry} {rule : LabelRule} (h : entry.rule = .ok rule) :
    LabelRule.IsMade entry.labels rule := by
  obtain ⟨plain, hplain, hrest⟩ := Except.bind_eq_ok_iff.1 h
  cases hexclude : entry.exclude with
  | none =>
    rw [hexclude] at hrest
    obtain rfl := Except.ok.inj hrest
    exact .ofPattern hplain
  | some exclude =>
    rw [hexclude] at hrest
    exact .excluding (.ofPattern hplain) hrest

lemma exists_entry_of_mem_builtin {rule : LabelRule}
    (h : rule ∈ builtin.exclusive ++ builtin.inclusive) :
    ∃ entry ∈ exclusiveTable ++ inclusiveTable, entry.rule = .ok rule := by
  have tables : builtin.exclusive ++ builtin.inclusive = rulesOf (exclusiveTable ++ inclusiveTable) :=
    List.filterMap_append.symm
  rw [tables] at h
  obtain ⟨entry, hentry, hmade⟩ := List.mem_filterMap.1 h
  refine ⟨entry, hentry, ?_⟩
  cases hrule : entry.rule with
  | error e =>
    rw [hrule] at hmade
    cases hmade
  | ok made =>
    rw [hrule] at hmade
    exact congrArg _ (Option.some.inj hmade)

variable {rule : LabelRule} {path : String} {found : Match}

lemma isFilled_parse {entry : Entry} (hfilled : entry.isFilled = true)
    (hrule : entry.rule = .ok rule) {label : String} (hlabel : label ∈ entry.labels)
    (hsearch : rule.pattern.search path = some found) :
    label ≠ "" ∧ (LabelTemplate.parse label).IsFilled found := by
  have checked := List.all_eq_true.1 hfilled label hlabel
  rw [Bool.and_eq_true, bne_iff_ne, List.all_eq_true] at checked
  obtain ⟨hne, hsegments⟩ := checked
  refine ⟨hne, fun index digits hmem => ?_, fun text hmem => ?_⟩
  · have names : rule.pattern.node.names '/' index = true := by
      simpa [hrule, Except.toOption] using hsegments _ hmem
    obtain ⟨name, hgroup, hname, hslash⟩ := exists_group_of_names names hsearch
    refine ⟨name, hgroup, hname, hslash, ?_⟩
    rw [LabelTemplate.Segment.render, hgroup, Option.getD_some]
  · have plain : '$' ∉ text.toList := by simpa using hsegments _ hmem
    exact ⟨(LabelTemplate.isReadFrom_parse label).nonempty text hmem, plain⟩

/-- What is computed of the entries holds of the rules that they make. -/
lemma isFilled_of_mem_builtin (hrule : rule ∈ builtin.exclusive ++ builtin.inclusive)
    (hsearch : rule.pattern.search path = some found) {template : LabelTemplate}
    (htemplate : template ∈ rule.labels) :
    template.segments ≠ [] ∧ template.IsFilled found := by
  obtain ⟨entry, hentry, hmade⟩ := exists_entry_of_mem_builtin hrule
  rw [(Entry.isMade hmade).carries.labels_eq] at htemplate
  obtain ⟨label, hlabel, rfl⟩ := List.mem_map.1 htemplate
  obtain ⟨hne, hfilled⟩ :=
    isFilled_parse (isFilled_of_mem_tables entry hentry) hmade hlabel hsearch
  exact ⟨LabelTemplate.segments_parse_ne_nil hne, hfilled⟩

/-! ## The labels of a pull request -/

variable {paths : List String} {body base : Option String} {label : String}

lemma text_of_mem_pathLabels (h : label ∈ builtin.pathLabels path) :
    label ≠ "" ∧ ('$' ∈ label.toList → '$' ∈ path.toList) := by
  obtain ⟨rule, hrule, labels, ⟨found, hsearch, -, rfl⟩, hlabel⟩ :=
    exists_gives_of_mem_pathLabels h
  obtain ⟨template, htemplate, rfl⟩ := List.mem_map.1 hlabel
  obtain ⟨hne, hfilled⟩ := isFilled_of_mem_builtin hrule hsearch htemplate
  refine ⟨hfilled.render_ne_empty hne, fun hdollar => ?_⟩
  rw [← (way_of_search hsearch).1]
  exact hfilled.dollar_mem_text hdollar

lemma mem_of_mem_relative {c : Char} {text : List Char} (h : c ∈ Glob.relative text) :
    c ∈ text := by
  unfold Glob.relative at h
  split at h
  · exact List.mem_cons_of_mem _ h
  · exact h

lemma text_of_mem_subsystemNames : ∀ name ∈ subsystemNames, name ≠ "" ∧ '$' ∉ name.toList := by
  decide

lemma text_of_releaseLine? {branch : String} (h : releaseLine? branch = some label) :
    label ≠ "" ∧ '$' ∉ label.toList := by
  have plain {text : List Char} (hdigits : IsDigits text) : '$' ∉ text := fun hmem =>
    absurd (hdigits.2 '$' hmem) (by decide)
  obtain ⟨⟨mark, major, minor, hline, hmark, hmajor, hminor⟩, -⟩ := isReleaseLine_of_releaseLine? h
  constructor
  · rintro rfl
    simp at hline
  · have hmark' : '$' ∉ mark := by rcases hmark with rfl | rfl <;> decide
    have hminor' : '$' ∉ minor := by
      rcases hminor with hdigits | rfl
      · exact plain hdigits
      · decide
    simp [hline, hmark', plain hmajor, hminor']

lemma text_of_mem_accumulate (h : label ∈ builtin.accumulate paths body base) :
    label ≠ "" ∧ ('$' ∈ label.toList → ∃ path ∈ paths, '$' ∈ path.toList) := by
  rw [mem_accumulate_iff, candidates, List.mem_append, List.mem_append] at h
  rcases h with (hpath | hbody) | hbase
  · obtain ⟨path, hmem, hlabel⟩ := List.mem_flatMap.1 hpath
    obtain ⟨hne, hpathDollar⟩ := text_of_mem_pathLabels hlabel
    rw [String.toList_ofList] at hpathDollar
    exact ⟨hne, fun hdollar => ⟨path, hmem, mem_of_mem_relative (hpathDollar hdollar)⟩⟩
  · obtain ⟨text, -, hnames⟩ : ∃ text, body = some text ∧ label ∈ builtin.bodyLabels text := by
      cases body with
      | none => cases hbody
      | some text => exact ⟨text, rfl, hbody⟩
    have allowed : label ∈ builtin.subsystems := by simpa using (List.mem_filter.1 hnames).2
    obtain ⟨hne, hplain⟩ := text_of_mem_subsystemNames label allowed
    exact ⟨hne, fun hdollar => absurd hdollar hplain⟩
  · obtain ⟨branch, -, hline⟩ := Option.bind_eq_some_iff.1 (Option.mem_toList.1 hbase)
    obtain ⟨hne, hplain⟩ := text_of_releaseLine? hline
    exact ⟨hne, fun hdollar => absurd hdollar hplain⟩

/-- The built-in labels are always real text.  No label of a pull request is empty or has a dollar
sign that was in no path, and wherever a built-in rule fires its labels are filled: each group that
they refer to took part in the match with a text that is not empty and has no slash, and stands in
the place of the reference. -/
theorem builtin_labels_filled :
    (∀ paths body base, ∀ label ∈ builtin.accumulate paths body base,
        label ≠ "" ∧ ('$' ∈ label.toList → ∃ path ∈ paths, '$' ∈ path.toList)) ∧
      ∀ rule ∈ builtin.exclusive ++ builtin.inclusive, ∀ path found,
        rule.fires? path = some found →
        ∀ template ∈ rule.labels, template.IsFilled found := by
  constructor
  · intro paths body base label hlabel
    exact text_of_mem_accumulate hlabel
  · intro rule hrule path found hfires template htemplate
    exact (isFilled_of_mem_builtin hrule (search_of_fires? hfires) htemplate).2

/-- The rule for dependencies that have none of their own. -/
def dependencyRule : LabelRule where
  pattern :=
    { pattern := "^deps/([^/]+)"
      node := .sequence (.leaf (.look .textStart) :: letters "deps/".toList ++
        [.group 1 (.plus true (.leaf (.one (.compl (.union (.codes []) (.single '/'))))))]) }
  exclude := none
  labels := [⟨"dependencies", [.literal "dependencies"]⟩, ⟨"$1", [.group 1 "1"]⟩]

lemma dependencyRule_mem_builtin : dependencyRule ∈ builtin.exclusive ++ builtin.inclusive := by
  have made : (Entry.rule ⟨"^deps/([^/]+)", ["dependencies", "$1"], none⟩).toOption =
      some dependencyRule := by
    rfl
  refine List.mem_append_left _ (List.mem_filterMap.2 ⟨_, ?_, made⟩)
  simp [exclusiveTable]

/-- A dependency whose name looks like a reference. -/
theorem builtin_labels_filled_dependency :
    "needs-ci" ∈ builtin.accumulate ["deps/$1/lib.c"] none none ∧
      dependencyRule ∈ builtin.exclusive ++ builtin.inclusive ∧
      ∃ found, dependencyRule.fires? "deps/$1/lib.c" = some found ∧ found.group 1 = some "$1" ∧
        "needs-ci" ≠ "" ∧ ∀ template ∈ dependencyRule.labels, template.IsFilled found := by
  have tested : "needs-ci" ∈ builtin.accumulate ["deps/$1/lib.c"] none none := by
    have listed : "deps" ∈ testedDirectories := by decide
    have inside : ("deps" ++ "/").toList <+: (relativePath "deps/$1/lib.c").toList := by decide
    obtain ⟨labels, hlabels, hmem⟩ := needsCi_mem_classify listed inside [] none none
    exact mem_accumulate_iff.2 (mem_candidates_of_classify hlabels hmem)
  have fires : dependencyRule.fires? "deps/$1/lib.c" =
      some ⟨"deps/$1/lib.c".toList, 0, 7, [(1, 5, 7)]⟩ := by
    rfl
  obtain ⟨real, filled⟩ := builtin_labels_filled
  exact ⟨tested, dependencyRule_mem_builtin, _, fires, by decide,
    (real _ none none _ tested).1, filled _ dependencyRule_mem_builtin _ _ fires⟩

end LabelClassifier

end PullTriage
