import PullTriage.Label.Builtin
import PullTriage.Proofs.Label.Classification
import Mathlib.Data.List.Infix
import Mathlib.Data.List.Perm.Basic
import Mathlib.Data.Option.Basic

/-!
# Labels and the list of paths

The labels of a pull request come from its paths first, one path after the other, and the
description and the base branch only add to them.  Two things follow about the list of paths.

What comes later displaces nothing: more paths, a description and a base branch put new labels
behind those that are there (`accumulate_grows`).  So once there are as many labels as the cap
allows, they stay what they are, and what the first path gives is the beginning of the list,
whatever else is in it (`exists_classify_eq_cons`, `exists_mem_classify`).

And the set of labels depends on the set of paths only (`accumulate_of_samePaths`): the order of the
list and its repetitions decide in what order the labels come, and by that which of them a cap
leaves, but nothing else.
-/

namespace PullTriage

namespace LabelClassifier

variable {classifier : LabelClassifier} {paths more others : List String}
  {body base : Option String}

lemma mem_accumulate_iff {label : String} : label ∈ classifier.accumulate paths body base ↔
    label ∈ classifier.candidates paths body base :=
  LabelSet.mem_toList_ofList

lemma classify_eq (classifier : LabelClassifier) (paths : List String) (body base : Option String) :
    classifier.classify paths body base =
      if (classifier.accumulate paths body base).toList = [] then none
      else some ((classifier.accumulate paths body base).toList.take classifier.maxLabels) :=
  LabelSet.finish_eq _ classifier.maxLabels_pos

/-! ## More paths -/

lemma candidates_append (classifier : LabelClassifier) (paths more : List String)
    (body base : Option String) : classifier.candidates (paths ++ more) body base =
      classifier.candidates paths none none ++ classifier.candidates more body base := by
  simp [candidates]

/-- What comes later adds its own labels, as far as they are new. -/
lemma toList_accumulate_append (classifier : LabelClassifier) (paths more : List String)
    (body base : Option String) : (classifier.accumulate (paths ++ more) body base).toList =
      (classifier.accumulate paths none none).toList ++
        (classifier.accumulate more body base).toList.filter
          (· ∉ classifier.accumulate paths none none) := by
  simp only [mem_accumulate_iff]
  rw [accumulate, candidates_append, LabelSet.toList_ofList, Distinct.eraseDups_append_eq,
    accumulate, accumulate, LabelSet.toList_ofList, LabelSet.toList_ofList]

lemma prefix_accumulate_append (classifier : LabelClassifier) (paths more : List String)
    (body base : Option String) : (classifier.accumulate paths none none).toList <+:
      (classifier.accumulate (paths ++ more) body base).toList := by
  rw [toList_accumulate_append]
  exact List.prefix_append _ _

lemma classify_grows {labels : List String}
    (h : classifier.classify paths none none = some labels) :
    ∃ longer, classifier.classify (paths ++ more) body base = some longer ∧ labels <+: longer := by
  have grows := prefix_accumulate_append classifier paths more body base
  rw [classify_eq] at h
  by_cases hnil : (classifier.accumulate paths none none).toList = []
  · simp [hnil] at h
  · simp only [hnil, if_false, Option.some.injEq] at h
    have hlonger : (classifier.accumulate (paths ++ more) body base).toList ≠ [] := by
      intro hempty
      exact hnil (List.prefix_nil.1 (hempty ▸ grows))
    rw [classify_eq, if_neg hlonger]
    exact ⟨_, rfl, h ▸ grows.take classifier.maxLabels⟩

/-- Where the cap is reached, what comes later adds nothing. -/
lemma classify_of_full
    (full : classifier.maxLabels ≤ (classifier.accumulate paths none none).size) :
    classifier.classify (paths ++ more) body base = classifier.classify paths none none := by
  have cap := classifier.maxLabels_pos
  have hlength : classifier.maxLabels ≤ (classifier.accumulate paths none none).toList.length :=
    full
  have hnil : (classifier.accumulate paths none none).toList ≠ [] := by
    intro hempty
    simp [hempty] at hlength
    omega
  rw [classify_eq, classify_eq, if_neg hnil, toList_accumulate_append,
    List.take_append_of_le_length hlength, if_neg (by simp [hnil])]

/-- What comes later never displaces a label: it adds its own, as far as they are new, behind those
of the paths before, and under a cap it adds less, or nothing. -/
theorem accumulate_grows (classifier : LabelClassifier) (paths more : List String)
    (body base : Option String) :
    (classifier.accumulate paths none none).toList <+:
        (classifier.accumulate (paths ++ more) body base).toList ∧
      (classifier.accumulate (paths ++ more) none none).toList =
        (classifier.accumulate paths none none).toList ++
          (classifier.accumulate more none none).toList.filter
            (· ∉ classifier.accumulate paths none none) ∧
      (∀ labels, classifier.classify paths none none = some labels →
        ∃ longer, classifier.classify (paths ++ more) body base = some longer ∧
          labels <+: longer) ∧
      (classifier.maxLabels ≤ (classifier.accumulate paths none none).size →
        classifier.classify (paths ++ more) body base = classifier.classify paths none none) :=
  ⟨prefix_accumulate_append classifier paths more body base,
    toList_accumulate_append classifier paths more none none,
    fun _ => classify_grows, classify_of_full⟩

/-- A classifier with one rule of each kind. -/
def docsClassifier : LabelClassifier :=
  ofTables (rulesOf [⟨"^doc/", ["doc"], none⟩])
    (rulesOf [⟨"^lib/([a-z]+)", ["lib", "$1"], none⟩]) ["fs"]

example : (docsClassifier.withMaxLabels 2).classify ["lib/fs.js", "doc/a.md"] none (some "v18.x") =
    (docsClassifier.withMaxLabels 2).classify ["lib/fs.js"] none none := by decide +kernel

/-! ## The first path -/

section FirstPath

variable {path label : String} {front back : List String}

/-- The path as the rules see it. -/
def relativePath (path : String) : String :=
  String.ofList (Glob.relative path.toList)

lemma candidates_cons (classifier : LabelClassifier) (path : String) (more : List String)
    (body base : Option String) : classifier.candidates (path :: more) body base =
      classifier.pathLabels (relativePath path) ++ classifier.candidates more body base := by
  simp [candidates, relativePath]

lemma exists_gives_of_mem_pathLabels (h : label ∈ classifier.pathLabels path) :
    ∃ rule ∈ classifier.exclusive ++ classifier.inclusive, ∃ labels,
      rule.Gives path labels ∧ label ∈ labels := by
  rcases List.mem_append.1 h with hfirst | heach
  · cases hlabels : classifier.exclusive.findSome? (·.labelsFor? path) with
    | none =>
      rw [hlabels] at hfirst
      cases hfirst
    | some labels =>
      rw [hlabels] at hfirst
      obtain ⟨rule, hrule, hgives⟩ := LabelRule.exists_gives_of_findSome? hlabels
      exact ⟨rule, List.mem_append_left _ hrule, labels, hgives, hfirst⟩
  · obtain ⟨labels, hlabels, hmem⟩ := List.mem_flatten.1 heach
    obtain ⟨rule, hrule, hgiven⟩ := List.mem_filterMap.1 hlabels
    exact ⟨rule, List.mem_append_right _ hrule, labels,
      LabelRule.labelsFor?_eq_some_iff.1 hgiven, hmem⟩

lemma mem_candidates_of_classify {labels : List String}
    (h : classifier.classify paths body base = some labels) (hlabel : label ∈ labels) :
    label ∈ classifier.candidates paths body base := by
  rw [classify_eq, Option.ite_none_left_eq_some] at h
  obtain ⟨-, hlabels⟩ := h
  obtain rfl := Option.some.inj hlabels
  exact mem_accumulate_iff.1 (List.mem_of_mem_take hlabel)

/-- A label with few labels of the first path before it is left by the cap. -/
lemma exists_mem_classify (h : classifier.pathLabels (relativePath path) = front ++ label :: back)
    (hcap : front.length < classifier.maxLabels) :
    ∃ labels, classifier.classify (path :: more) body base = some labels ∧ label ∈ labels := by
  have hlist : (classifier.accumulate (path :: more) body base).toList =
      (front ++ label :: (back ++ classifier.candidates more body base)).eraseDups := by
    rw [accumulate, LabelSet.toList_ofList, candidates_cons, h, List.append_assoc,
      List.cons_append]
  have hmem : label ∈
      (classifier.accumulate (path :: more) body base).toList.take classifier.maxLabels := by
    rw [hlist]
    exact Distinct.mem_take_eraseDups hcap
  refine ⟨_, ?_, hmem⟩
  rw [classify_eq, if_neg]
  intro hnil
  rw [hnil, List.take_nil] at hmem
  cases hmem

/-- The first label of the first path comes first. -/
lemma exists_classify_eq_cons (h : classifier.pathLabels (relativePath path) = label :: back) :
    ∃ rest, classifier.classify (path :: more) body base = some (label :: rest) := by
  obtain ⟨rest, hlist⟩ : ∃ rest, (classifier.accumulate (path :: more) body base).toList =
      label :: rest := by
    rw [accumulate, LabelSet.toList_ofList, candidates_cons, h, List.cons_append,
      List.eraseDups_cons]
    exact ⟨_, rfl⟩
  obtain ⟨n, hn⟩ := Nat.exists_eq_succ_of_ne_zero classifier.maxLabels_pos.ne'
  rw [classify_eq, hlist, if_neg (List.cons_ne_nil _ _), hn, List.take_succ_cons]
  exact ⟨_, rfl⟩

end FirstPath

/-! ## The same paths -/

/-- The two are one path, written alike or one of them with a slash in front. -/
inductive SamePath : String → String → Prop
  | refl (path : String) : SamePath path path
  | rooted {path : String} (h : path.toList.head? ≠ some '/') : SamePath ("/" ++ path) path
  | relative {path : String} (h : path.toList.head? ≠ some '/') : SamePath path ("/" ++ path)

/-- The lists have the same paths, in any order and any number of times. -/
structure SamePaths (paths others : List String) : Prop where
  left : ∀ path ∈ paths, ∃ other ∈ others, SamePath path other
  right : ∀ other ∈ others, ∃ path ∈ paths, SamePath other path

lemma SamePaths.symm (h : SamePaths paths others) : SamePaths others paths :=
  ⟨h.right, h.left⟩

lemma relative_of_head?_ne {path : List Char} (h : path.head? ≠ some '/') :
    Glob.relative path = path := by
  cases path with
  | nil => rfl
  | cons c rest =>
    have hc : c ≠ '/' := by simpa using h
    simp [Glob.relative, hc]

/-- One path is seen by the rules in one way. -/
lemma SamePath.relative_eq {path other : String} (h : SamePath path other) :
    Glob.relative path.toList = Glob.relative other.toList := by
  have slashed (path : String) : Glob.relative ("/" ++ path).toList = path.toList := by
    rw [String.toList_append]
    rfl
  cases h with
  | refl => rfl
  | rooted h => rw [slashed, relative_of_head?_ne h]
  | relative h => rw [slashed, relative_of_head?_ne h]

lemma candidates_subset_of_samePaths (h : SamePaths paths others) :
    classifier.candidates paths body base ⊆ classifier.candidates others body base := by
  intro label hlabel
  simp only [candidates, List.mem_append, List.mem_flatMap] at hlabel ⊢
  refine hlabel.imp_left (Or.imp_left ?_)
  rintro ⟨path, hpath, hgiven⟩
  obtain ⟨other, hother, same⟩ := h.left path hpath
  exact ⟨other, hother, same.relative_eq ▸ hgiven⟩

lemma mem_accumulate_of_samePaths (h : SamePaths paths others) (label : String) :
    label ∈ classifier.accumulate paths body base ↔
      label ∈ classifier.accumulate others body base := by
  rw [mem_accumulate_iff, mem_accumulate_iff]
  exact ⟨fun hlabel => candidates_subset_of_samePaths h hlabel,
    fun hlabel => candidates_subset_of_samePaths h.symm hlabel⟩

/-- The labels are the same, in some order. -/
lemma accumulate_perm_of_samePaths (h : SamePaths paths others) :
    (classifier.accumulate paths body base).toList.Perm
      (classifier.accumulate others body base).toList :=
  (List.perm_ext_iff_of_nodup (LabelSet.nodup _) (LabelSet.nodup _)).2
    (mem_accumulate_of_samePaths h)

/-- The order in which the paths are listed, and their repetitions, matter for the order of the
labels and for nothing else, as long as the cap leaves all of them. -/
theorem accumulate_of_samePaths (h : SamePaths paths others) :
    (∀ label, label ∈ classifier.accumulate paths body base ↔
        label ∈ classifier.accumulate others body base) ∧
      (classifier.classify paths body base = none ↔
        classifier.classify others body base = none) ∧
      ((classifier.accumulate paths body base).size ≤ classifier.maxLabels →
        Option.Rel List.Perm (classifier.classify paths body base)
          (classifier.classify others body base)) := by
  have perm : (classifier.accumulate paths body base).toList.Perm
      (classifier.accumulate others body base).toList := accumulate_perm_of_samePaths h
  have hnil : (classifier.accumulate paths body base).toList = [] ↔
      (classifier.accumulate others body base).toList = [] := by
    rw [← List.length_eq_zero_iff, perm.length_eq, List.length_eq_zero_iff]
  refine ⟨mem_accumulate_of_samePaths h, ?_, fun hsize => ?_⟩
  · simp [classify_eq, hnil]
  · have hlength : (classifier.accumulate paths body base).toList.length ≤ classifier.maxLabels :=
      hsize
    rw [classify_eq, classify_eq, List.take_of_length_le hlength,
      List.take_of_length_le (perm.length_eq ▸ hlength)]
    by_cases hempty : (classifier.accumulate others body base).toList = []
    · rw [if_pos (hnil.2 hempty), if_pos hempty]
      exact .none
    · rw [if_neg (mt hnil.1 hempty), if_neg hempty]
      exact .some perm

/-- Another order, a repetition, and slashes in front: the labels come in another order. -/
theorem accumulate_of_samePaths_docs :
    SamePaths ["/lib/fs.js", "doc/a.md"] ["doc/a.md", "lib/fs.js", "/doc/a.md"] ∧
      docsClassifier.classify ["/lib/fs.js", "doc/a.md"] none none = some ["lib", "fs", "doc"] ∧
      docsClassifier.classify ["doc/a.md", "lib/fs.js", "/doc/a.md"] none none =
        some ["doc", "lib", "fs"] ∧
      Option.Rel List.Perm (docsClassifier.classify ["/lib/fs.js", "doc/a.md"] none none)
        (docsClassifier.classify ["doc/a.md", "lib/fs.js", "/doc/a.md"] none none) := by
  have library : SamePath ("/" ++ "lib/fs.js") "lib/fs.js" := .rooted (by decide)
  have document : SamePath ("/" ++ "doc/a.md") "doc/a.md" := .rooted (by decide)
  have library' : SamePath "lib/fs.js" ("/" ++ "lib/fs.js") := .relative (by decide)
  rw [show "/" ++ "lib/fs.js" = "/lib/fs.js" by decide] at library library'
  rw [show "/" ++ "doc/a.md" = "/doc/a.md" by decide] at document
  have same : SamePaths ["/lib/fs.js", "doc/a.md"] ["doc/a.md", "lib/fs.js", "/doc/a.md"] := by
    constructor
    · simp only [List.forall_mem_cons]
      exact ⟨⟨"lib/fs.js", by simp, library⟩, ⟨"doc/a.md", by simp, .refl _⟩, by simp⟩
    · simp only [List.forall_mem_cons]
      exact ⟨⟨"doc/a.md", by simp, .refl _⟩, ⟨"/lib/fs.js", by simp, library'⟩,
        ⟨"doc/a.md", by simp, document⟩, by simp⟩
  exact ⟨same, by decide +kernel, by decide +kernel,
    (accumulate_of_samePaths same).2.2 (by decide +kernel)⟩

end LabelClassifier

end PullTriage
