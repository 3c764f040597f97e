import PullTriage.Proofs.Label.Areas

/-!
# What the built-in tables do

The built-in rules are read here for what they do on all paths.  There are over a hundred of them,
and what has to be known of each is computed in one place, `exclusiveRules_audit`, in the terms of
`Proofs/Label/Areas.lean`; everything else follows from it.

The rules are written for paths relative to the root, and they look at the beginning of a path.  Two
of them do so in part only: their `^` belongs to the first of several alternatives, and the other
alternatives match inside a path too.  `builtin_match_start` says of which paths the match begins
where the path does, and `builtin_match_inside` shows a build file of a dependency that the rule for
those at the root claims.

For the main directories the first label of a path is fixed, whatever stands behind the directory
and whichever of the particular rules gives it (`builtin_covers`).  And wherever a change needs
`needs-ci`, the label comes early enough for the cap to leave it, since an exclusive rule gives four
labels at most.
-/

namespace PullTriage

namespace LabelClassifier

open Regex

/-! ## The rules -/

/-- The expression for the scripts that configure a build. -/
def configureNode : Node Leaf :=
  .cat (.option true (.word "android-".toList)) (.word "configure".toList)

/-- The expression for build files, whose second and third alternatives may match inside a path. -/
def buildFiles : Regex where
  pattern := r"^(?:android-)?configure|node\.gyp|common\.gypi$"
  node :=
    .alt configureNode.fromStart
      (.alt (.word "node.gyp".toList) (.wordAtEnd "common.gypi".toList))

/-- The expression for editor settings, whose second alternative may match inside a path. -/
def editorFiles : Regex where
  pattern := r"^\.eslint|\.editorconfig"
  node := .alt (.fromStart (.word ".eslint".toList)) (.word ".editorconfig".toList)

/-- The rule for the changes that have to be tested. -/
def needsCi : LabelRule where
  pattern :=
    { pattern := "^(deps|lib|src|test)/"
      node := .fromStart (.cat
        (.group 1 (.alt (.word "deps".toList) (.alt (.word "lib".toList)
          (.alt (.word "src".toList) (.word "test".toList)))))
        (.leaf (.one (.single '/')))) }
  exclude := none
  labels := [⟨"needs-ci", [.literal "needs-ci"]⟩]

/-- The rule for the sources. -/
def sources : LabelRule where
  pattern :=
    { pattern := "^(lib|src)/"
      node := .fromStart (.cat (.group 1 (.alt (.word "lib".toList) (.word "src".toList)))
        (.leaf (.one (.single '/')))) }
  exclude := none
  labels := [⟨"lib / src", [.literal "lib / src"]⟩]

/-- The areas of which the first label is fixed. -/
def areaLabels : List (Area × String) :=
  [ (⟨"test/", []⟩, "test"),
    (⟨"benchmark/", []⟩, "benchmark"),
    (⟨"doc/changelogs/", []⟩, "release"),
    (⟨"doc/", ["doc/changelogs/"]⟩, "doc"),
    (⟨"src/node_sea", []⟩, "single-executable"),
    (⟨"src/", ["src/node_sea", "src/node_version.h"]⟩, "c++") ]

/-- The header that a release changes, which is no C++ to be reviewed. -/
def versionHeader : Area :=
  ⟨"src/node_version.h", []⟩

/-- All that has to be computed of the exclusive rules.  It stands in one statement because reading
the patterns takes most of the time, and they are read once for a statement. -/
lemma exclusiveRules_audit :
    (rulesOf exclusiveTable).length = exclusiveTable.length ∧
      (∀ rule ∈ rulesOf exclusiveTable, rule.pattern.node.isAnchored = true ∨
        rule.pattern = buildFiles ∨ rule.pattern = editorFiles) ∧
      (∀ x ∈ areaLabels, x.1.settledBy x.2 (rulesOf exclusiveTable) = true) ∧
      (∀ rule ∈ rulesOf exclusiveTable,
        versionHeader.silences rule = true ∨ rule.withholds "c++" = true) ∧
      ∀ rule ∈ rulesOf exclusiveTable, rule.labels.length ≤ 4 := by
  decide +kernel

lemma rulesOf_inclusiveTable : rulesOf inclusiveTable = [needsCi, sources] := by
  decide +kernel

lemma isAnchored_of_mem_inclusive {rule : LabelRule} (h : rule ∈ rulesOf inclusiveTable) :
    rule.pattern.node.isAnchored = true := by
  rw [rulesOf_inclusiveTable] at h
  rcases List.mem_pair.1 h with rfl | rfl
  · decide
  · decide

lemma withholds_of_mem_inclusive {rule : LabelRule} (h : rule ∈ rulesOf inclusiveTable) :
    rule.withholds "c++" = true := by
  rw [rulesOf_inclusiveTable] at h
  rcases List.mem_pair.1 h with rfl | rfl
  · decide
  · decide

/-! ## Where a rule matches -/

/-- Every entry of the tables makes a rule. -/
theorem builtin_complete : builtin.exclusive.length = exclusiveTable.length ∧
    builtin.inclusive.length = inclusiveTable.length :=
  ⟨exclusiveRules_audit.1, congrArg List.length rulesOf_inclusiveTable⟩

/-- The path is that of a build file at the root, as the rule for build files writes them. -/
def NamesBuildFile (path : String) : Prop :=
  (∃ name ∈ ["android-configure", "configure", "node.gyp"], name.toList <+: path.toList) ∨
    path = "common.gypi"

/-- The path is that of editor settings at the root. -/
def NamesEditorFile (path : String) : Prop :=
  ∃ name ∈ [".eslint", ".editorconfig"], name.toList <+: path.toList

/-- The first alternative of the expression for build files, at the beginning of a text. -/
lemma ways_configure_ne_nil_iff {text : List Char} :
    configureNode.ways text 0 ≠ [] ↔
      "android-configure".toList <+: text ∨ "configure".toList <+: text := by
  have reads : configureNode.Reads (({"android-".toList} + 1) * {"configure".toList}) :=
    reads_cat (reads_option (reads_word _)) (reads_word _)
  rw [ways_zero_ne_nil_iff reads]
  constructor
  · rintro ⟨_, ⟨_, rfl | rfl, _, rfl, rfl⟩, hbegins⟩
    · exact .inl hbegins
    · exact .inr hbegins
  · rintro (hbegins | hbegins)
    · exact ⟨_, ⟨"android-".toList, .inl rfl, "configure".toList, rfl, rfl⟩, hbegins⟩
    · exact ⟨_, ⟨[], .inr rfl, "configure".toList, rfl, rfl⟩, hbegins⟩

lemma start_eq_zero_of_buildFiles {path : String} {found : Match}
    (h : buildFiles.search path = some found) : found.start = 0 ↔ NamesBuildFile path := by
  have hways : buildFiles.node.ways path.toList 0 ≠ [] ↔
      configureNode.ways path.toList 0 ≠ [] ∨ (Node.word "node.gyp".toList).ways path.toList 0 ≠ [] ∨
        (Node.wordAtEnd "common.gypi".toList).ways path.toList 0 ≠ [] := by
    simp only [buildFiles, Node.ways, ways_fromStart _ (Nat.zero_le _), if_pos, ne_eq,
      List.append_eq_nil_iff, not_and_or]
  rw [start_eq_zero_iff h, hways, ways_configure_ne_nil_iff, ways_word_ne_nil_iff,
    ways_wordAtEnd_ne_nil_iff, String.toList_inj, NamesBuildFile]
  simp [or_assoc]

lemma start_eq_zero_of_editorFiles {path : String} {found : Match}
    (h : editorFiles.search path = some found) : found.start = 0 ↔ NamesEditorFile path := by
  have hways : editorFiles.node.ways path.toList 0 ≠ [] ↔
      (Node.word ".eslint".toList).ways path.toList 0 ≠ [] ∨
        (Node.word ".editorconfig".toList).ways path.toList 0 ≠ [] := by
    simp only [editorFiles, Node.ways, ways_fromStart _ (Nat.zero_le _), if_pos, ne_eq,
      List.append_eq_nil_iff, not_and_or]
  rw [start_eq_zero_iff h, hways, ways_word_ne_nil_iff, ways_word_ne_nil_iff, NamesEditorFile]
  simp

lemma search_of_fires? {rule : LabelRule} {path : String} {found : Match}
    (h : rule.fires? path = some found) : rule.pattern.search path = some found := by
  rw [LabelRule.fires?, Option.ite_none_left_eq_some] at h
  exact h.2

lemma isAnchored_of_mem_builtin {rule : LabelRule}
    (h : rule ∈ builtin.exclusive ++ builtin.inclusive) :
    rule.pattern.node.isAnchored = true ∨ rule.pattern = buildFiles ∨
      rule.pattern = editorFiles := by
  rcases List.mem_append.1 h with hexclusive | hinclusive
  · exact exclusiveRules_audit.2.1 rule hexclusive
  · exact .inl (isAnchored_of_mem_inclusive hinclusive)

/-- A match of a built-in rule begins where the path does, except that the rules for build files and
for editor settings also claim files of these names inside other directories. -/
theorem builtin_match_start {rule : LabelRule}
    (hrule : rule ∈ builtin.exclusive ++ builtin.inclusive) {path : String} {found : Match}
    (hfires : rule.fires? path = some found) :
    found.start = 0 ↔ (rule.pattern = buildFiles → NamesBuildFile path) ∧
      (rule.pattern = editorFiles → NamesEditorFile path) := by
  have hsearch : rule.pattern.search path = some found := search_of_fires? hfires
  rcases isAnchored_of_mem_builtin hrule with h | h | h
  · have hbuild : rule.pattern ≠ buildFiles := by
      intro heq
      rw [heq] at h
      exact absurd h (by decide)
    have heditor : rule.pattern ≠ editorFiles := by
      intro heq
      rw [heq] at h
      exact absurd h (by decide)
    have hstart : found.start = 0 := start_eq_zero_of_isAnchored h hsearch
    simp [hstart, hbuild, heditor]
  · rw [h] at hsearch
    have hne : buildFiles ≠ editorFiles := by decide
    simp [h, hne, start_eq_zero_of_buildFiles hsearch]
  · rw [h] at hsearch
    have hne : editorFiles ≠ buildFiles := by decide
    simp [h, hne, start_eq_zero_of_editorFiles hsearch]

/-- The rule of the entry for build files. -/
def buildRule : LabelRule where
  pattern := buildFiles
  exclude := none
  labels := [⟨"build", [.literal "build"]⟩, ⟨"needs-ci", [.literal "needs-ci"]⟩]

lemma buildRule_mem_builtin : buildRule ∈ builtin.exclusive ++ builtin.inclusive := by
  have made : (Entry.rule ⟨r"^(?:android-)?configure|node\.gyp|common\.gypi$",
      ["build", "needs-ci"], none⟩).toOption = some buildRule := by
    decide +kernel
  refine List.mem_append_left _ (List.mem_filterMap.2 ⟨_, ?_, made⟩)
  simp [exclusiveTable]

/-- A build file at the root. -/
theorem builtin_match_start_configure :
    buildRule ∈ builtin.exclusive ++ builtin.inclusive ∧
      ∃ found, buildRule.fires? "configure.py" = some found ∧ found.start = 0 := by
  have fires : (buildRule.fires? "configure.py").isSome = true := by decide +kernel
  obtain ⟨found, hfound⟩ := Option.isSome_iff_exists.1 fires
  refine ⟨buildRule_mem_builtin, found, hfound,
    (builtin_match_start buildRule_mem_builtin hfound).2 ⟨?_, ?_⟩⟩
  · intro _
    exact .inl ⟨"configure", by simp, by decide⟩
  · intro heq
    exact absurd heq (by decide)

/-- The rule for the build files at the root claims one of a dependency. -/
theorem builtin_match_inside :
    ∃ rule ∈ builtin.exclusive ++ builtin.inclusive, ∃ found,
      rule.fires? "deps/v8/node.gyp" = some found ∧ found.start ≠ 0 := by
  have start : (buildRule.fires? "deps/v8/node.gyp").map (·.start) = some 8 := by
    decide +kernel
  obtain ⟨found, hfires, hstart⟩ := Option.map_eq_some_iff.1 start
  refine ⟨buildRule, buildRule_mem_builtin, found, hfires, ?_⟩
  rw [hstart]
  decide

/-! ## The labels of the main directories -/

variable {path : String}

lemma classify_of_area {area : Area} {label : String} (harea : (area, label) ∈ areaLabels)
    (hpath : area.Has (relativePath path)) (more : List String) (body base : Option String) :
    ∃ rest, builtin.classify (path :: more) body base = some (label :: rest) := by
  obtain ⟨-, -, hsettled, -⟩ := exclusiveRules_audit
  obtain ⟨rest, hrest⟩ := Area.exists_findSome?_of_settledBy hpath (hsettled _ harea)
  have hfirst : builtin.exclusive.findSome? (·.labelsFor? (relativePath path)) =
      some (label :: rest) := hrest
  have hlabels : builtin.pathLabels (relativePath path) = label :: (rest ++
      (builtin.inclusive.filterMap (·.labelsFor? (relativePath path))).flatten) := by
    rw [pathLabels, hfirst, Option.getD_some, List.cons_append]
  exact exists_classify_eq_cons hlabels

lemma not_mem_pathLabels_versionHeader (hpath : versionHeader.Has path) :
    "c++" ∉ builtin.pathLabels path := by
  obtain ⟨-, -, -, hversion, -⟩ := exclusiveRules_audit
  intro hmem
  obtain ⟨rule, hrule, labels, hgives, hlabel⟩ := exists_gives_of_mem_pathLabels hmem
  have split : versionHeader.silences rule = true ∨ rule.withholds "c++" = true := by
    rcases List.mem_append.1 hrule with hexclusive | hinclusive
    · exact hversion rule hexclusive
    · exact .inr (withholds_of_mem_inclusive hinclusive)
  rcases split with hsilences | hwithholds
  · exact Area.isSilent_of_silences hpath hsilences labels hgives
  · exact hgives.not_mem_of_withholds hwithholds hlabel

/-- The directories of which a change has to be tested. -/
def testedDirectories : List String :=
  ["deps", "lib", "src", "test"]

lemma needsCi_gives {directory : String} (hdirectory : directory ∈ testedDirectories)
    (hbegins : (directory ++ "/").toList <+: path.toList) : needsCi.Gives path ["needs-ci"] := by
  have reads := reads_cat
    (reads_group 1 (reads_alt (reads_word "deps".toList) (reads_alt (reads_word "lib".toList)
      (reads_alt (reads_word "src".toList) (reads_word "test".toList)))))
    (Glob.reads_single '/')
  have hword : directory.toList ∈ ({"deps".toList} + ({"lib".toList} +
      ({"src".toList} + {"test".toList})) : Language Char) := by
    simp only [testedDirectories, List.mem_cons, List.not_mem_nil, or_false] at hdirectory
    rcases hdirectory with rfl | rfl | rfl | rfl
    · exact .inl rfl
    · exact .inr (.inl rfl)
    · exact .inr (.inr (.inl rfl))
    · exact .inr (.inr (.inr rfl))
  have hsome : (needsCi.pattern.search path).isSome = true := by
    rw [String.toList_append] at hbegins
    rw [Regex.search, Option.isSome_map]
    refine (isSome_search_fromStart reads).2 ⟨_, Language.mem_mul.2 ?_, hbegins⟩
    exact ⟨directory.toList, hword, "/".toList, rfl, rfl⟩
  obtain ⟨found, hfound⟩ := Option.isSome_iff_exists.1 hsome
  refine ⟨found, hfound, ?_, rfl⟩
  intro exclude hexclude
  cases hexclude

/-- An exclusive rule gives four labels at most, so the first inclusive rule always comes under the
cap. -/
lemma needsCi_mem_classify {directory : String} (hdirectory : directory ∈ testedDirectories)
    (hbegins : (directory ++ "/").toList <+: (relativePath path).toList) (more : List String)
    (body base : Option String) :
    ∃ labels, builtin.classify (path :: more) body base = some labels ∧ "needs-ci" ∈ labels := by
  obtain ⟨-, -, -, -, hfour⟩ := exclusiveRules_audit
  have hgiven : needsCi.labelsFor? (relativePath path) = some ["needs-ci"] :=
    LabelRule.labelsFor?_eq_some_iff.2 (needsCi_gives hdirectory hbegins)
  have hlabels : builtin.pathLabels (relativePath path) =
      (builtin.exclusive.findSome? (·.labelsFor? (relativePath path))).getD [] ++
        "needs-ci" :: ([sources].filterMap (·.labelsFor? (relativePath path))).flatten := by
    have inclusive : builtin.inclusive = [needsCi, sources] := rulesOf_inclusiveTable
    rw [pathLabels, inclusive, List.filterMap_cons, hgiven]
    simp only [List.flatten_cons, List.singleton_append]
  have hlength :
      ((builtin.exclusive.findSome? (·.labelsFor? (relativePath path))).getD []).length < 5 := by
    cases hfirst : builtin.exclusive.findSome? (·.labelsFor? (relativePath path)) with
    | none => exact Nat.succ_pos 4
    | some labels =>
      obtain ⟨rule, hrule, hgives⟩ := LabelRule.exists_gives_of_findSome? hfirst
      rw [Option.getD_some, hgives.length_eq]
      exact Nat.lt_succ_of_le (hfour rule hrule)
  exact exists_mem_classify hlabels hlength

lemma versionHeader_classify (hpath : versionHeader.Has path) :
    ∃ labels, builtin.classify [path] none none = some labels ∧ "c++" ∉ labels := by
  have hrelative : relativePath path = path := by
    obtain ⟨rest, hrest⟩ := hpath.1
    have hhead : path.toList.head? ≠ some '/' := by simp [← hrest, versionHeader]
    rw [relativePath, relative_of_head?_ne hhead, String.ofList_toList]
  have hsource : ("src" ++ "/").toList <+: (relativePath path).toList := by
    rw [hrelative]
    exact List.IsPrefix.trans (by decide) hpath.1
  obtain ⟨labels, hlabels, -⟩ := needsCi_mem_classify (by decide) hsource [] none none
  refine ⟨labels, hlabels, ?_⟩
  intro hmem
  have hcandidate : "c++" ∈ builtin.candidates [path] none none :=
    mem_candidates_of_classify hlabels hmem
  rw [candidates_cons, hrelative] at hcandidate
  rcases List.mem_append.1 hcandidate with hpathLabels | hnone
  · exact not_mem_pathLabels_versionHeader hpath hpathLabels
  · cases hnone

/-- What is fixed for the main directories, whatever stands behind them, and whatever other paths,
description and base branch come with the path: the first label, and that a change which has to be
tested is labelled so under the cap. -/
theorem builtin_covers (path : String) (more : List String) (body base : Option String) :
    (∀ area label, (area, label) ∈ areaLabels → area.Has (relativePath path) →
        ∃ rest, builtin.classify (path :: more) body base = some (label :: rest)) ∧
      (versionHeader.Has (relativePath path) →
        ∃ labels, builtin.classify [relativePath path] none none = some labels ∧
          "c++" ∉ labels) ∧
      ∀ directory ∈ testedDirectories,
        (directory ++ "/").toList <+: (relativePath path).toList →
        ∃ labels, builtin.classify (path :: more) body base = some labels ∧
          "needs-ci" ∈ labels :=
  ⟨fun _ _ harea hpath => classify_of_area harea hpath more body base, versionHeader_classify,
    fun _ hdirectory hbegins => needsCi_mem_classify hdirectory hbegins more body base⟩

/-- A source of the area without `c++`, with a slash in front and another path behind it, and the
version header. -/
theorem builtin_covers_sources :
    (∃ rest, builtin.classify ["/src/node_sea_bin.cc", "doc/a.md"] (some "fs: fix") (some "v18.x") =
        some ("single-executable" :: rest)) ∧
      (∃ labels, builtin.classify ["/src/node_sea_bin.cc", "doc/a.md"] (some "fs: fix")
        (some "v18.x") = some labels ∧ "needs-ci" ∈ labels) ∧
      ∃ labels, builtin.classify ["src/node_version.h"] none none = some labels ∧
        "c++" ∉ labels := by
  have seen : relativePath "src/node_version.h" = "src/node_version.h" := by decide
  obtain ⟨hfirst, -, hneeded⟩ :=
    builtin_covers "/src/node_sea_bin.cc" ["doc/a.md"] (some "fs: fix") (some "v18.x")
  obtain ⟨-, hversion, -⟩ := builtin_covers "src/node_version.h" [] none none
  rw [seen] at hversion
  exact ⟨hfirst ⟨"src/node_sea", []⟩ "single-executable" (by decide) (by decide),
    hneeded "src" (by decide) (by decide), hversion (by decide)⟩

end LabelClassifier

end PullTriage
