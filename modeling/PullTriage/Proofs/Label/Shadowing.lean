import PullTriage.Proofs.Label.Builtin
import PullTriage.Proofs.Label.GlobRule

/-!
# Entries that another entry forestalls

Of the exclusive rules the first one that fires counts, so a rule says nothing about a path on which
one before it fires.  Taking a rule out of the table changes the labels of those paths only on which
it is the first to fire: `LabelRule.first?_erase`.

The table has an entry for the list of deprecations behind the one for all pages of the interface.
They differ in a dot.  The one for the pages escapes the dot before `md`, and the one for the
deprecations does not, so there it stands for any character of a line.  With a dot in the path the
rule for the pages fires first and gives the same labels.  With another character
(`LooksLikeDeprecations`) it does not match, and the entry counts: `builtin_deprecations_first`.
-/

namespace PullTriage

open Regex

open scoped Computability

/-! ## The first rule that fires -/

namespace LabelRule

/-- The first of the rules that fires on the path. -/
def first? (rules : List LabelRule) (path : String) : Option LabelRule :=
  rules.find? fun rule => (rule.fires? path).isSome

variable {before after : List LabelRule} {rule : LabelRule} {path : String}

lemma isSilent_iff : rule.IsSilent path ↔ rule.fires? path = none := by
  rw [← labelsFor?_eq_none_iff, labelsFor?, Option.map_eq_none_iff]

lemma fires_of_first? {rules : List LabelRule} (h : first? rules path = some rule) :
    (rule.fires? path).isSome = true := by
  unfold first? at h
  simpa using List.find?_some h

lemma first?_append_of_silent (h : ∀ r ∈ before, r.IsSilent path) :
    first? (before ++ after) path = first? after path := by
  have none : before.find? (fun r => (r.fires? path).isSome) = none := by
    rw [List.find?_eq_none]
    intro r hr
    simp [isSilent_iff.1 (h r hr)]
  rw [first?, List.find?_append, none, Option.none_or, first?]

lemma first?_cons_of_fires (h : (rule.fires? path).isSome = true) :
    first? (rule :: after) path = some rule :=
  List.find?_cons_of_pos h

lemma first?_cons_of_silent (h : rule.fires? path = none) :
    first? (rule :: after) path = first? after path :=
  List.find?_cons_of_neg (by simp [h])

lemma findSome?_labelsFor? (rules : List LabelRule) (path : String) :
    rules.findSome? (·.labelsFor? path) = (first? rules path).bind (·.labelsFor? path) := by
  induction rules with
  | nil => rfl
  | cons rule rules ih =>
    rw [List.findSome?_cons]
    cases hfires : rule.fires? path with
    | none =>
      rw [first?_cons_of_silent hfires, ← ih, labelsFor?, hfires]
      rfl
    | some found =>
      have hsome : (rule.fires? path).isSome = true := by rw [hfires]; rfl
      rw [first?_cons_of_fires hsome, Option.bind_some, labelsFor?, hfires]
      rfl

/-- A rule that is not the first to fire can be taken out. -/
lemma first?_erase (hfirst : first? (before ++ rule :: after) path ≠ some rule) :
    first? (before ++ after) path = first? (before ++ rule :: after) path := by
  rw [first?, first?, List.find?_append, List.find?_append]
  cases hbefore : before.find? fun r => (r.fires? path).isSome with
  | some r => rfl
  | none =>
    have silent : rule.fires? path = none := by
      by_contra hfires
      have hsome := Option.isSome_iff_ne_none.2 hfires
      refine hfirst ?_
      rw [first?, List.find?_append, hbefore, Option.none_or]
      exact first?_cons_of_fires hsome
    rw [Option.none_or, Option.none_or]
    exact (first?_cons_of_silent silent).symm

end LabelRule

/-! ## Pages of the interface -/

namespace LabelClassifier

/-- The rule for the pages of the interface. -/
def apiPageRule : LabelRule where
  pattern :=
    { pattern := r"^doc/api/(\w+)\.md$"
      node := anchoredSequence (letters "doc/api/".toList ++
        ([.group 1 (.plus true (.leaf (.one (.word true))))] ++ letters ".md".toList)) }
  exclude := none
  labels := [⟨"doc", [.literal "doc"]⟩, ⟨"$1", [.group 1 "1"]⟩]

/-- The rule for the list of deprecations. -/
def deprecationsRule : LabelRule where
  pattern :=
    { pattern := "^doc/api/deprecations.md$"
      node := anchoredSequence (letters "doc/api/deprecations".toList ++
        ([.leaf (.one .notNewline)] ++ letters "md".toList)) }
  exclude := none
  labels := [⟨"doc", [.literal "doc"]⟩, ⟨"deprecations", [.literal "deprecations"]⟩]

/-- The rule for the lists of changes. -/
def changelogRule : LabelRule where
  pattern := ⟨"^doc/changelogs/", (Node.word "doc/changelogs/".toList).fromStart⟩
  exclude := none
  labels := [⟨"release", [.literal "release"]⟩]

/-- The rule for all documentation. -/
def docRule : LabelRule where
  pattern := ⟨"^doc/", (Node.word "doc/".toList).fromStart⟩
  exclude := none
  labels := [⟨"doc", [.literal "doc"]⟩]

/-- The entry for the list of deprecations. -/
def deprecationsEntry : Entry :=
  ⟨"^doc/api/deprecations.md$", ["doc", "deprecations"], none⟩

/-- The built-in classifier without the entry for the list of deprecations. -/
def withoutDeprecations : LabelClassifier :=
  ofTables (rulesOf (exclusiveTable.erase deprecationsEntry)) (rulesOf inclusiveTable)
    subsystemNames

/-- The exclusive rules that stand before those for the pages. -/
def rulesBeforePages : List LabelRule :=
  rulesOf (exclusiveTable.take 20)

/-- The exclusive rules that stand behind the one for all documentation. -/
def rulesBehindDoc : List LabelRule :=
  rulesOf (exclusiveTable.drop 24)

/-- The paths that begin like that of the list of deprecations. -/
def deprecationsArea : Area :=
  ⟨"doc/api/deprecations", []⟩

lemma rulesOf_append (table more : List Entry) :
    rulesOf (table ++ more) = rulesOf table ++ rulesOf more :=
  List.filterMap_append

/-- What the tables say about the pages: the rules for documentation with and without the entry, and
that no rule in front of them is for the list of deprecations. -/
lemma pages_audit :
    rulesOf ((exclusiveTable.drop 20).take 4) =
        [apiPageRule, deprecationsRule, changelogRule, docRule] ∧
      rulesOf (((exclusiveTable.drop 20).take 4).erase deprecationsEntry) =
        [apiPageRule, changelogRule, docRule] ∧
      ∀ rule ∈ rulesBeforePages, deprecationsArea.silences rule = true := by
  decide +kernel

lemma exclusiveTable_eq : exclusiveTable = exclusiveTable.take 20 ++
    ((exclusiveTable.drop 20).take 4 ++ exclusiveTable.drop 24) :=
  rfl

lemma erase_exclusiveTable : exclusiveTable.erase deprecationsEntry = exclusiveTable.take 20 ++
    (((exclusiveTable.drop 20).take 4).erase deprecationsEntry ++ exclusiveTable.drop 24) := by
  have before : deprecationsEntry ∉ exclusiveTable.take 20 := by decide
  have page : deprecationsEntry ∈ (exclusiveTable.drop 20).take 4 := by decide
  rw [← List.erase_append_left _ page, ← List.erase_append_right _ before, ← exclusiveTable_eq]

lemma exclusive_builtin : builtin.exclusive = rulesBeforePages ++
    (apiPageRule :: deprecationsRule :: changelogRule :: docRule :: rulesBehindDoc) := by
  have rules : builtin.exclusive = rulesOf exclusiveTable := rfl
  rw [rules, exclusiveTable_eq, rulesOf_append, rulesOf_append, pages_audit.1]
  rfl

lemma exclusive_withoutDeprecations : withoutDeprecations.exclusive = rulesBeforePages ++
    (apiPageRule :: changelogRule :: docRule :: rulesBehindDoc) := by
  obtain ⟨-, pages, -⟩ := pages_audit
  have rules : withoutDeprecations.exclusive =
      rulesOf (exclusiveTable.erase deprecationsEntry) := rfl
  rw [rules, erase_exclusiveTable, rulesOf_append, rulesOf_append, pages]
  rfl

/-! ## What the two rules match -/

variable {path : String}

/-- The path of a page, whose name is a word. -/
def IsApiPage (path : String) : Prop :=
  ∃ name, name ≠ [] ∧ (∀ c ∈ name, (CharClass.word true).has c.toNat = true) ∧
    path.toList = "doc/api/".toList ++ (name ++ ".md".toList)

/-- The path of the list of deprecations, except that any character of a line may stand for the
dot. -/
def IsDeprecations (path : String) : Prop :=
  ∃ c, c ≠ '\n' ∧ path.toList = "doc/api/deprecations".toList ++ ([c] ++ "md".toList)

/-- The path of a file that the entry takes for the list of deprecations: another character than a
dot stands before `md`. -/
def LooksLikeDeprecations (path : String) : Prop :=
  ∃ c, c ≠ '.' ∧ c ≠ '\n' ∧ path.toList = "doc/api/deprecations".toList ++ ([c] ++ "md".toList)

lemma fires_apiPageRule_iff : (apiPageRule.fires? path).isSome = true ↔ IsApiPage path := by
  have name : (Node.sequence [.group 1 (.plus true (.leaf (.one (.word true))))]).Reads _ :=
    reads_group 1 (reads_plus_one true (.word true))
  have reads := reads_sequence_append (reads_word "doc/api/".toList)
    (reads_sequence_append name (reads_word ".md".toList))
  rw [LabelRule.fires?_of_exclude_eq_none rfl, Regex.search, Option.isSome_map]
  refine (isSome_search_anchoredSequence reads path.toList).trans ?_
  constructor
  · rintro ⟨_, rfl, _, ⟨name, ⟨hne, hword⟩, _, rfl, rfl⟩, hpath⟩
    exact ⟨name, hne, hword, hpath.symm⟩
  · rintro ⟨name, hne, hword, hpath⟩
    exact ⟨_, rfl, _, ⟨name, ⟨hne, hword⟩, _, rfl, rfl⟩, hpath.symm⟩

lemma fires_deprecationsRule_iff :
    (deprecationsRule.fires? path).isSome = true ↔ IsDeprecations path := by
  have dot : (Node.sequence [.leaf (.one .notNewline)]).Reads _ := reads_one .notNewline
  have reads := reads_sequence_append (reads_word "doc/api/deprecations".toList)
    (reads_sequence_append dot (reads_word "md".toList))
  rw [LabelRule.fires?_of_exclude_eq_none rfl, Regex.search, Option.isSome_map]
  refine (isSome_search_anchoredSequence reads path.toList).trans ?_
  constructor
  · rintro ⟨_, rfl, _, ⟨_, ⟨c, hc, rfl⟩, _, rfl, rfl⟩, hpath⟩
    rw [Glob.has_notNewline, decide_eq_true_eq] at hc
    exact ⟨c, hc, hpath.symm⟩
  · rintro ⟨c, hc, hpath⟩
    have inClass : CharClass.notNewline.has c.toNat = true := by
      rw [Glob.has_notNewline, decide_eq_true_eq]
      exact hc
    exact ⟨_, rfl, _, ⟨_, ⟨c, inClass, rfl⟩, _, rfl, rfl⟩, hpath.symm⟩

/-! ## Which rule counts -/

lemma IsDeprecations.has (h : IsDeprecations path) : deprecationsArea.Has path := by
  obtain ⟨c, -, hpath⟩ := h
  exact ⟨⟨[c] ++ "md".toList, hpath.symm⟩, nofun⟩

lemma isWord_deprecations :
    ∀ c ∈ "deprecations".toList, (CharClass.word true).has c.toNat = true := by
  rw [← List.all_eq_true]
  rfl

/-- With a dot the path is that of a page too, and with another character it is not. -/
lemma IsDeprecations.isApiPage_iff (h : IsDeprecations path) :
    IsApiPage path ↔ ¬ LooksLikeDeprecations path := by
  obtain ⟨c, hc, hpath⟩ := h
  constructor
  · rintro ⟨name, -, -, hpage⟩ ⟨d, hd, -, hlooks⟩
    have same : ("doc/api/".toList ++ name) ++ ".md".toList =
        "doc/api/deprecations".toList ++ ([d] ++ "md".toList) := by
      rw [List.append_assoc, ← hpage, hlooks]
    have ending : ".md".toList = [d] ++ "md".toList := (List.append_inj' same rfl).2
    exact hd (List.cons.inj ending).1.symm
  · intro hlooks
    obtain rfl : c = '.' := by
      by_contra hdot
      exact hlooks ⟨c, hdot, hc, hpath⟩
    exact ⟨"deprecations".toList, by decide, isWord_deprecations, hpath⟩

lemma LooksLikeDeprecations.isDeprecations (h : LooksLikeDeprecations path) :
    IsDeprecations path := by
  obtain ⟨c, -, hc, hpath⟩ := h
  exact ⟨c, hc, hpath⟩

lemma LooksLikeDeprecations.not_fires_apiPageRule (h : LooksLikeDeprecations path) :
    apiPageRule.fires? path = none := by
  rw [← Option.not_isSome_iff_eq_none, fires_apiPageRule_iff, h.isDeprecations.isApiPage_iff,
    not_not]
  exact h

lemma first?_of_isDeprecations (h : IsDeprecations path) (rest : List LabelRule) :
    LabelRule.first? (rulesBeforePages ++ rest) path = LabelRule.first? rest path := by
  obtain ⟨-, -, before⟩ := pages_audit
  exact LabelRule.first?_append_of_silent fun rule hrule =>
    Area.isSilent_of_silences h.has (before rule hrule)

/-- The rule for the list of deprecations is the first to fire on the paths that look like that of
the list, and on no other ones. -/
theorem first?_eq_deprecationsRule_iff :
    LabelRule.first? builtin.exclusive path = some deprecationsRule ↔
      LooksLikeDeprecations path := by
  rw [exclusive_builtin]
  constructor
  · intro hfirst
    have path' := fires_deprecationsRule_iff.1 (LabelRule.fires_of_first? hfirst)
    by_contra hlooks
    have page := fires_apiPageRule_iff.2 (path'.isApiPage_iff.2 hlooks)
    rw [first?_of_isDeprecations path', LabelRule.first?_cons_of_fires page] at hfirst
    exact absurd (Option.some.inj hfirst) (by decide)
  · intro hlooks
    have path' := hlooks.isDeprecations
    rw [first?_of_isDeprecations path', LabelRule.first?_cons_of_silent hlooks.not_fires_apiPageRule,
      LabelRule.first?_cons_of_fires (fires_deprecationsRule_iff.2 path')]

/-! ## The labels without the entry -/

section SameLabels

variable {classifier other : LabelClassifier} {paths : List String}

lemma pathLabels_congr
    (hfirst : LabelRule.first? other.exclusive path = LabelRule.first? classifier.exclusive path)
    (hinclusive : other.inclusive = classifier.inclusive) :
    other.pathLabels path = classifier.pathLabels path := by
  rw [pathLabels, pathLabels, LabelRule.findSome?_labelsFor?, LabelRule.findSome?_labelsFor?,
    hfirst, hinclusive]

lemma accumulate_congr
    (hpaths : ∀ path ∈ paths,
      other.pathLabels (relativePath path) = classifier.pathLabels (relativePath path))
    (hnames : other.subsystems = classifier.subsystems) (body base : Option String) :
    other.accumulate paths body base = classifier.accumulate paths body base := by
  have ofPaths : paths.flatMap (fun path => other.pathLabels (relativePath path)) =
      paths.flatMap fun path => classifier.pathLabels (relativePath path) :=
    List.flatMap_congr hpaths
  have ofBody : other.bodyLabels = classifier.bodyLabels := by
    funext body
    rw [bodyLabels, bodyLabels, hnames]
  have collected : other.candidates paths body base = classifier.candidates paths body base := by
    simp only [relativePath] at ofPaths
    rw [candidates, candidates, ofPaths, ofBody]
  rw [accumulate, accumulate, collected]

end SameLabels

lemma first?_withoutDeprecations (h : ¬ LooksLikeDeprecations path) :
    LabelRule.first? withoutDeprecations.exclusive path =
      LabelRule.first? builtin.exclusive path := by
  have erased (front rest : List LabelRule)
      (hfirst : LabelRule.first? (front ++ apiPageRule :: deprecationsRule :: rest) path ≠
        some deprecationsRule) :
      LabelRule.first? (front ++ apiPageRule :: rest) path =
        LabelRule.first? (front ++ apiPageRule :: deprecationsRule :: rest) path := by
    rw [List.append_cons] at hfirst ⊢
    rw [List.append_cons front _ (deprecationsRule :: rest)]
    exact LabelRule.first?_erase hfirst
  have hfirst := mt first?_eq_deprecationsRule_iff.1 h
  rw [exclusive_builtin] at hfirst
  rw [exclusive_withoutDeprecations, exclusive_builtin]
  exact erased _ _ hfirst

lemma inclusive_withoutDeprecations : withoutDeprecations.inclusive = builtin.inclusive := by
  rw [withoutDeprecations, builtin, ofTables, ofTables]

lemma subsystems_withoutDeprecations : withoutDeprecations.subsystems = builtin.subsystems := by
  rw [withoutDeprecations, builtin, ofTables, ofTables]

lemma accumulate_withoutDeprecations {paths : List String}
    (h : ∀ path ∈ paths, ¬ LooksLikeDeprecations (relativePath path)) (body base : Option String) :
    withoutDeprecations.accumulate paths body base = builtin.accumulate paths body base :=
  accumulate_congr
    (fun path hpath =>
      pathLabels_congr (first?_withoutDeprecations (h path hpath)) inclusive_withoutDeprecations)
    subsystems_withoutDeprecations body base

lemma classify_withoutDeprecations {paths : List String}
    (h : ∀ path ∈ paths, ¬ LooksLikeDeprecations (relativePath path)) (body base : Option String) :
    withoutDeprecations.classify paths body base = builtin.classify paths body base := by
  rw [classify, classify, accumulate_withoutDeprecations h, withoutDeprecations, builtin, ofTables,
    ofTables]

/-- The inclusive rules are not for documentation, so the labels are those of one rule. -/
lemma pathLabels_of_first? {classifier : LabelClassifier} {rule : LabelRule} {labels : List String}
    (hpath : IsDeprecations path) (hinclusive : classifier.inclusive = [needsCi, sources])
    (hfirst : LabelRule.first? classifier.exclusive path = some rule)
    (hlabels : ∀ found, rule.labels.map (·.render found) = labels) :
    classifier.pathLabels path = labels := by
  obtain ⟨found, hfound⟩ := Option.isSome_iff_exists.1 (LabelRule.fires_of_first? hfirst)
  have tested : needsCi.labelsFor? path = none :=
    LabelRule.labelsFor?_eq_none_iff.2 (Area.isSilent_of_silences hpath.has (by decide))
  have source : sources.labelsFor? path = none :=
    LabelRule.labelsFor?_eq_none_iff.2 (Area.isSilent_of_silences hpath.has (by decide))
  rw [pathLabels, LabelRule.findSome?_labelsFor?, hfirst, Option.bind_some, LabelRule.labelsFor?,
    hfound, Option.map_some, hlabels, hinclusive]
  simp [tested, source]

lemma pathLabels_of_looksLike (h : LooksLikeDeprecations path) :
    builtin.pathLabels path = ["doc", "deprecations"] :=
  pathLabels_of_first? h.isDeprecations rulesOf_inclusiveTable
    (first?_eq_deprecationsRule_iff.2 h) fun _ => rfl

lemma pathLabels_withoutDeprecations_of_looksLike (h : LooksLikeDeprecations path) :
    withoutDeprecations.pathLabels path = ["doc"] := by
  have path' := h.isDeprecations
  have changelog : changelogRule.fires? path = none :=
    LabelRule.isSilent_iff.1 (Area.isSilent_of_silences path'.has (by decide))
  have doc : (docRule.fires? path).isSome = true := by
    rw [LabelRule.fires?_of_exclude_eq_none rfl, Area.isSome_search_of_eq_word rfl]
    exact List.IsPrefix.trans (by decide) path'.has.1
  have hfirst : LabelRule.first? withoutDeprecations.exclusive path = some docRule := by
    rw [exclusive_withoutDeprecations, first?_of_isDeprecations path',
      LabelRule.first?_cons_of_silent h.not_fires_apiPageRule,
      LabelRule.first?_cons_of_silent changelog,
      LabelRule.first?_cons_of_fires doc]
  exact pathLabels_of_first? path' rulesOf_inclusiveTable hfirst fun _ => rfl

/-- The entry for the list of deprecations is forestalled on all paths but those that look like that
of the list.  On these it is the first to fire, and without it they would be documentation only; as
long as there is none of them, the table gives the same labels without the entry. -/
theorem builtin_deprecations_first (paths : List String) (body base : Option String) :
    (∀ path, LabelRule.first? builtin.exclusive path = some deprecationsRule ↔
        LooksLikeDeprecations path) ∧
      (∀ path, LooksLikeDeprecations path → builtin.pathLabels path = ["doc", "deprecations"] ∧
        withoutDeprecations.pathLabels path = ["doc"]) ∧
      ((∀ path ∈ paths, ¬ LooksLikeDeprecations (relativePath path)) →
        withoutDeprecations.accumulate paths body base = builtin.accumulate paths body base ∧
          withoutDeprecations.classify paths body base = builtin.classify paths body base) :=
  ⟨fun _ => first?_eq_deprecationsRule_iff,
    fun _ h => ⟨pathLabels_of_looksLike h, pathLabels_withoutDeprecations_of_looksLike h⟩,
    fun h => ⟨accumulate_withoutDeprecations h body base, classify_withoutDeprecations h body base⟩⟩

lemma looksLikeDeprecations_dash :
    LooksLikeDeprecations (relativePath "doc/api/deprecations-md") :=
  ⟨'-', by decide, by decide, by decide⟩

lemma relativePath_deprecations_dash :
    relativePath "doc/api/deprecations-md" = "doc/api/deprecations-md" := by
  decide

/-- The list of deprecations itself has the dot, and a dash may stand for it. -/
theorem builtin_deprecations_first_dash :
    LabelRule.first? builtin.exclusive "doc/api/deprecations-md" = some deprecationsRule ∧
      builtin.pathLabels "doc/api/deprecations-md" = ["doc", "deprecations"] ∧
      withoutDeprecations.pathLabels "doc/api/deprecations-md" = ["doc"] ∧
      withoutDeprecations.classify ["doc/api/deprecations.md"] none none =
        builtin.classify ["doc/api/deprecations.md"] none none := by
  have dash : LooksLikeDeprecations "doc/api/deprecations-md" := by
    rw [← relativePath_deprecations_dash]
    exact looksLikeDeprecations_dash
  obtain ⟨hfirst, hlabels, hwithout⟩ :=
    builtin_deprecations_first ["doc/api/deprecations.md"] none none
  have dot : ∀ path ∈ ["doc/api/deprecations.md"],
      ¬ LooksLikeDeprecations (relativePath path) := by
    intro path hpath
    rw [List.mem_singleton.1 hpath]
    rintro ⟨c, hdot, -, hc⟩
    have same : "doc/api/deprecations".toList ++ ".md".toList =
        "doc/api/deprecations".toList ++ ([c] ++ "md".toList) := by
      rw [← hc]
      decide
    exact hdot (List.cons.inj (List.append_cancel_left same)).1.symm
  exact ⟨(hfirst _).2 dash, (hlabels _ dash).1, (hlabels _ dash).2, (hwithout dot).2⟩

/-- The entry for the list of deprecations is not forestalled on this path, which has other labels
without it. -/
theorem deprecations_counted_dash :
    LabelRule.first? builtin.exclusive "doc/api/deprecations-md" = some deprecationsRule ∧
      builtin.classify ["doc/api/deprecations-md"] none none = some ["doc", "deprecations"] ∧
      withoutDeprecations.classify ["doc/api/deprecations-md"] none none = some ["doc"] := by
  have dash := looksLikeDeprecations_dash
  have collected (classifier : LabelClassifier) :
      (classifier.accumulate ["doc/api/deprecations-md"] none none).toList =
        (classifier.pathLabels (relativePath "doc/api/deprecations-md")).eraseDups := by
    rw [accumulate, LabelSet.toList_ofList, candidates_cons]
    exact congrArg List.eraseDups (List.append_nil _)
  refine ⟨?_, ?_, ?_⟩
  · rw [← relativePath_deprecations_dash]
    exact first?_eq_deprecationsRule_iff.2 dash
  · rw [classify_eq, collected, pathLabels_of_looksLike dash]
    rfl
  · rw [classify_eq, collected, pathLabels_withoutDeprecations_of_looksLike dash]
    rfl

end LabelClassifier

end PullTriage
