import PullTriage.Proofs.Label.Paths
import PullTriage.Proofs.Label.ReleaseLine

/-!
# What the author of a pull request writes

The description and the base branch of a pull request are free text, and the classifier reads both.
What they can do is limited: `freeText_adds_known`.  Of a description only the part before the first
colon counts, and whatever it says, the labels that it adds are subsystems that the classifier
allows.  A base branch adds its release line at most, which is a version and begins the name of the
branch.

So no text brings in a label that the rules, the allowed names and the form of a version do not
provide for, whether or not the paths have given some of these labels before.
-/

namespace PullTriage

namespace LabelClassifier

variable {classifier : LabelClassifier} {paths : List String} {body base : Option String}

/-! ## The description -/

/-- The two descriptions are the same up to their first colon. -/
def AgreeToColon (text other : String) : Prop :=
  ∃ start, Text.StartsBefore ':' text.toList start ∧ Text.StartsBefore ':' other.toList start

lemma leadingNames_of_agreeToColon {text other : String} (h : AgreeToColon text other) :
    leadingNames text = leadingNames other := by
  obtain ⟨start, htext, hother⟩ := h
  rw [leadingNames, leadingNames, Text.takeWhile_ne_eq_iff.2 htext,
    Text.takeWhile_ne_eq_iff.2 hother]

lemma accumulate_of_agreeToColon {text other : String} (h : AgreeToColon text other) :
    classifier.accumulate paths (some text) base =
      classifier.accumulate paths (some other) base := by
  have same : classifier.bodyLabels text = classifier.bodyLabels other := by
    rw [bodyLabels, bodyLabels, leadingNames_of_agreeToColon h]
  rw [accumulate, accumulate, candidates, candidates, Option.map_some, Option.map_some, same]

lemma mem_subsystems_of_body {text label : String}
    (h : label ∈ classifier.accumulate paths (some text) base)
    (hnew : label ∉ classifier.accumulate paths none base) : label ∈ classifier.subsystems := by
  rw [mem_accumulate_iff, candidates, List.mem_append, List.mem_append] at h hnew
  rcases h with (hpath | hbody) | hbase
  · exact absurd (.inl (.inl hpath)) hnew
  · have allowed := (List.mem_filter.1 hbody).2
    simpa using allowed
  · exact absurd (.inr hbase) hnew

/-! ## The base branch -/

lemma releaseLine?_of_base {branch label : String}
    (h : label ∈ classifier.accumulate paths body (some branch))
    (hnew : label ∉ classifier.accumulate paths body none) :
    releaseLine? branch = some label := by
  rw [mem_accumulate_iff, candidates, List.mem_append] at h hnew
  rcases h with hother | hbase
  · exact absurd (.inl hother) hnew
  · simpa using hbase

/-- Free text adds no label of its own making.  What follows the first colon of a description does
not count, a description adds only subsystems that the classifier allows, and a base branch adds
only a version that its name begins with. -/
theorem freeText_adds_known (classifier : LabelClassifier) (paths : List String) :
    (∀ text other base, AgreeToColon text other →
        classifier.accumulate paths (some text) base =
            classifier.accumulate paths (some other) base ∧
          classifier.classify paths (some text) base =
            classifier.classify paths (some other) base) ∧
      (∀ text base label, label ∈ classifier.accumulate paths (some text) base →
        label ∉ classifier.accumulate paths none base → label ∈ classifier.subsystems) ∧
      ∀ body branch label, label ∈ classifier.accumulate paths body (some branch) →
        label ∉ classifier.accumulate paths body none →
          IsReleaseLine label.toList ∧ label.toList <+: branch.toList := by
  refine ⟨?_, ?_, ?_⟩
  · intro text other base agree
    have same : classifier.accumulate paths (some text) base =
        classifier.accumulate paths (some other) base := accumulate_of_agreeToColon agree
    refine ⟨same, ?_⟩
    rw [classify, classify, same]
  · intro text base label h hnew
    exact mem_subsystems_of_body h hnew
  · intro body branch label h hnew
    obtain ⟨version, tail, hbranch, -⟩ :=
      isReleaseLine_of_releaseLine? (releaseLine?_of_base h hnew)
    exact ⟨version, tail, hbranch.symm⟩

/-- A description that goes on in another way behind the colon, a name that is allowed beside one
that is not, and the branch of a release. -/
theorem freeText_adds_known_docs :
    (AgreeToColon "fs, security: read" "fs, security: write: doc" ∧
      docsClassifier.accumulate ["doc/a.md"] (some "fs, security: read") none =
        docsClassifier.accumulate ["doc/a.md"] (some "fs, security: write: doc") none) ∧
    ("fs" ∈ docsClassifier.accumulate ["doc/a.md"] (some "fs, security: read") none ∧
      "fs" ∉ docsClassifier.accumulate ["doc/a.md"] none none ∧
      "fs" ∈ docsClassifier.subsystems) ∧
    "v18.x" ∈ docsClassifier.accumulate ["doc/a.md"] none (some "v18.x-staging") ∧
      "v18.x" ∉ docsClassifier.accumulate ["doc/a.md"] none none ∧
      IsReleaseLine "v18.x".toList := by
  have agree : AgreeToColon "fs, security: read" "fs, security: write: doc" :=
    ⟨"fs, security".toList, ⟨by decide, .inr ⟨" read".toList, by decide⟩⟩,
      ⟨by decide, .inr ⟨" write: doc".toList, by decide⟩⟩⟩
  have named : "fs" ∈ docsClassifier.accumulate ["doc/a.md"] (some "fs, security: read") none := by
    decide +kernel
  have unnamed : "fs" ∉ docsClassifier.accumulate ["doc/a.md"] none none := by decide +kernel
  have based : "v18.x" ∈ docsClassifier.accumulate ["doc/a.md"] none (some "v18.x-staging") := by
    decide +kernel
  have unbased : "v18.x" ∉ docsClassifier.accumulate ["doc/a.md"] none none := by decide +kernel
  obtain ⟨bodies, names, branches⟩ := freeText_adds_known docsClassifier ["doc/a.md"]
  exact ⟨⟨agree, (bodies _ _ none agree).1⟩, ⟨named, unnamed, names _ none _ named unnamed⟩,
    based, unbased, (branches none _ _ based unbased).1⟩

end LabelClassifier

end PullTriage
