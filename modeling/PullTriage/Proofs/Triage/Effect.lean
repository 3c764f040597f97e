import PullTriage.Proofs.Forge.Answers
import PullTriage.Proofs.Triage.Calls

/-!
# What triage does to a forge in memory

A real run that succeeds reports on the files and the manifest that the forge was given, and leaves
behind one comment more and the labels of the report (`Posts`).  Nothing else changes but the list
of calls.

So the same run can be made again.  It reads what it read before, reports the same, and finds its
labels in place (`run_posts`): only the comment is posted a second time.
-/

namespace PullTriage.Triage

open ForgeProgram MemoryForge

variable {triage : Triage} {pr : PullRequestContext} {forge : MemoryForge} {report : TriageReport}

/-! ## What is written -/

lemma filterMap_commentOf?_writings (report : TriageReport) :
    (writings report).filterMap commentOf? = [(report.number, report.comment)] := by
  rw [writings]
  cases report.labels <;> rfl

lemma flatMap_addedTo_writings (report : TriageReport) (number : Nat) :
    (writings report).flatMap (addedTo number) =
      if number = report.number then report.labels.getD [] else [] := by
  rw [writings]
  cases report.labels with
  | none => exact (ite_self []).symm
  | some labels => exact List.append_nil _

/-- A report is on the files that the forge was given for the revisions, by the manifest that it was
given. -/
structure ReportsOn (triage : Triage) (pr : PullRequestContext) (forge : MemoryForge)
    (files : List ChangedFile) (manifest : Manifest) (report : TriageReport) : Prop where
  compared : ∃ base head, pr.HasRevisions base head ∧
    forge.comparisons.lookup (base, head) = some files
  parsed : ∃ text, forge.files.lookup triage.manifestPath = some text ∧
    Manifest.parse text = .ok manifest
  number : report.number = pr.number
  paths : report.paths = files.map (·.filename)
  owners : report.owners = manifest.uniqueOwners report.paths
  comment : report.comment = Comment.render report.owners
  labels : report.labels = triage.classifier.classify report.paths pr.body pr.baseRef
  posted : report.posted = !triage.dryRun

/-- What a real run with this report leaves behind of a forge in memory. -/
structure Posts (triage : Triage) (pr : PullRequestContext) (forge : MemoryForge)
    (report : TriageReport) (after : MemoryForge) : Prop where
  reports : ∃ files manifest, ReportsOn triage pr forge files manifest report
  commented : after.comments = forge.comments ++ [(pr.number, report.comment)]
  labelled : after.labels pr.number =
    forge.labels pr.number ++ (report.labels.getD []).filter (· ∉ forge.labels pr.number)
  others : ∀ number, number ≠ pr.number → after.labels number = forge.labels number
  given : GivenAlike after forge

lemma Prepared.reportsOn {readings : List Exchange} (h : Prepared triage pr readings report)
    (hanswers : ∀ exchange ∈ readings, exchange.reply = forge.answer exchange.call) :
    ∃ files manifest, ReportsOn triage pr forge files manifest report := by
  obtain ⟨known, files, parsed⟩ := h
  obtain ⟨hcompare, hrest⟩ := List.forall_mem_cons.1 hanswers
  have hread := List.forall_mem_singleton.1 hrest
  have compared := reply_compare_eq_ok_iff.1 (answer_eq_ok_iff.1 hcompare.symm).2
  have found := reply_readTextFile_eq_ok_iff.1 (answer_eq_ok_iff.1 hread.symm).2
  exact ⟨files, _, ⟨_, _, known, compared⟩, ⟨_, found, parsed⟩, rfl, rfl, rfl, rfl, rfl, rfl⟩

lemma ReportsOn.nodup_labels {files : List ChangedFile} {manifest : Manifest}
    (h : ReportsOn triage pr forge files manifest report) : (report.labels.getD []).Nodup := by
  cases hlabels : report.labels with
  | none => exact List.nodup_nil
  | some labels => exact (LabelClassifier.classify_eq_some (h.labels ▸ hlabels)).2.1

/-- To remember the calls of a real run is to post the report, and nothing else. -/
lemma posts_rememberAll {files : List ChangedFile} {manifest : Manifest}
    (h : ReportsOn triage pr forge files manifest report) (base head : String) :
    Posts triage pr forge report (forge.rememberAll
      ([.compare base head, .readTextFile triage.manifestPath] ++ writings report)) := by
  refine ⟨⟨files, manifest, h⟩, ?_, ?_, fun number hne => ?_, givenAlike_rememberAll _ _⟩
  · rw [(remembered_rememberAll forge _).2, List.filterMap_append,
      filterMap_commentOf?_writings, h.number]
    rfl
  · rw [labels_rememberAll, List.flatMap_append, flatMap_addedTo_writings, if_pos h.number.symm]
    exact mergeLabels_of_nodup h.nodup_labels
  · rw [labels_rememberAll, List.flatMap_append, flatMap_addedTo_writings, h.number, if_neg hne]
    rfl

/-! ## A real run -/

/-- A real run that succeeds posts its report and does nothing else. -/
lemma posts_of_run (real : triage.dryRun = false)
    (hok : (forge.run (triage.run pr)).1 = .ok report) :
    Posts triage pr forge report (forge.run (triage.run pr)).2 := by
  have outcome : Outcome triage pr ((triage.run pr).history perform forge) (.ok report) :=
    hok ▸ outcome_of_course (course_history perform (triage.run pr) forge)
  obtain ⟨readings, postings, hhistory, prepared, hpostings⟩ := outcome.posted_of_ok real
  have answers : ∀ exchange ∈ readings, exchange.reply = forge.answer exchange.call := by
    intro exchange hmem
    have made : exchange ∈ (triage.run pr).history perform forge :=
      hhistory ▸ List.mem_append_left postings hmem
    exact reply_of_mem_history made
  obtain ⟨files, manifest, reports⟩ := prepared.reportsOn answers
  obtain ⟨base, head, hreadings⟩ := prepared.calls
  have succeeds := (outcome.ok_iff.1 ⟨report, rfl⟩).2.2
  rw [state_of_succeeds succeeds, hhistory, List.map_append, hreadings, hpostings]
  exact posts_rememberAll reports base head

/-- What a real run posts is there when it is made again: that reports the same and adds no
label. -/
lemma Posts.again {after : MemoryForge} (h : Posts triage pr forge report after)
    (h' : Posts triage pr after report (after.run (triage.run pr)).2) (number : Nat) :
    (after.run (triage.run pr)).2.labels number = after.labels number := by
  by_cases hnumber : number = pr.number
  · subst hnumber
    have present : ∀ label ∈ report.labels.getD [], label ∈ after.labels pr.number := by
      intro label hmem
      rw [h.labelled, List.mem_append, List.mem_filter]
      by_cases hbefore : label ∈ forge.labels pr.number
      · exact .inl hbefore
      · exact .inr ⟨hmem, by simpa using hbefore⟩
    rw [h'.labelled, List.filter_eq_nil_iff.2 fun label hmem => by simpa using present label hmem,
      List.append_nil]
  · exact h'.others number hnumber

/-- A real run that succeeds posts its report and does nothing else, and to make it again gives the
same report and leaves all labels as they are, whatever failure the forge is made to have. -/
theorem run_posts (real : triage.dryRun = false)
    (hok : (forge.run (triage.run pr)).1 = .ok report) :
    Posts triage pr forge report (forge.run (triage.run pr)).2 ∧
      ((forge.run (triage.run pr)).2.run (triage.run pr)).1 = .ok report ∧
      ∀ number, ((forge.run (triage.run pr)).2.run (triage.run pr)).2.labels number =
        (forge.run (triage.run pr)).2.labels number := by
  have posts := posts_of_run real hok
  have same : ((forge.run (triage.run pr)).2.run (triage.run pr)).1 = .ok report :=
    (run_of_givenAlike posts.given (triage.run pr)).2.trans hok
  exact ⟨posts, same, posts.again (posts_of_run real same)⟩

/-- A forge where a pull request has one of its labels already, and another one has labels too. -/
def labelledForge : MemoryForge where
  comparisons := [(("aaa", "bbb"), [⟨"lib/fs.js"⟩, ⟨"lib/http.js"⟩])]
  files := [("OWNERS", "/lib/** @lib\n/lib/fs.js @fs\n")]
  comments := [(7, "Hello.")]
  labelTable := [(42, ["fs"]), (7, ["doc", "fs"])]
  failure := some (.getPullRequest, .rateLimited)

/-- Triage that knows two subsystems. -/
def subsystemTriage : Triage where
  classifier := .ofTables [] [] ["fs", "http"]
  manifestPath := "OWNERS"

/-- A pull request whose description names both subsystems. -/
def subsystemPr : PullRequestContext :=
  ⟨42, some "http, fs: close", some "main", some "aaa", some "bbb"⟩

/-- The report on it. -/
def subsystemReport : TriageReport where
  number := 42
  paths := ["lib/fs.js", "lib/http.js"]
  owners := ["@lib", "@fs"]
  comment := Comment.render ["@lib", "@fs"]
  labels := some ["http", "fs"]
  posted := true

/-- The label that was missing is put behind the one that was there, also when triage is made
again. -/
theorem run_posts_labelledForge :
    (labelledForge.run (subsystemTriage.run subsystemPr)).1 = .ok subsystemReport ∧
      Posts subsystemTriage subsystemPr labelledForge subsystemReport
        (labelledForge.run (subsystemTriage.run subsystemPr)).2 ∧
      ((labelledForge.run (subsystemTriage.run subsystemPr)).2.run
        (subsystemTriage.run subsystemPr)).1 = .ok subsystemReport ∧
      ((labelledForge.run (subsystemTriage.run subsystemPr)).2.run
        (subsystemTriage.run subsystemPr)).2.labels 42 = ["fs", "http"] := by
  have ran : (labelledForge.run (subsystemTriage.run subsystemPr)).1 = .ok subsystemReport := by
    decide +kernel
  obtain ⟨posts, same, labels⟩ := run_posts rfl ran
  have merged : (labelledForge.run (subsystemTriage.run subsystemPr)).2.labels 42 =
      ["fs", "http"] :=
    posts.labelled.trans (by decide)
  exact ⟨ran, posts, same, (labels 42).trans merged⟩

end PullTriage.Triage
