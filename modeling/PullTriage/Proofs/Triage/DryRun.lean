import PullTriage.Proofs.Forge.Answers
import PullTriage.Proofs.Triage.Calls

/-!
# Dry runs

A real run is a dry run that goes on: it posts the report that the dry run ends with
(`run_real_eq_bind`).  So on every forge the two go the same way until something is written, and
what stops the dry run stops the real one at the same place.

On a forge in memory, where a call that reads changes nothing but the list of calls, it follows
that a dry run previews the real run (`dryRun_previews`).
-/

namespace PullTriage.Triage

open ForgeProgram MemoryForge

variable {triage : Triage} {pr : PullRequestContext} {forge : MemoryForge} {report : TriageReport}
  {history : List Exchange} {result : Except TriageError TriageReport} {error : TriageError}

/-! ## A real run is a dry run that goes on -/

/-- The same triage as a dry run, or as a real one. -/
def withDryRun (triage : Triage) (dryRun : Bool) : Triage :=
  { triage with dryRun := dryRun }

/-- How a real run goes on where a dry run ends. -/
def goOn : Except TriageError TriageReport → Flow
  | .ok report => post { report with posted := true }
  | .error cause => fail cause

lemma bind_ask (c : ForgeCall) (next : c.Answer → Flow) :
    (ask c next).bind goOn = ask c fun answer => (next answer).bind goOn := by
  rw [ask, ForgeProgram.bind, ask]
  congr 1
  funext reply
  cases reply with
  | ok answer => rfl
  | error cause => rfl

/-- A real run is a dry run, and then its report is posted. -/
theorem run_real_eq_bind (triage : Triage) (pr : PullRequestContext) :
    (triage.withDryRun false).run pr = ((triage.withDryRun true).run pr).bind goOn := by
  rw [run, run]
  cases pr.revisions? with
  | none => rfl
  | some revisions =>
    obtain ⟨base, head⟩ := revisions
    refine .trans (congrArg (ask _) (funext fun files => ?_)) (bind_ask _ _).symm
    refine .trans (congrArg (ask _) (funext fun text => ?_)) (bind_ask _ _).symm
    cases Manifest.parse text with
    | error cause => rfl
    | ok manifest => rfl

/-! ## The calls of a dry run -/

/-- A dry run compares and reads, as far as it gets. -/
lemma Outcome.methods_of_dry (h : Outcome triage pr history result) (dry : triage.dryRun = true) :
    history.map (·.call.method) <+: [.compare, .readTextFile] := by
  cases h with
  | noRevisions missing => exact List.nil_prefix
  | notCompared known cause => exact List.prefix_append _ _
  | notRead known files cause => exact List.prefix_refl _
  | malformed known files rejected => exact List.prefix_refl _
  | previewed prepared dry =>
    obtain ⟨base, head, hcalls⟩ := prepared.calls
    have methods := congrArg (List.map ForgeCall.method) hcalls
    rw [List.map_map] at methods
    exact methods ▸ List.prefix_refl _
  | posted prepared real posting =>
    rw [real] at dry
    cases dry

/-- The report of a dry run says that it was not posted. -/
lemma Outcome.posted_of_dry (h : Outcome triage pr history (.ok report))
    (dry : triage.dryRun = true) : report.posted = false := by
  cases h with
  | previewed prepared _ =>
    obtain ⟨known, files, parsed⟩ := prepared
    rw [Triage.report, dry]
    rfl
  | posted prepared real posting =>
    rw [real] at dry
    cases dry

/-- What a dry run leaves behind of a forge in memory: it is taken down that the forge was compared
and read. -/
def OnlyReads (forge after : MemoryForge) : Prop :=
  ∃ calls, after = { forge with calls := forge.calls ++ calls } ∧
    ∀ call ∈ calls, call.method = .compare ∨ call.method = .readTextFile

lemma onlyReads_run (triage : Triage) (pr : PullRequestContext) (forge : MemoryForge) :
    OnlyReads forge (forge.run ((triage.withDryRun true).run pr)).2 := by
  have outcome := outcome_of_course
    (course_history MemoryForge.perform ((triage.withDryRun true).run pr) forge)
  have methods : ∀ exchange ∈ ((triage.withDryRun true).run pr).history perform forge,
      exchange.call.method = .compare ∨ exchange.call.method = .readTextFile := by
    intro exchange hmem
    have hmethod := (outcome.methods_of_dry rfl).subset (List.mem_map_of_mem hmem)
    exact List.mem_pair.1 hmethod
  have silent : ∀ exchange ∈ ((triage.withDryRun true).run pr).history perform forge,
      WritesNothing exchange.call := by
    intro exchange hmem
    rcases methods exchange hmem with h | h
    · exact ⟨by rw [h]; nofun, by rw [h]; nofun⟩
    · exact ⟨by rw [h]; nofun, by rw [h]; nofun⟩
  refine ⟨_, state_of_writesNothing silent, fun call hcall => ?_⟩
  obtain ⟨exchange, hmem, rfl⟩ := List.mem_map.1 hcall
  exact methods exchange hmem

/-! ## The preview -/

lemma run_real (triage : Triage) (pr : PullRequestContext) (forge : MemoryForge) :
    forge.run ((triage.withDryRun false).run pr) =
      (forge.run ((triage.withDryRun true).run pr)).2.run
        (goOn (forge.run ((triage.withDryRun true).run pr)).1) := by
  rw [run_real_eq_bind]
  exact run_bind perform ((triage.withDryRun true).run pr) goOn forge

/-- The last call of a run was to write, and it was made to fail, with this error. -/
def FailsToWrite (forge after : MemoryForge) (error : TriageError) : Prop :=
  ∃ call cause, (call.method = .createComment ∨ call.method = .addLabels) ∧
    after.calls.getLast? = some call ∧ forge.failure = some (call.method, cause) ∧
    error = .forge cause

/-- Where posting a report fails, a call to write was made to fail. -/
lemma failsToWrite_post (forge : MemoryForge) (report : TriageReport)
    (herror : (forge.run (post report)).1 = .error error) :
    FailsToWrite forge (forge.run (post report)).2 error := by
  have posting : Posting report ((post report).history perform forge) (.error error) :=
    herror ▸ posting_of_course (course_history perform (post report) forge)
  obtain ⟨before, call, cause, hhistory, hwrites, rfl⟩ := posting.of_error
  have made : ⟨call, .error cause⟩ ∈ (post report).history perform forge :=
    hhistory ▸ List.mem_append_right before List.mem_cons_self
  have failure : forge.failure = some (call.method, cause) := by
    refine failure_of_writes (reply_of_mem_history made).symm ?_
    rintro ⟨hcomment, hlabels⟩
    exact hwrites.elim hcomment hlabels
  refine ⟨call, cause, hwrites, ?_, failure, rfl⟩
  rw [calls_of_run, hhistory, List.map_append, ← List.append_assoc]
  exact List.getLast?_concat

lemma eq_of_run_post {posted : TriageReport} (h : (forge.run (post report)).1 = .ok posted) :
    posted = report := by
  have posting : Posting report ((post report).history perform forge) (.ok posted) :=
    h ▸ posting_of_course (course_history perform (post report) forge)
  exact posting.of_ok.1

lemma OnlyReads.failsToWrite {after final : MemoryForge} (reads : OnlyReads forge after)
    (h : FailsToWrite after final error) : FailsToWrite forge final error := by
  obtain ⟨calls, rfl, -⟩ := reads
  exact h

/-- What a dry run says about the real run from the same state. -/
structure Previews (forge : MemoryForge)
    (dry real : Except TriageError TriageReport × MemoryForge) : Prop where
  /-- If the real run succeeds, so does the dry run, with the same report but for its posting. -/
  succeeds : ∀ report, real.1 = .ok report → dry.1 = .ok { report with posted := false }
  /-- If the dry run fails, so does the real run, and it writes nothing. -/
  fails : ∀ error, dry.1 = .error error → real.1 = .error error ∧ OnlyReads forge real.2
  /-- If only the real run fails, then because it cannot write. -/
  fails_writing : ∀ report error, dry.1 = .ok report → real.1 = .error error →
    FailsToWrite forge real.2 error
  /-- The dry run writes nothing. -/
  reads : OnlyReads forge dry.2

/-- A dry run previews the real run from the same state. -/
theorem dryRun_previews (triage : Triage) (pr : PullRequestContext) (forge : MemoryForge) :
    Previews forge (forge.run ((triage.withDryRun true).run pr))
      (forge.run ((triage.withDryRun false).run pr)) := by
  have reads := onlyReads_run triage pr forge
  have outcome := outcome_of_course
    (course_history MemoryForge.perform ((triage.withDryRun true).run pr) forge)
  change Outcome _ pr _ (forge.run ((triage.withDryRun true).run pr)).1 at outcome
  rw [run_real]
  -- The real run goes on from where the dry run ended, and it matters only how that was.
  generalize forge.run ((triage.withDryRun true).run pr) = dry at reads outcome ⊢
  obtain ⟨result, after⟩ := dry
  cases result with
  | error cause =>
    refine ⟨nofun, ?_, nofun, reads⟩
    rintro error ⟨⟩
    exact ⟨rfl, reads⟩
  | ok report =>
    have unposted : report.posted = false := outcome.posted_of_dry rfl
    refine ⟨fun posted hok => ?_, nofun, fun _ error _ herror => ?_, reads⟩
    · rw [eq_of_run_post hok, ← unposted]
    · exact reads.failsToWrite (failsToWrite_post after { report with posted := true } herror)

/-- A forge in memory that has a comparison and a manifest, and may be made to fail. -/
def previewedForge (failure : Option (ForgeMethod × ForgeError)) : MemoryForge where
  comparisons := [(("aaa", "bbb"), [⟨"lib/fs.js"⟩])]
  files := [(".github/CODEOWNERS", "/lib/** @fs\n")]
  failure := failure

/-- Triage on it, of a pull request whose description names a subsystem. -/
def previewedRun (dryRun : Bool) (failure : Option (ForgeMethod × ForgeError)) :
    Except TriageError TriageReport × MemoryForge :=
  (previewedForge failure).run ((withDryRun { classifier := .ofTables [] [] ["fs"] } dryRun).run
    ⟨42, some "fs: close the file", none, some "aaa", some "bbb"⟩)

/-- A real run that succeeds reports what the dry run says, and one that cannot add its labels
fails where the dry run succeeds, after the comment was posted. -/
theorem dryRun_previews_previewedForge :
    ((previewedRun true none).1 =
        .ok ⟨42, ["lib/fs.js"], ["@fs"], Comment.render ["@fs"], some ["fs"], false⟩ ∧
      (previewedRun false none).1 =
        .ok ⟨42, ["lib/fs.js"], ["@fs"], Comment.render ["@fs"], some ["fs"], true⟩ ∧
      (previewedRun true (some (.addLabels, .rateLimited))).1 =
        .ok ⟨42, ["lib/fs.js"], ["@fs"], Comment.render ["@fs"], some ["fs"], false⟩ ∧
      (previewedRun false (some (.addLabels, .rateLimited))).1 = .error (.forge .rateLimited) ∧
      (previewedRun false (some (.addLabels, .rateLimited))).2.comments =
        [(42, Comment.render ["@fs"])]) ∧
      ∀ failure, Previews (previewedForge failure) (previewedRun true failure)
        (previewedRun false failure) :=
  ⟨by decide +kernel, fun failure => dryRun_previews _ _ (previewedForge failure)⟩

end PullTriage.Triage
