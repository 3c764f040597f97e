import PullTriage.Proofs.Forge.Events
import PullTriage.Proofs.Forge.Interleaving
import PullTriage.Proofs.Triage.Calls

/-!
# Triage of several pull requests at a time

Triage may be done for several pull requests, or for one of them several times, on one forge in
memory, and the calls may come in any order.  Each triage ends after at most four turns, with the
report or the error that it has alone (`concurrent_runs`).  What they write comes in the order of
the calls, so the comments can be permuted and the labels can stand in another order, but they are
the comments and the labels that the same triages leave one after the other.  A pull request that
only one of them writes to is left as by that one alone.
-/

namespace PullTriage.Triage

open ForgeProgram MemoryForge

/-- Triage that is to be done for a pull request. -/
structure Job where
  triage : Triage
  pr : PullRequestContext

/-- The calls of a job. -/
def Job.flow (job : Job) : Flow :=
  job.triage.run job.pr

/-- Jobs on a forge, before any of them has made a call. -/
def poolOf (jobs : List Job) (forge : MemoryForge) : Pool (Except TriageError TriageReport) :=
  ⟨jobs.map Job.flow, forge⟩

/-- Triage makes at most four calls. -/
lemma length_history_le (job : Job) (forge : MemoryForge) :
    (job.flow.history perform forge).length ≤ 4 := by
  have outcome : Outcome job.triage job.pr (job.flow.history perform forge)
      (forge.run job.flow).1 := outcome_of_course (course_history perform job.flow forge)
  by_cases known : ∃ base head, job.pr.HasRevisions base head
  · obtain ⟨base, head, known⟩ := known
    obtain ⟨comment, labels, calls⟩ := outcome.calls_in_order known
    have hlength := calls.length_le
    rwa [List.length_map] at hlength
  · obtain ⟨hnil, -⟩ := outcome.silent fun base head h => known ⟨base, head, h⟩
    simp [hnil]

/-- The jobs have ended, and but for the order in which they wrote it is as if they had been done
one after the other. -/
structure DoneAsInTurn (jobs : List Job) (forge : MemoryForge)
    (final : Pool (Except TriageError TriageReport)) : Prop where
  /-- Each job has the result that it has alone. -/
  results : final.programs = jobs.map fun job => .done (forge.run job.flow).1
  /-- The comments are those that the jobs leave in any turn. -/
  comments : ∀ order : List Job, order.Perm jobs →
    final.forge.comments.Perm (inTurn (order.map Job.flow) forge).comments
  /-- So are the labels of each pull request. -/
  labels : ∀ order : List Job, order.Perm jobs → ∀ number label, label ∈ final.forge.labels number ↔
    label ∈ (inTurn (order.map Job.flow) forge).labels number
  /-- No pull request has a label twice. -/
  distinct : ∀ number, (final.forge.labels number).Nodup
  /-- What only one job writes to is as this job leaves it alone. -/
  only_writer : ∀ before job after number, jobs = before ++ job :: after →
    (∀ other ∈ before ++ after, ¬ forge.WritesTo other.flow number) →
    final.forge.comments.filter (·.1 = number) =
        (forge.run job.flow).2.comments.filter (·.1 = number) ∧
      final.forge.labels number = (forge.run job.flow).2.labels number

/-- Jobs that share a forge end after four turns each, and in whatever order they make their calls,
each of them ends as it does alone, and together they write what they write one after the other. -/
theorem concurrent_runs (events : List Event) (jobs : List Job) (schedule : List Nat) :
    ((∀ place < jobs.length, 4 ≤ schedule.count place) →
        ((poolOf jobs (made events)).play schedule).HasEnded) ∧
      (((poolOf jobs (made events)).play schedule).HasEnded →
        DoneAsInTurn jobs (made events) ((poolOf jobs (made events)).play schedule)) := by
  constructor
  · intro turns
    refine Pool.hasEnded_of_turns fun place program hprogram => ?_
    rw [poolOf, List.getElem?_map, Option.map_eq_some_iff] at hprogram
    obtain ⟨job, hjob, rfl⟩ := hprogram
    obtain ⟨hplace, -⟩ := List.getElem?_eq_some_iff.1 hjob
    exact (length_history_le job _).trans (turns place hplace)
  · intro ended
    have alone := Pool.runsAlone_of_hasEnded ended
    refine ⟨?_, fun order horder => ?_, fun order horder number label => ?_, fun number => ?_,
      fun before job after number hjobs silent => ?_⟩
    · rw [alone.programs, poolOf, List.map_map]
      rfl
    · exact alone.comments_perm (horder.map Job.flow)
    · exact alone.mem_labels_iff (horder.map Job.flow) number label
    · exact alone.nodup_labels (nodup_labels_made events number)
    · have programs : (poolOf jobs (made events)).programs =
          before.map Job.flow ++ job.flow :: after.map Job.flow := by
        rw [poolOf, hjobs, List.map_append, List.map_cons]
      refine alone.only_writer programs fun other hother => ?_
      rw [← List.map_append] at hother
      obtain ⟨otherJob, hjob, rfl⟩ := List.mem_map.1 hother
      exact silent otherJob hjob

/-- A forge where a pull request has a label already. -/
def sharedHistory : List Event :=
  [.give (.comparison "aaa" "bbb" [⟨"lib/fs.js"⟩, ⟨"lib/http.js"⟩]),
    .give (.file "OWNERS" "/lib/** @lib\n"),
    .call (.addLabels 42 ["fs"]),
    .failOn .getPullRequest .rateLimited]

/-- Triage of a pull request with a description, which may name three subsystems. -/
def namedJob (number : Nat) (body : String) : Job where
  triage.classifier := .ofTables [] [] ["fs", "http", "net"]
  triage.manifestPath := "OWNERS"
  pr := ⟨number, some body, some "main", some "aaa", some "bbb"⟩

/-- Three jobs, two of them for one pull request. -/
def sharedJobs : List Job :=
  [namedJob 42 "http, fs: close", namedJob 42 "net, fs: open", namedJob 7 "http: keep alive"]

/-- A schedule where the second job is the first to write. -/
def sharedSchedule : List Nat :=
  [0, 1, 0, 1, 2, 1, 1, 0, 2, 2, 0, 2]

/-- Of two jobs for one pull request, the second one is the first to write, so the labels of the
other come behind its own. -/
theorem concurrent_runs_sharedJobs :
    ((poolOf sharedJobs (made sharedHistory)).play sharedSchedule).HasEnded ∧
      DoneAsInTurn sharedJobs (made sharedHistory)
        ((poolOf sharedJobs (made sharedHistory)).play sharedSchedule) ∧
      ((poolOf sharedJobs (made sharedHistory)).play sharedSchedule).forge.labels 42 =
        ["fs", "net", "http"] ∧
      (inTurn (sharedJobs.map Job.flow) (made sharedHistory)).labels 42 =
        ["fs", "http", "net"] := by
  obtain ⟨ends, done⟩ := concurrent_runs sharedHistory sharedJobs sharedSchedule
  have ended := ends (by decide)
  exact ⟨ended, done ended, by decide +kernel, by decide +kernel⟩

end PullTriage.Triage
