import PullTriage.Proofs.Forge.Course
import PullTriage.Proofs.Label.Classification
import PullTriage.Triage

/-!
# The calls of triage

Triage has few courses, and `Outcome` lists them: it stops for want of a revision, at a failure to
compare or to read, or at a malformed manifest; or it is `Prepared`, with a report, and goes on to
post it (`Posting`).

From the list follows what matters to the owner of a repository (`Orderly`): the calls come in one
order, none of them twice; what is written to the forge is what the manifest and the classifier say,
and nothing is written before all that can fail without writing has succeeded; and the first
failure is the end of it.  The last of these holds of every flow that makes its calls by `ask`.
On every forge a run has one of the courses and is orderly (`run_orderly`).
-/

namespace PullTriage

/-! ## Revisions -/

/-- Both revisions are known, and neither is empty. -/
structure PullRequestContext.HasRevisions (pr : PullRequestContext) (base head : String) :
    Prop where
  baseSha : pr.baseSha = some base
  headSha : pr.headSha = some head
  base_ne : base ≠ ""
  head_ne : head ≠ ""

lemma nonEmpty?_eq_some_iff {value text : String} :
    nonEmpty? value = some text ↔ value = text ∧ text ≠ "" := by
  rw [nonEmpty?]
  by_cases h : value = ""
  · rw [if_pos (String.isEmpty_iff.2 h)]
    constructor
    · nofun
    · rintro ⟨rfl, hne⟩
      exact absurd h hne
  · rw [if_neg fun hempty => h (String.isEmpty_iff.1 hempty), Option.some.injEq]
    exact ⟨fun heq => ⟨heq, heq ▸ h⟩, And.left⟩

lemma bind_nonEmpty?_eq_some_iff {sha : Option String} {text : String} :
    sha.bind nonEmpty? = some text ↔ sha = some text ∧ text ≠ "" := by
  cases sha with
  | none => simp
  | some value => rw [Option.bind_some, nonEmpty?_eq_some_iff, Option.some.injEq]

lemma PullRequestContext.revisions?_eq_some_iff {pr : PullRequestContext} {base head : String} :
    pr.revisions? = some (base, head) ↔ pr.HasRevisions base head := by
  have both : pr.revisions? = some (base, head) ↔
      pr.baseSha.bind nonEmpty? = some base ∧ pr.headSha.bind nonEmpty? = some head := by
    rw [revisions?]
    cases pr.baseSha.bind nonEmpty? <;> cases pr.headSha.bind nonEmpty? <;> simp
  rw [both, bind_nonEmpty?_eq_some_iff, bind_nonEmpty?_eq_some_iff]
  exact ⟨fun ⟨⟨hb, hbne⟩, hh, hhne⟩ => ⟨hb, hh, hbne, hhne⟩, fun h =>
    ⟨⟨h.baseSha, h.base_ne⟩, h.headSha, h.head_ne⟩⟩

namespace Triage

open ForgeProgram

variable {triage : Triage} {pr : PullRequestContext} {report : TriageReport}
  {history : List Exchange} {result : Except TriageError TriageReport}

/-! ## Asking -/

lemma course_ask_iff {c : ForgeCall} {next : c.Answer → Flow} :
    (ask c next).Course history result ↔
      (∃ cause, history = [⟨c, .error cause⟩] ∧ result = .error (.forge cause)) ∨
        ∃ answer rest, history = ⟨c, .ok answer⟩ :: rest ∧ (next answer).Course rest result := by
  rw [ask, course_call_iff]
  constructor
  · rintro ⟨reply, rest, rfl, h⟩
    cases reply with
    | error cause =>
      obtain ⟨rfl, rfl⟩ := course_done_iff.1 h
      exact .inl ⟨cause, rfl, rfl⟩
    | ok answer => exact .inr ⟨answer, rest, rfl, h⟩
  · rintro (⟨cause, rfl, rfl⟩ | ⟨answer, rest, rfl, h⟩)
    · exact ⟨.error cause, [], rfl, course_done_iff.2 ⟨rfl, rfl⟩⟩
    · exact ⟨.ok answer, rest, rfl, h⟩

/-- Every call of the flow is made by `ask`. -/
inductive Asks : Flow → Prop
  | done (result : Except TriageError TriageReport) : Asks (.done result)
  | ask (c : ForgeCall) {next : c.Answer → Flow} (h : ∀ answer, Asks (next answer)) :
      Asks (ask c next)

/-- In a flow that asks, a call that fails is the last one, and the flow fails with it. -/
lemma Asks.fails_last {flow : Flow} (hflow : Asks flow) (h : flow.Course history result)
    {before after : List Exchange} {c : ForgeCall} {cause : ForgeError}
    (hfails : history = before ++ ⟨c, .error cause⟩ :: after) :
    after = [] ∧ result = .error (.forge cause) := by
  induction hflow generalizing history before with
  | done value =>
    obtain ⟨rfl, -⟩ := course_done_iff.1 h
    simp at hfails
  | ask asked hnext ih =>
    rcases course_ask_iff.1 h with ⟨cause', rfl, rfl⟩ | ⟨answer, rest, rfl, hrest⟩
    · cases before with
      | nil =>
        cases hfails
        exact ⟨rfl, rfl⟩
      | cons exchange before => simp at hfails
    · cases before with
      | nil => cases hfails
      | cons exchange before => exact ih answer hrest (List.cons.inj hfails).2

lemma asks_post (report : TriageReport) : Asks (post report) := by
  refine .ask _ fun _ => ?_
  cases report.labels with
  | none => exact .done _
  | some labels => exact .ask _ fun _ => .done _

lemma asks_run (triage : Triage) (pr : PullRequestContext) : Asks (triage.run pr) := by
  rw [run]
  cases pr.revisions? with
  | none => exact .done _
  | some revisions =>
    refine .ask _ fun files => .ask _ fun text => ?_
    cases Manifest.parse text with
    | error cause => exact .done _
    | ok manifest =>
      by_cases hdry : triage.dryRun = true
      · simp only [hdry, if_true]
        exact .done _
      · simp only [hdry]
        exact asks_post _

/-! ## The courses -/

/-- Triage has compared the revisions and read a manifest, and the report follows from both. -/
inductive Prepared (triage : Triage) (pr : PullRequestContext) :
    List Exchange → TriageReport → Prop
  | intro {base head : String} (revisions : pr.HasRevisions base head) (files : List ChangedFile)
      {text : String} {manifest : Manifest} (parsed : Manifest.parse text = .ok manifest) :
      Prepared triage pr
        [⟨.compare base head, .ok files⟩, ⟨.readTextFile triage.manifestPath, .ok text⟩]
        (triage.report pr manifest (files.map (·.filename)))

/-- What follows when a report is to be posted. -/
inductive Posting (report : TriageReport) :
    List Exchange → Except TriageError TriageReport → Prop
  | notCommented (cause : ForgeError) :
      Posting report [⟨.createComment report.number report.comment, .error cause⟩]
        (.error (.forge cause))
  | unlabelled (none : report.labels = none) :
      Posting report [⟨.createComment report.number report.comment, .ok ()⟩] (.ok report)
  | notLabelled {labels : List String} (some : report.labels = some labels) (cause : ForgeError) :
      Posting report
        [⟨.createComment report.number report.comment, .ok ()⟩,
          ⟨.addLabels report.number labels, .error cause⟩]
        (.error (.forge cause))
  | labelled {labels : List String} (some : report.labels = some labels) :
      Posting report
        [⟨.createComment report.number report.comment, .ok ()⟩,
          ⟨.addLabels report.number labels, .ok ()⟩]
        (.ok report)

/-- The courses of triage. -/
inductive Outcome (triage : Triage) (pr : PullRequestContext) :
    List Exchange → Except TriageError TriageReport → Prop
  | noRevisions (missing : ∀ base head, ¬ pr.HasRevisions base head) :
      Outcome triage pr [] (.error .missingRevision)
  | notCompared {base head : String} (revisions : pr.HasRevisions base head) (cause : ForgeError) :
      Outcome triage pr [⟨.compare base head, .error cause⟩] (.error (.forge cause))
  | notRead {base head : String} (revisions : pr.HasRevisions base head)
      (files : List ChangedFile) (cause : ForgeError) :
      Outcome triage pr
        [⟨.compare base head, .ok files⟩, ⟨.readTextFile triage.manifestPath, .error cause⟩]
        (.error (.forge cause))
  | malformed {base head : String} (revisions : pr.HasRevisions base head)
      (files : List ChangedFile) {text : String} {cause : ManifestError}
      (rejected : Manifest.parse text = .error cause) :
      Outcome triage pr
        [⟨.compare base head, .ok files⟩, ⟨.readTextFile triage.manifestPath, .ok text⟩]
        (.error (.manifest triage.manifestPath cause))
  | previewed {readings : List Exchange} {report : TriageReport}
      (prepared : Prepared triage pr readings report) (dry : triage.dryRun = true) :
      Outcome triage pr readings (.ok report)
  | posted {readings postings : List Exchange} {report : TriageReport}
      {result : Except TriageError TriageReport} (prepared : Prepared triage pr readings report)
      (real : triage.dryRun = false) (posting : Posting report postings result) :
      Outcome triage pr (readings ++ postings) result

lemma posting_of_course (h : (post report).Course history result) :
    Posting report history result := by
  rcases course_ask_iff.1 h with ⟨cause, rfl, rfl⟩ | ⟨answer, rest, rfl, hrest⟩
  · exact .notCommented cause
  · cases hlabels : report.labels with
    | none =>
      rw [hlabels] at hrest
      obtain ⟨rfl, rfl⟩ := course_done_iff.1 hrest
      exact .unlabelled hlabels
    | some labels =>
      rw [hlabels] at hrest
      rcases course_ask_iff.1 hrest with ⟨cause, rfl, rfl⟩ | ⟨answer', rest', rfl, hend⟩
      · exact .notLabelled hlabels cause
      · obtain ⟨rfl, rfl⟩ := course_done_iff.1 hend
        exact .labelled hlabels

/-- Every course of triage is on the list. -/
theorem outcome_of_course (h : (triage.run pr).Course history result) :
    Outcome triage pr history result := by
  rw [run] at h
  cases hrevisions : pr.revisions? with
  | none =>
    rw [hrevisions] at h
    obtain ⟨rfl, rfl⟩ := course_done_iff.1 h
    refine .noRevisions fun base head hpr => ?_
    rw [PullRequestContext.revisions?_eq_some_iff.2 hpr] at hrevisions
    cases hrevisions
  | some revisions =>
    obtain ⟨base, head⟩ := revisions
    have known := PullRequestContext.revisions?_eq_some_iff.1 hrevisions
    rw [hrevisions] at h
    rcases course_ask_iff.1 h with ⟨cause, rfl, rfl⟩ | ⟨files, rest, rfl, hread⟩
    · exact .notCompared known cause
    rcases course_ask_iff.1 hread with ⟨cause, rfl, rfl⟩ | ⟨text, rest', rfl, hparsed⟩
    · exact .notRead known files cause
    cases hparse : Manifest.parse text with
    | error cause =>
      rw [hparse] at hparsed
      obtain ⟨rfl, rfl⟩ := course_done_iff.1 hparsed
      exact .malformed known files hparse
    | ok manifest =>
      rw [hparse] at hparsed
      have prepared : Prepared triage pr _ _ := .intro known files hparse
      cases hdry : triage.dryRun with
      | true =>
        simp only [hdry, if_true] at hparsed
        obtain ⟨rfl, rfl⟩ := course_done_iff.1 hparsed
        exact .previewed prepared hdry
      | false =>
        simp only [hdry] at hparsed
        exact .posted prepared hdry (posting_of_course hparsed)

/-! ## The order of the calls -/

/-- The forge gave these files, and a manifest that is this one. -/
def Reads (triage : Triage) (history : List Exchange) (files : List ChangedFile)
    (manifest : Manifest) : Prop :=
  ∃ base head text, ⟨.compare base head, .ok files⟩ ∈ history ∧
    ⟨.readTextFile triage.manifestPath, .ok text⟩ ∈ history ∧ Manifest.parse text = .ok manifest

/-- What triage says to a forge, and how it ends. -/
structure Orderly (triage : Triage) (pr : PullRequestContext) (history : List Exchange)
    (result : Except TriageError TriageReport) : Prop where
  /-- Triage goes as far as it can, and ends with its report or with the error that stopped it. -/
  outcome : Outcome triage pr history result
  /-- Without both revisions there is no call. -/
  silent : (∀ base head, ¬ pr.HasRevisions base head) →
    history = [] ∧ result = .error .missingRevision
  /-- The calls come in one order. -/
  calls_in_order : ∀ base head, pr.HasRevisions base head → ∃ comment labels,
    history.map (·.call) <+:
      [.compare base head, .readTextFile triage.manifestPath, .createComment pr.number comment,
        .addLabels pr.number labels]
  /-- No call is made twice. -/
  once : (history.map (·.call.method)).Nodup
  /-- A comment is posted only in a real run, when all that is needed to write it was read. -/
  commented : ∀ number comment reply, ⟨.createComment number comment, reply⟩ ∈ history →
    triage.dryRun = false ∧ ∃ files manifest, triage.Reads history files manifest ∧
      comment = Comment.render (manifest.uniqueOwners (files.map (·.filename)))
  /-- Labels are added only after a comment, and they are those of the classifier. -/
  labelled : ∀ number labels reply, ⟨.addLabels number labels, reply⟩ ∈ history →
    triage.dryRun = false ∧ ∃ files manifest comment, triage.Reads history files manifest ∧
      ⟨.createComment number comment, .ok ()⟩ ∈ history ∧
      triage.classifier.classify (files.map (·.filename)) pr.body pr.baseRef = some labels ∧
      labels ≠ [] ∧ labels.Nodup ∧ labels.length ≤ triage.classifier.maxLabels
  /-- The first call that fails is the last, and triage fails with it. -/
  fails_last : ∀ before c cause after, history = before ++ ⟨c, .error cause⟩ :: after →
    after = [] ∧ result = .error (.forge cause)
  /-- Triage succeeds exactly if nothing is amiss: the revisions are there, the manifest that the
  forge gives is well formed, and no call fails. -/
  ok_iff : (∃ report, result = .ok report) ↔
    (∃ base head, pr.HasRevisions base head) ∧
      (∀ text, ⟨.readTextFile triage.manifestPath, .ok text⟩ ∈ history →
        ∃ manifest, Manifest.parse text = .ok manifest) ∧
      ∀ exchange ∈ history, exchange.Succeeds

lemma Reads.append {files : List ChangedFile} {manifest : Manifest}
    (h : triage.Reads history files manifest) (more : List Exchange) :
    triage.Reads (history ++ more) files manifest := by
  obtain ⟨base, head, text, hcompare, hread, hparse⟩ := h
  exact ⟨base, head, text, List.mem_append_left more hcompare, List.mem_append_left more hread,
    hparse⟩

lemma Prepared.reads (h : Prepared triage pr history report) :
    ∃ files manifest, triage.Reads history files manifest ∧
      report = triage.report pr manifest (files.map (·.filename)) := by
  obtain ⟨revisions, files, parsed⟩ := h
  exact ⟨files, _, ⟨_, _, _, List.mem_cons_self, List.mem_cons_of_mem _ List.mem_cons_self, parsed⟩,
    rfl⟩

lemma Prepared.calls (h : Prepared triage pr history report) : ∃ base head,
    history.map (·.call) = [.compare base head, .readTextFile triage.manifestPath] := by
  obtain ⟨revisions, files, parsed⟩ := h
  exact ⟨_, _, rfl⟩

lemma Prepared.revisions (h : Prepared triage pr history report) :
    ∃ base head, pr.HasRevisions base head := by
  obtain ⟨revisions, files, parsed⟩ := h
  exact ⟨_, _, revisions⟩

lemma Prepared.succeeds (h : Prepared triage pr history report) :
    ∀ exchange ∈ history, exchange.Succeeds := by
  obtain ⟨revisions, files, parsed⟩ := h
  rintro exchange hmem
  rcases List.mem_pair.1 hmem with rfl | rfl
  · exact Exchange.succeeds_ok _ _
  · exact Exchange.succeeds_ok _ _

/-- Preparing writes nothing. -/
lemma Prepared.not_mem (h : Prepared triage pr history report) {exchange : Exchange}
    (hwrites : exchange.call.method = .createComment ∨ exchange.call.method = .addLabels) :
    exchange ∉ history := by
  obtain ⟨revisions, files, parsed⟩ := h
  intro hmem
  rcases List.mem_pair.1 hmem with rfl | rfl
  · simp [ForgeCall.method] at hwrites
  · simp [ForgeCall.method] at hwrites

lemma Posting.comment_eq (h : Posting report history result) {number : Nat} {comment : String}
    {reply : (ForgeCall.createComment number comment).Reply}
    (hmem : ⟨.createComment number comment, reply⟩ ∈ history) : comment = report.comment := by
  cases h with
  | notCommented cause => cases List.mem_singleton.1 hmem; rfl
  | unlabelled hnone => cases List.mem_singleton.1 hmem; rfl
  | notLabelled hsome cause => rcases List.mem_pair.1 hmem with heq | heq <;> cases heq; rfl
  | labelled hsome => rcases List.mem_pair.1 hmem with heq | heq <;> cases heq; rfl

lemma Posting.labels_eq (h : Posting report history result) {number : Nat} {labels : List String}
    {reply : (ForgeCall.addLabels number labels).Reply}
    (hmem : ⟨.addLabels number labels, reply⟩ ∈ history) :
    report.labels = some labels ∧
      ⟨.createComment number report.comment, .ok ()⟩ ∈ history := by
  cases h with
  | notCommented cause => cases List.mem_singleton.1 hmem
  | unlabelled hnone => cases List.mem_singleton.1 hmem
  | notLabelled hsome cause =>
    rcases List.mem_pair.1 hmem with heq | heq <;> cases heq
    exact ⟨hsome, List.mem_cons_self⟩
  | labelled hsome =>
    rcases List.mem_pair.1 hmem with heq | heq <;> cases heq
    exact ⟨hsome, List.mem_cons_self⟩

lemma Posting.calls_in_order (h : Posting report history result) :
    ∃ labels, history.map (·.call) <+:
      [.createComment report.number report.comment, .addLabels report.number labels] := by
  cases h with
  | notCommented cause => exact ⟨[], List.prefix_append _ _⟩
  | unlabelled hnone => exact ⟨[], List.prefix_append _ _⟩
  | @notLabelled labels hsome cause => exact ⟨labels, List.prefix_refl _⟩
  | @labelled labels hsome => exact ⟨labels, List.prefix_refl _⟩

lemma Posting.ok_iff (h : Posting report history result) :
    (∃ report, result = .ok report) ↔ ∀ exchange ∈ history, exchange.Succeeds := by
  cases h with
  | notCommented cause => simp
  | unlabelled hnone =>
    refine ⟨fun _ exchange hmem => ?_, fun _ => ⟨report, rfl⟩⟩
    cases List.mem_singleton.1 hmem
    exact Exchange.succeeds_ok _ _
  | notLabelled hsome cause => simp
  | labelled hsome =>
    refine ⟨fun _ exchange hmem => ?_, fun _ => ⟨report, rfl⟩⟩
    rcases List.mem_pair.1 hmem with rfl | rfl
    · exact Exchange.succeeds_ok _ _
    · exact Exchange.succeeds_ok _ _

/-- The calls that post a report. -/
def writings (report : TriageReport) : List ForgeCall :=
  .createComment report.number report.comment ::
    (report.labels.map (ForgeCall.addLabels report.number)).toList

lemma Posting.of_ok {posted : TriageReport} (h : Posting report history (.ok posted)) :
    posted = report ∧ history.map (·.call) = writings report := by
  cases h with
  | unlabelled hnone =>
    refine ⟨rfl, ?_⟩
    rw [writings, hnone]
    rfl
  | labelled hsome =>
    refine ⟨rfl, ?_⟩
    rw [writings, hsome]
    rfl

/-- Where posting fails, its last call failed. -/
lemma Posting.of_error {error : TriageError} (h : Posting report history (.error error)) :
    ∃ before call cause, history = before ++ [⟨call, .error cause⟩] ∧
      (call.method = .createComment ∨ call.method = .addLabels) ∧ error = .forge cause := by
  cases h with
  | notCommented cause => exact ⟨[], _, cause, rfl, .inl rfl, rfl⟩
  | notLabelled hsome cause => exact ⟨[_], _, cause, rfl, .inr rfl, rfl⟩

lemma revisions_unique {base head base' head' : String} (h : pr.HasRevisions base head)
    (h' : pr.HasRevisions base' head') : base = base' ∧ head = head' :=
  ⟨Option.some.inj (h.baseSha.symm.trans h'.baseSha),
    Option.some.inj (h.headSha.symm.trans h'.headSha)⟩

lemma Outcome.silent (h : Outcome triage pr history result)
    (missing : ∀ base head, ¬ pr.HasRevisions base head) :
    history = [] ∧ result = .error .missingRevision := by
  cases h with
  | noRevisions => exact ⟨rfl, rfl⟩
  | notCompared known cause => exact absurd known (missing _ _)
  | notRead known files cause => exact absurd known (missing _ _)
  | malformed known files rejected => exact absurd known (missing _ _)
  | previewed prepared dry =>
    obtain ⟨base, head, known⟩ := prepared.revisions
    exact absurd known (missing base head)
  | posted prepared real posting =>
    obtain ⟨base, head, known⟩ := prepared.revisions
    exact absurd known (missing base head)

lemma Outcome.calls_in_order (h : Outcome triage pr history result) {base head : String}
    (revisions : pr.HasRevisions base head) : ∃ comment labels, history.map (·.call) <+:
      [.compare base head, .readTextFile triage.manifestPath, .createComment pr.number comment,
        .addLabels pr.number labels] := by
  cases h with
  | noRevisions missing => exact absurd revisions (missing base head)
  | notCompared known cause =>
    obtain ⟨rfl, rfl⟩ := revisions_unique revisions known
    exact ⟨"", [], List.prefix_append _ _⟩
  | notRead known files cause =>
    obtain ⟨rfl, rfl⟩ := revisions_unique revisions known
    exact ⟨"", [], List.prefix_append _ _⟩
  | malformed known files rejected =>
    obtain ⟨rfl, rfl⟩ := revisions_unique revisions known
    exact ⟨"", [], List.prefix_append _ _⟩
  | previewed prepared dry =>
    obtain ⟨known, files, parsed⟩ := prepared
    obtain ⟨rfl, rfl⟩ := revisions_unique revisions known
    exact ⟨"", [], List.prefix_append _ _⟩
  | @posted readings postings report result prepared real posting =>
    obtain ⟨labels, horder⟩ := posting.calls_in_order
    refine ⟨report.comment, labels, ?_⟩
    obtain ⟨known, files, parsed⟩ := prepared
    obtain ⟨rfl, rfl⟩ := revisions_unique revisions known
    rw [List.map_append]
    exact (List.prefix_append_right_inj _).2 horder

lemma Outcome.once (h : Outcome triage pr history result) :
    (history.map (·.call.method)).Nodup := by
  by_cases known : ∃ base head, pr.HasRevisions base head
  · obtain ⟨base, head, known⟩ := known
    obtain ⟨comment, labels, horder⟩ := h.calls_in_order known
    have methods := (horder.map ForgeCall.method).sublist
    rw [List.map_map] at methods
    exact List.Nodup.sublist methods (by simp [ForgeCall.method])
  · obtain ⟨rfl, -⟩ := h.silent fun base head hpr => known ⟨base, head, hpr⟩
    exact List.nodup_nil

/-- The manifest that was read is well formed. -/
lemma Prepared.parses (h : Prepared triage pr history report) {text : String}
    (hread : ⟨.readTextFile triage.manifestPath, .ok text⟩ ∈ history) :
    ∃ manifest, Manifest.parse text = .ok manifest := by
  obtain ⟨revisions, files, parsed⟩ := h
  rcases List.mem_pair.1 hread with heq | heq <;> cases heq
  exact ⟨_, parsed⟩

/-- Posting reads nothing. -/
lemma Posting.not_mem_readTextFile (h : Posting report history result) {path : String}
    {reply : (ForgeCall.readTextFile path).Reply} : ⟨.readTextFile path, reply⟩ ∉ history := by
  cases h <;> simp

lemma Outcome.ok_iff (h : Outcome triage pr history result) :
    (∃ report, result = .ok report) ↔
      (∃ base head, pr.HasRevisions base head) ∧
        (∀ text, ⟨.readTextFile triage.manifestPath, .ok text⟩ ∈ history →
          ∃ manifest, Manifest.parse text = .ok manifest) ∧
        ∀ exchange ∈ history, exchange.Succeeds := by
  cases h with
  | noRevisions missing => simp [missing]
  | notCompared known cause => simp
  | notRead known files cause => simp
  | @malformed base head known files text cause rejected =>
    constructor
    · nofun
    · rintro ⟨-, hparses, -⟩
      obtain ⟨manifest, hparse⟩ := hparses text (List.mem_cons_of_mem _ List.mem_cons_self)
      rw [rejected] at hparse
      cases hparse
  | previewed prepared dry =>
    exact ⟨fun _ => ⟨prepared.revisions, fun _ => prepared.parses, prepared.succeeds⟩,
      fun _ => ⟨_, rfl⟩⟩
  | posted prepared real posting =>
    rw [posting.ok_iff]
    constructor
    · intro hpost
      refine ⟨prepared.revisions, fun text hread => ?_, fun exchange hmem => ?_⟩
      · exact prepared.parses
          ((List.mem_append.1 hread).resolve_right posting.not_mem_readTextFile)
      · exact (List.mem_append.1 hmem).elim (prepared.succeeds exchange) (hpost exchange)
    · rintro ⟨-, -, hall⟩ exchange hmem
      exact hall exchange (List.mem_append_right _ hmem)

/-- Writing is for a real run that is prepared. -/
lemma Outcome.posting_of_mem (h : Outcome triage pr history result) {exchange : Exchange}
    (hmem : exchange ∈ history)
    (hwrites : exchange.call.method = .createComment ∨ exchange.call.method = .addLabels) :
    triage.dryRun = false ∧ ∃ readings postings report, history = readings ++ postings ∧
      Prepared triage pr readings report ∧ Posting report postings result ∧
      exchange ∈ postings := by
  cases h with
  | noRevisions missing => cases hmem
  | notCompared known cause =>
    cases List.mem_singleton.1 hmem
    simp [ForgeCall.method] at hwrites
  | notRead known files cause =>
    rcases List.mem_pair.1 hmem with rfl | rfl <;> simp [ForgeCall.method] at hwrites
  | malformed known files rejected =>
    rcases List.mem_pair.1 hmem with rfl | rfl <;> simp [ForgeCall.method] at hwrites
  | previewed prepared dry => exact absurd hmem (prepared.not_mem hwrites)
  | posted prepared real posting =>
    refine ⟨real, _, _, _, rfl, prepared, posting, ?_⟩
    exact (List.mem_append.1 hmem).resolve_left (prepared.not_mem hwrites)

/-- A real run that succeeds is prepared and posts its report. -/
lemma Outcome.posted_of_ok (h : Outcome triage pr history (.ok report))
    (real : triage.dryRun = false) : ∃ readings postings, history = readings ++ postings ∧
      Prepared triage pr readings report ∧ postings.map (·.call) = writings report := by
  cases h with
  | previewed prepared dry =>
    rw [real] at dry
    cases dry
  | posted prepared real posting =>
    obtain ⟨rfl, hcalls⟩ := posting.of_ok
    exact ⟨_, _, rfl, prepared, hcalls⟩

/-- On every forge, whatever it replies, triage has one of its courses and makes its calls in
order. -/
theorem run_orderly (triage : Triage) (pr : PullRequestContext) {σ : Type}
    (perform : (c : ForgeCall) → StateM σ c.Reply) (state : σ) :
    triage.Orderly pr ((triage.run pr).history perform state)
      ((triage.run pr).run perform state).1 := by
  have course := course_history perform (triage.run pr) state
  have outcome := outcome_of_course course
  refine ⟨outcome, outcome.silent, fun base head => outcome.calls_in_order, outcome.once,
    fun number comment reply hmem => ?_, fun number labels reply hmem => ?_,
    fun before c cause after => (asks_run triage pr).fails_last course, outcome.ok_iff⟩
  · obtain ⟨real, readings, postings, report, hhistory, prepared, posting, hposted⟩ :=
      outcome.posting_of_mem hmem (.inl rfl)
    obtain ⟨files, manifest, hreads, rfl⟩ := prepared.reads
    exact ⟨real, files, manifest, hhistory ▸ hreads.append postings, posting.comment_eq hposted⟩
  · obtain ⟨real, readings, postings, report, hhistory, prepared, posting, hposted⟩ :=
      outcome.posting_of_mem hmem (.inr rfl)
    obtain ⟨files, manifest, hreads, rfl⟩ := prepared.reads
    obtain ⟨hlabels, hcomment⟩ := posting.labels_eq hposted
    exact ⟨real, files, manifest, _, hhistory ▸ hreads.append postings,
      hhistory ▸ List.mem_append_right readings hcomment, hlabels,
      LabelClassifier.classify_eq_some hlabels⟩

/-- A forge that has a comparison and a manifest.  It takes comments, and to labels it has this
reply. -/
def labellingForge (labelling : Except ForgeError Unit) (call : ForgeCall) :
    StateM Unit call.Reply :=
  match call with
  | .compare .. => pure (.ok [⟨"lib/fs.js"⟩])
  | .readTextFile _ => pure (.ok "/lib/** @fs\n")
  | .createComment .. => pure (.ok ())
  | .addLabels .. => pure labelling
  | .getPullRequest _ => pure (.error (.notFound "Not Found"))

/-- Triage, by a classifier with one subsystem, of a pull request whose description names it. -/
def labellingRun : Flow :=
  run { classifier := .ofTables [] [] ["fs"] }
    ⟨42, some "fs: close the file", none, some "aaa", some "bbb"⟩

/-- The run makes all four calls.  It succeeds if the last of them does, and fails with it. -/
theorem run_orderly_labellingForge :
    ((labellingRun.history (labellingForge (.ok ())) ()).map (·.call) =
        [.compare "aaa" "bbb", .readTextFile ".github/CODEOWNERS",
          .createComment 42 (Comment.render ["@fs"]), .addLabels 42 ["fs"]] ∧
      (labellingRun.run (labellingForge (.ok ())) ()).1 =
        .ok ⟨42, ["lib/fs.js"], ["@fs"], Comment.render ["@fs"], some ["fs"], true⟩) ∧
      ((labellingRun.history (labellingForge (.error .rateLimited)) ()).map (·.call) =
        [.compare "aaa" "bbb", .readTextFile ".github/CODEOWNERS",
          .createComment 42 (Comment.render ["@fs"]), .addLabels 42 ["fs"]] ∧
      (labellingRun.run (labellingForge (.error .rateLimited)) ()).1 =
        .error (.forge .rateLimited)) ∧
      ∀ labelling, Orderly { classifier := .ofTables [] [] ["fs"] }
        ⟨42, some "fs: close the file", none, some "aaa", some "bbb"⟩
        (labellingRun.history (labellingForge labelling) ())
        (labellingRun.run (labellingForge labelling) ()).1 := by
  refine ⟨by decide +kernel, by decide +kernel, fun labelling => ?_⟩
  exact run_orderly _ _ (labellingForge labelling) ()

end Triage

end PullTriage
