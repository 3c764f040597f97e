import PullTriage.Cli.Program
import PullTriage.Proofs.Config.Loading
import PullTriage.Proofs.Triage.Calls

/-!
# The commands preview triage

The commands that look at owners, at labels and at a manifest go no further than the files, but they
go through the same manifest and the same classifier as triage.  So what they print is what triage
would report on a forge that has the same manifest and the same changed files
(`commands_preview`): the owners in the order of the report, and the labels or the message that
there are none.  A manifest that is refused by the one is refused by the other, for the same line.

What a forge has is said of the exchanges with it (`Triage.Saw`), so this holds of every course of
triage, also of one that fails when it posts.
-/

namespace PullTriage

namespace Triage

open ForgeProgram

variable {triage : Triage} {pr : PullRequestContext} {report : TriageReport} {paths : List String}
  {text : String} {history : List Exchange} {result : Except TriageError TriageReport}

/-! ## What triage has seen -/

/-- As far as triage compared and read, the forge had these paths and this manifest. -/
structure Saw (paths : List String) (text : String) (history : List Exchange) : Prop where
  compared : ∀ base head reply, ⟨.compare base head, reply⟩ ∈ history →
    ∃ files : List ChangedFile, reply = .ok files ∧ files.map (·.filename) = paths
  read : ∀ path reply, ⟨.readTextFile path, reply⟩ ∈ history → reply = .ok text

lemma Saw.of_append {more : List Exchange} (h : Saw paths text (history ++ more)) :
    Saw paths text history where
  compared base head reply hmem := h.compared base head reply (List.mem_append_left more hmem)
  read path reply hmem := h.read path reply (List.mem_append_left more hmem)

/-- The report is that on the paths and the manifest that triage has seen. -/
lemma Prepared.report_eq (h : Prepared triage pr history report) (saw : Saw paths text history) :
    ∃ manifest, Manifest.parse text = .ok manifest ∧ report = triage.report pr manifest paths := by
  obtain ⟨files, manifest, ⟨base, head, text', hcompare, hread, parsed⟩, rfl⟩ := h.reads
  obtain ⟨files', hfiles, rfl⟩ := saw.compared base head _ hcompare
  obtain rfl : files = files' := Except.ok.inj hfiles
  obtain rfl : text' = text := Except.ok.inj (saw.read _ _ hread)
  exact ⟨manifest, parsed, rfl⟩

/-- Before triage ends with a report it has come to it by what it read. -/
lemma Outcome.exists_prepared (h : Outcome triage pr history (.ok report)) :
    ∃ readings more, history = readings ++ more ∧ Prepared triage pr readings report := by
  cases h with
  | previewed prepared dry => exact ⟨history, [], (List.append_nil history).symm, prepared⟩
  | posted prepared real posting =>
    obtain ⟨rfl, -⟩ := posting.of_ok
    exact ⟨_, _, rfl, prepared⟩

lemma Outcome.report_eq (h : Outcome triage pr history (.ok report))
    (saw : Saw paths text history) :
    ∃ manifest, Manifest.parse text = .ok manifest ∧ report = triage.report pr manifest paths := by
  obtain ⟨readings, more, rfl, prepared⟩ := h.exists_prepared
  exact prepared.report_eq saw.of_append

/-- With both revisions known, triage refuses the manifest exactly if it is malformed. -/
lemma Outcome.refuses_iff (h : Outcome triage pr history result) (saw : Saw paths text history)
    {base head : String} (known : pr.HasRevisions base head) (path : String)
    (cause : ManifestError) : result = .error (.manifest path cause) ↔
      path = triage.manifestPath ∧ Manifest.parse text = .error cause := by
  cases h with
  | noRevisions missing => exact absurd known (missing base head)
  | notCompared known' failure =>
    obtain ⟨files, hfiles, -⟩ := saw.compared _ _ _ List.mem_cons_self
    cases hfiles
  | notRead known' files failure =>
    cases saw.read _ _ (List.mem_cons_of_mem _ List.mem_cons_self)
  | malformed known' files rejected =>
    obtain rfl := Except.ok.inj (saw.read _ _ (List.mem_cons_of_mem _ List.mem_cons_self))
    rw [rejected, Except.error.injEq, Except.error.injEq, TriageError.manifest.injEq,
      @eq_comm _ path]
  | previewed prepared dry =>
    obtain ⟨manifest, parsed, -⟩ := prepared.report_eq saw
    rw [parsed]
    refine iff_of_false nofun ?_
    rintro ⟨-, ⟨⟩⟩
  | posted prepared real posting =>
    obtain ⟨manifest, parsed, -⟩ := prepared.report_eq saw.of_append
    rw [parsed]
    refine iff_of_false ?_ ?_
    · rintro rfl
      obtain ⟨before, call, failure, -, -, ⟨⟩⟩ := posting.of_error
    · rintro ⟨-, ⟨⟩⟩

lemma Outcome.revisions_of_refused {path : String} {cause : ManifestError}
    (h : Outcome triage pr history (.error (.manifest path cause))) :
    ∃ base head, pr.HasRevisions base head := by
  cases h with
  | malformed known files rejected => exact ⟨_, _, known⟩
  | posted prepared real posting => exact prepared.revisions

/-- A manifest that is refused has been read. -/
lemma Outcome.exists_rejected {path : String} {cause : ManifestError}
    (h : Outcome triage pr history (.error (.manifest path cause))) :
    ∃ text, ⟨.readTextFile triage.manifestPath, .ok text⟩ ∈ history ∧
      Manifest.parse text = .error cause := by
  cases h with
  | malformed known files rejected =>
    exact ⟨_, List.mem_cons_of_mem _ List.mem_cons_self, rejected⟩
  | posted prepared real posting =>
    obtain ⟨before, call, failure, -, -, ⟨⟩⟩ := posting.of_error

/-- A dry run goes as far as it can without writing, and ends with its report. -/
lemma Prepared.course (h : Prepared triage pr history report) (dry : triage.dryRun = true) :
    (triage.run pr).Course history (.ok report) := by
  obtain ⟨known, files, parsed⟩ := h
  rw [run, PullRequestContext.revisions?_eq_some_iff.2 known]
  refine course_ask_iff.2 (.inr ⟨files, _, rfl, course_ask_iff.2 (.inr ⟨_, [], rfl, ?_⟩)⟩)
  rw [parsed]
  simp only [dry, if_true]
  exact course_done_iff.2 ⟨rfl, rfl⟩

end Triage

namespace Cli

/-! ## What is printed -/

/-- The items, each on a line of its own. -/
def onLines (items : List String) : String :=
  String.join (items.map (· ++ "\n"))

lemma standardText_results (items : List String) (causes : Option (List String))
    (verbosity : Verbosity) :
    (Outcome.mk (items.map .result) causes).standardText verbosity = onLines items := by
  have shown : (items.map Message.result).filter (·.isShown verbosity) = items.map .result :=
    List.filter_eq_self.2 (by simp [Message.isShown])
  rw [Outcome.standardText, shown, List.map_map]
  rfl

/-- Warnings do not go to the standard output. -/
lemma standardText_warnings_append (warnings : List ConfigWarning) (messages : List Message)
    (causes : Option (List String)) (verbosity : Verbosity) :
    (Outcome.mk (warnings.map (fun warning => .warning warning.message) ++ messages)
        causes).standardText verbosity =
      (Outcome.mk messages causes).standardText verbosity := by
  induction warnings with
  | nil => rfl
  | cons warning warnings ih =>
    rw [Outcome.standardText] at ih ⊢
    rw [List.map_cons, List.cons_append, List.filter_cons]
    split
    · rw [List.map_cons, String.join_cons, ih, Message.standardText, String.empty_append]
    · exact ih

/-- Quietly there is only the list of all owners. -/
lemma ownersMessages_quiet (manifest : Manifest) (paths : List String) :
    (ownersMessages .quiet manifest paths).filter (·.isShown .quiet) =
      (manifest.uniqueOwners paths).map .result := by
  have silent : (paths.flatMap (pathMessages (Verbosity.quiet = .debug) manifest)).filter
      (·.isShown .quiet) = [] := by
    refine List.filter_eq_nil_iff.2 fun message hmessage => ?_
    obtain ⟨path, -, hmessage⟩ := List.mem_flatMap.1 hmessage
    have line : message = .info (ownersLine manifest path) := by
      simpa [pathMessages] using hmessage
    simp [line, Message.isShown]
  have results : ((manifest.uniqueOwners paths).map Message.result).filter (·.isShown .quiet) =
      (manifest.uniqueOwners paths).map .result :=
    List.filter_eq_self.2 (by simp [Message.isShown])
  rw [ownersMessages, List.filter_append, silent, List.nil_append, ownerListMessages, if_pos rfl,
    results]

/-! ## The commands -/

variable {host : Host Id} {text : String}

lemma readManifest_of_text {path : String} (h : (host.files.readText path).run = .ok text) :
    (readManifest host path).run =
      (Manifest.parse text).mapError fun cause =>
        ["Invalid manifest '" ++ path ++ "'", cause.message] := by
  have same : host.files.readText path = .ok text := h
  dsimp only [readManifest, bind, pure, Id.run]
  rw [same]
  dsimp only
  cases Manifest.parse text <;> rfl

/-- The place of the manifest that is to be checked. -/
def checkedPlace (directory : Option String) (manifest : String) : String :=
  match directory with
  | some directory => joinPath directory manifest
  | none => manifest

lemma runOwners_of_text {root manifest : String} (paths : List String) (verbosity : Verbosity)
    (h : (host.files.readText (joinPath root manifest)).run = .ok text) :
    (runOwners host root verbosity (some manifest) paths).run =
      match Manifest.parse text with
      | .ok rules => ⟨ownersMessages verbosity rules paths, none⟩
      | .error cause =>
        ⟨[], some ["Invalid manifest '" ++ joinPath root manifest ++ "'", cause.message]⟩ := by
  have read : readManifest host (joinPath root manifest) = _ := readManifest_of_text h
  dsimp only [runOwners, runOwnersAt, bind, pure, Id.run]
  rw [read]
  cases Manifest.parse text <;> rfl

lemma runCheck_of_text {directory : Option String} {manifest : String}
    (h : (host.files.readText (checkedPlace directory manifest)).run = .ok text) :
    (runCheck host directory manifest).run =
      match Manifest.parse text with
      | .ok rules => ⟨checkMessages (checkedPlace directory manifest) rules, none⟩
      | .error cause =>
        ⟨[], some ["Invalid manifest '" ++ checkedPlace directory manifest ++ "'",
          cause.message]⟩ := by
  have read : readManifest host (checkedPlace directory manifest) = _ := readManifest_of_text h
  have unfolded : (runCheck host directory manifest).run =
      match readManifest host (checkedPlace directory manifest) with
      | .error causes => ⟨[], some causes⟩
      | .ok rules => ⟨checkMessages (checkedPlace directory manifest) rules, none⟩ := rfl
  rw [unfolded, read]
  cases Manifest.parse text <;> rfl

lemma runLabels_of_loaded {root : String} {loaded : LoadedConfig} {classifier : LabelClassifier}
    (accepted : (Config.loadDefault host.files host.environment root).run = .ok loaded)
    (built : loaded.config.classifier = .ok classifier) (body base : Option String)
    (paths : List String) :
    (runLabels host root body base paths).run =
      ⟨warningMessages loaded ++ labelsMessages (classifier.classify paths body base), none⟩ := by
  have load : Config.loadDefault host.files host.environment root = .ok loaded := accepted
  dsimp only [runLabels, loadConfig, bind, pure, Id.run]
  rw [load]
  dsimp only
  rw [built]

/-- What the labels print: each is on a line of its own, and where there are none a message says so
that is left out if the output is to be quiet. -/
def labelsText (quiet : Bool) : Option (List String) → String
  | some labels => onLines labels
  | none => if quiet then "" else onLines ["no labels"]

/-- The labels of a pull request, if these paths are what it changes. -/
def labelsOf (directory : Option String) (debug quiet : Bool) (pr : PullRequestContext)
    (paths : List String) : Invocation :=
  ⟨directory, debug, quiet, .labels pr.body pr.baseRef paths⟩

/-- The commands for owners, labels and a manifest say what triage ends with. -/
structure Previews (host : Host Id) (directory : Option String) (manifest checked : String)
    (pr : PullRequestContext) (paths : List String) (result : Except TriageError TriageReport) :
    Prop where
  /-- Quietly, the owners of the report are printed one on a line, and nothing else. -/
  owners : ∀ report, result = .ok report → ∀ debug,
    (Invocation.answer host ⟨directory, debug, true, .owners (some manifest) paths⟩).run =
      ⟨onLines report.owners, "", 0⟩
  /-- The labels of the report are printed one on a line, or else that there are none. -/
  labels : ∀ report, result = .ok report → ∀ debug quiet,
    ((labelsOf directory debug quiet pr paths).answer host).run.standardText =
        labelsText quiet report.labels ∧
      ((labelsOf directory debug quiet pr paths).answer host).run.exitCode = 0
  /-- The message is given exactly if the report has no labels, whatever the labels are called. -/
  noLabels_iff : ∀ report, result = .ok report → ∀ debug quiet,
    .info "no labels" ∈ ((labelsOf directory debug quiet pr paths).run host).run.messages ↔
      report.labels = none
  /-- Quietly, nothing is printed exactly if the report has no labels. -/
  silent_iff : ∀ report, result = .ok report → ∀ debug,
    ((labelsOf directory debug true pr paths).answer host).run.standardText = "" ↔
      report.labels = none
  /-- With both revisions known, the check fails exactly if triage refuses the manifest. -/
  check_iff : ∀ base head, pr.HasRevisions base head → ∀ debug quiet,
    (Invocation.answer host ⟨directory, debug, quiet, .check checked⟩).run.exitCode = 1 ↔
      ∃ path cause, result = .error (.manifest path cause)
  /-- Both give the same cause. -/
  check_cause : ∀ path cause, result = .error (.manifest path cause) → ∀ debug quiet,
    (Invocation.run host ⟨directory, debug, quiet, .check checked⟩).run.causes =
      some ["Invalid manifest '" ++ checkedPlace directory checked ++ "'", cause.message]

lemma standardText_owners (rules : Manifest) (paths : List String) :
    (Outcome.mk (ownersMessages .quiet rules paths) none).standardText .quiet =
      onLines (rules.uniqueOwners paths) := by
  rw [Outcome.standardText, ownersMessages_quiet, List.map_map]
  rfl

lemma ofOutcome_owners (rules : Manifest) (paths : List String) :
    Answer.ofOutcome .quiet ⟨ownersMessages .quiet rules paths, none⟩ =
      ⟨onLines (rules.uniqueOwners paths), "", 0⟩ := by
  have error : (Outcome.mk (ownersMessages .quiet rules paths) none).errorText .quiet = "" := by
    rw [Outcome.errorText, ownersMessages_quiet, List.map_map]
    induction rules.uniqueOwners paths with
    | nil => rfl
    | cons owner owners ih => exact ih
  rw [Answer.ofOutcome, standardText_owners, error]
  rfl

lemma standardText_labels (warnings : List ConfigWarning) (labels : Option (List String))
    (quiet debug : Bool) :
    (Outcome.mk (warnings.map (fun warning => .warning warning.message) ++ labelsMessages labels)
        none).standardText (.ofFlags quiet debug) = labelsText quiet labels := by
  rw [standardText_warnings_append]
  cases labels with
  | some labels => exact standardText_results labels none _
  | none => cases quiet <;> cases debug <;> decide

lemma info_mem_labels_iff (warnings : List ConfigWarning) (labels : Option (List String)) :
    .info "no labels" ∈
        warnings.map (fun warning => .warning warning.message) ++ labelsMessages labels ↔
      labels = none := by
  cases labels <;> simp [labelsMessages]

lemma onLines_ne_empty {items : List String} (hne : items ≠ []) : onLines items ≠ "" := by
  obtain ⟨item, rest, rfl⟩ := List.exists_cons_of_ne_nil hne
  intro h
  have chars := congrArg String.toList h
  simp [onLines, String.join_cons] at chars

lemma labelsText_quiet_iff {labels : Option (List String)}
    (hne : ∀ names, labels = some names → names ≠ []) :
    labelsText true labels = "" ↔ labels = none := by
  cases labels with
  | some names => exact iff_of_false (onLines_ne_empty (hne names rfl)) nofun
  | none => exact iff_of_true rfl rfl

lemma answer_eq (invocation : Invocation) : (invocation.answer host).run =
    .ofOutcome invocation.verbosity (invocation.run host).run :=
  rfl

/-- What triage ends with can be seen before, if the files hold the manifest that the forge has. -/
theorem commands_preview {host : Host Id} {directory : Option String} {loaded : LoadedConfig}
    {manifest checked text : String}
    (accepted : (Config.loadDefault host.files host.environment
      (directory.getD host.workingDirectory)).run = .ok loaded)
    (holds : (host.files.readText
      (joinPath (directory.getD host.workingDirectory) manifest)).run = .ok text)
    (checkedHolds : (host.files.readText (checkedPlace directory checked)).run = .ok text) :
    ∃ classifier, loaded.config.classifier = .ok classifier ∧
      ∀ (triage : Triage) (pr : PullRequestContext) (paths : List String)
        (history : List Exchange) (result : Except TriageError TriageReport),
        triage.classifier = classifier → (triage.run pr).Course history result →
        Triage.Saw paths text history →
        Previews host directory manifest checked pr paths result := by
  obtain ⟨-, hvalid⟩ := Config.readFrom_of_load accepted
  obtain ⟨classifier, built, -⟩ := Config.exists_classifier_eq_ok hvalid
  refine ⟨classifier, built, ?_⟩
  rintro triage pr paths history result rfl course saw
  have outcome := Triage.outcome_of_course course
  have labelsRun (debug quiet : Bool) :
      ((labelsOf directory debug quiet pr paths).run host).run = _ :=
    runLabels_of_loaded accepted built pr.body pr.baseRef paths
  have checkRun (debug quiet : Bool) :
      (Invocation.run host ⟨directory, debug, quiet, .check checked⟩).run = _ :=
    runCheck_of_text checkedHolds
  refine ⟨?_, ?_, ?_, ?_, ?_, ?_⟩
  · rintro report rfl debug
    obtain ⟨rules, parsed, rfl⟩ := outcome.report_eq saw
    have run : (Invocation.run host ⟨directory, debug, true, .owners (some manifest) paths⟩).run =
        ⟨ownersMessages .quiet rules paths, none⟩ := by
      have read := runOwners_of_text paths .quiet holds
      rw [parsed] at read
      exact read
    rw [answer_eq, run]
    exact ofOutcome_owners rules paths
  · rintro report rfl debug quiet
    obtain ⟨rules, parsed, rfl⟩ := outcome.report_eq saw
    rw [answer_eq, labelsRun]
    exact ⟨standardText_labels loaded.warnings _ quiet debug, rfl⟩
  · rintro report rfl debug quiet
    obtain ⟨rules, parsed, rfl⟩ := outcome.report_eq saw
    rw [labelsRun]
    exact info_mem_labels_iff loaded.warnings _
  · rintro report rfl debug
    obtain ⟨rules, parsed, rfl⟩ := outcome.report_eq saw
    rw [answer_eq, labelsRun]
    refine (Eq.congr_left (standardText_labels loaded.warnings _ true debug)).trans ?_
    exact labelsText_quiet_iff fun names hnames => (LabelClassifier.classify_eq_some hnames).1
  · intro base head known debug quiet
    rw [answer_eq, checkRun]
    have refuses := outcome.refuses_iff saw known
    cases parsed : Manifest.parse text with
    | ok rules =>
      refine iff_of_false nofun ?_
      rintro ⟨path, cause, hresult⟩
      have malformed := ((refuses path cause).1 hresult).2
      rw [parsed] at malformed
      cases malformed
    | error cause =>
      exact iff_of_true rfl ⟨_, cause, (refuses _ cause).2 ⟨rfl, parsed⟩⟩
  · rintro path cause rfl debug quiet
    obtain ⟨base, head, known⟩ := outcome.revisions_of_refused
    have malformed := ((outcome.refuses_iff saw known path cause).1 rfl).2
    rw [checkRun, malformed]

/-- A machine with settings that leave the tables of rules empty, and with a manifest. -/
def previewHost : Host Id where
  files := {
    look path :=
      if path = "/srv/.prsieve.toml" then
        .ok (.file "[labels]\nexclusive = []\ninclusive = []\nsubsystems = [\"fs\"]\n".toUTF8)
      else if path = "/srv/OWNERS" then .ok (.file "/lib/** @lib\n".toUTF8)
      else .error .notFound }
  environment _ := none
  workingDirectory := "/srv"
  client := .plain
  transport _ := .error "there is no network"

/-- A dry run with these settings. -/
def previewTriage : Triage where
  classifier := (LabelClassifier.ofTables [] [] ["fs"]).withMaxLabels 5
  manifestPath := "OWNERS"
  dryRun := true

/-- A pull request that names a subsystem. -/
def previewPr : PullRequestContext :=
  ⟨42, some "fs: close the file", some "main", some "aaa", some "bbb"⟩

/-- A dry run on a forge with this manifest ends with an owner and a label, and the commands print
them. -/
theorem commands_preview_previewHost :
    ∃ report : TriageReport, report.owners = ["@lib"] ∧ report.labels = some ["fs"] ∧
      (previewTriage.run previewPr).Course
        [⟨.compare "aaa" "bbb", .ok [ChangedFile.mk "lib/fs.js"]⟩,
          ⟨.readTextFile "OWNERS", .ok "/lib/** @lib\n"⟩] (.ok report) ∧
      Previews previewHost none "OWNERS" "/srv/OWNERS" previewPr ["lib/fs.js"] (.ok report) ∧
      (Invocation.answer previewHost
        ⟨none, false, true, .owners (some "OWNERS") ["lib/fs.js"]⟩).run = ⟨"@lib\n", "", 0⟩ := by
  have accepted : (Config.loadDefault previewHost.files previewHost.environment "/srv").run = .ok
      { config := {
          repo := some ⟨none, none, some ⟨none, some ["fs"], some [], some []⟩⟩
          repoPath := some "/srv/.prsieve.toml" }
        warnings := [] } := by
    decide +kernel
  have manifest : (previewHost.files.readText "/srv/OWNERS").run = .ok "/lib/** @lib\n" := by
    decide +kernel
  have parsed : Manifest.parse "/lib/** @lib\n" =
      .ok ⟨[⟨PathPattern.compile "/lib/**", "@lib", 1⟩]⟩ := by
    decide +kernel
  have place : joinPath "/srv" "OWNERS" = "/srv/OWNERS" := by decide
  have known : previewPr.HasRevisions "aaa" "bbb" := ⟨rfl, rfl, by decide, by decide⟩
  have prepared : Triage.Prepared previewTriage previewPr _ _ :=
    .intro known [ChangedFile.mk "lib/fs.js"] parsed
  have saw : Triage.Saw ["lib/fs.js"] "/lib/** @lib\n"
      [⟨.compare "aaa" "bbb", .ok [ChangedFile.mk "lib/fs.js"]⟩,
        ⟨.readTextFile "OWNERS", .ok "/lib/** @lib\n"⟩] := by
    refine ⟨fun base head reply hmem => ?_, fun path reply hmem => ?_⟩
    · rcases List.mem_pair.1 hmem with heq | heq <;> cases heq
      exact ⟨_, rfl, rfl⟩
    · rcases List.mem_pair.1 hmem with heq | heq <;> cases heq
      rfl
  obtain ⟨classifier, built, previews⟩ := @commands_preview previewHost none _ "OWNERS"
    "/srv/OWNERS" _ accepted (place ▸ manifest) manifest
  obtain rfl : previewTriage.classifier = classifier := Except.ok.inj built
  have preview := previews previewTriage previewPr ["lib/fs.js"] _ _ rfl (prepared.course rfl) saw
  refine ⟨_, by decide +kernel, by decide +kernel, prepared.course rfl, preview, ?_⟩
  have answer := preview.owners _ rfl false
  have owners : onLines (Triage.report previewTriage previewPr
      ⟨[⟨PathPattern.compile "/lib/**", "@lib", 1⟩]⟩ ["lib/fs.js"]).owners = "@lib\n" := by
    decide +kernel
  rw [← owners]
  exact answer

end Cli

end PullTriage
