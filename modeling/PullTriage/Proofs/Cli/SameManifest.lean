import PullTriage.Proofs.Cli.Preview
import PullTriage.Proofs.Comment
import PullTriage.Proofs.Triage.OverTree

/-!
# One manifest for the command and for triage

The command that shows owners reads the manifest of the working directory, and triage reads it from
the forge; the place is written once, in the configuration.  If the forge has what is checked out,
both read the same file, and what the command lists in the end are the owners that the comment of
triage mentions (`owners_agrees_with_triage`).

This is for portable paths.  A path with a slash in front is not one of them: triage drops the slash
and reads from the repository, while the command follows the path from the root of the system
(`owners_leaves_directory`).
-/

namespace PullTriage.Cli

open FileTree
open ForgeProgram (course_history exists_reply_eq_of_mem_history)

variable {host : Host Id} {directory : Option String} {loaded : LoadedConfig} {tree : FileTree}
  {top : List String} {site : Url} {api : List (List Char)} {forge : GitHubForge}
  {server : Http.Server} {root text : String}

lemma runOwners_of_loaded
    (accepted : (Config.loadDefault host.files host.environment root).run = .ok loaded)
    (h : (host.files.readText (joinPath root loaded.config.manifestPath)).run = .ok text)
    (verbosity : Verbosity) (paths : List String) :
    (runOwners host root verbosity none paths).run =
      match Manifest.parse text with
      | .ok rules => ⟨warningMessages loaded ++ ownersMessages verbosity rules paths, none⟩
      | .error cause =>
        ⟨warningMessages loaded,
          some ["Invalid manifest '" ++ joinPath root loaded.config.manifestPath ++ "'",
            cause.message]⟩ := by
  have load : Config.loadDefault host.files host.environment root = .ok loaded := accepted
  have read : readManifest host (joinPath root loaded.config.manifestPath) = _ :=
    readManifest_of_text h
  dsimp only [runOwners, runOwnersAt, loadConfig, bind, pure, Id.run]
  rw [load]
  dsimp only
  rw [read]
  cases Manifest.parse text <;> rfl

/-- The owners that a comment of triage mentions are those of the report. -/
lemma ownersOf_comment {triage : Triage} {pr : PullRequestContext} {rules : Manifest}
    (parsed : Manifest.parse text = .ok rules) (paths : List String) :
    Comment.ownersOf (triage.report pr rules paths).comment = rules.uniqueOwners paths :=
  Comment.ownersOf_render fun _ howner =>
    (Manifest.isField_of_mem_uniqueOwners parsed howner).lineFeed_not_mem

/-- The directory that the commands work in. -/
def rootOf (host : Host Id) (directory : Option String) : String :=
  directory.getD host.workingDirectory

/-- The place where the command for owners looks for the manifest. -/
def manifestPlace (host : Host Id) (directory : Option String) (loaded : LoadedConfig) : String :=
  joinPath (rootOf host directory) loaded.config.manifestPath

/-- Where the command for owners finds the manifest, and what triage asks the forge for. -/
structure ManifestPlaces (host : Host Id) (directory : Option String) (loaded : LoadedConfig)
    (tree : FileTree) (top : List String) (site : Url) (api : List (List Char))
    (forge : GitHubForge) : Prop where
  /-- Triage asks for the file at the names of the path in the repository, whether there are slashes
  in front or not. -/
  request : ∃ request, forge.request (.readTextFile loaded.config.manifestPath) = .ok request ∧
    request.AsksForFile site api forge.slug (pathNames (relativePath loaded.config.manifestPath))
  /-- By a relative path the command finds the file at these names in the working directory. -/
  inside : Text.startsWith loaded.config.manifestPath "/" = false → ∀ content,
    tree.look (manifestPlace host directory loaded) = .ok (.file content) ↔
      tree.entryAt? (top ++ pathNames (relativePath loaded.config.manifestPath)) =
        some (.file content)
  /-- With a slash in front it finds the file at these names from the root on, wherever it works. -/
  outside : Text.startsWith loaded.config.manifestPath "/" = true → ∀ content,
    tree.look (manifestPlace host directory loaded) = .ok (.file content) ↔
      tree.entryAt? (pathNames (relativePath loaded.config.manifestPath)) = some (.file content)

/-- The command for owners goes by the manifest that triage reads from a server. -/
structure SharesManifest (host : Host Id) (directory : Option String) (loaded : LoadedConfig)
    (forge : GitHubForge) (server : Http.Server) : Prop where
  /-- Both read the same text, if any. -/
  text_iff : ∀ sent (text : String),
    (forge.perform server.send (.readTextFile loaded.config.manifestPath) sent).1 = .ok text ↔
      (host.files.readText (manifestPlace host directory loaded)).run = .ok text
  /-- On the paths of a report the command lists, in the end, the owners of the comment. -/
  owners : ∀ (triage : Triage) (pr : PullRequestContext) sent report,
    triage.manifestPath = loaded.config.manifestPath →
    ((triage.run pr).run (forge.perform server.send) sent).1 = .ok report → ∀ verbosity,
    ∃ lines, (runOwners host (rootOf host directory) verbosity none report.paths).run =
      ⟨lines ++ ownerListMessages verbosity (Comment.ownersOf report.comment), none⟩
  /-- Quietly it prints them one on a line, and nothing else. -/
  quiet : ∀ (triage : Triage) (pr : PullRequestContext) sent report,
    triage.manifestPath = loaded.config.manifestPath →
    ((triage.run pr).run (forge.perform server.send) sent).1 = .ok report → ∀ debug,
    (Invocation.answer host ⟨directory, debug, true, .owners none report.paths⟩).run.standardText =
      onLines (Comment.ownersOf report.comment)
  /-- A manifest that triage refuses is refused by the command, for the same cause. -/
  refused : ∀ (triage : Triage) (pr : PullRequestContext) sent path cause,
    triage.manifestPath = loaded.config.manifestPath →
    ((triage.run pr).run (forge.perform server.send) sent).1 = .error (.manifest path cause) →
    ∀ verbosity paths,
    (runOwners host (rootOf host directory) verbosity none paths).run.causes =
      some ["Invalid manifest '" ++ manifestPlace host directory loaded ++ "'", cause.message]

/-- What both read is enough for the rest. -/
lemma SharesManifest.of_text_iff
    (accepted : (Config.loadDefault host.files host.environment (rootOf host directory)).run =
      .ok loaded)
    (text_iff : ∀ sent (text : String),
      (forge.perform server.send (.readTextFile loaded.config.manifestPath) sent).1 = .ok text ↔
        (host.files.readText (manifestPlace host directory loaded)).run = .ok text) :
    SharesManifest host directory loaded forge server := by
  have reads {triage : Triage} {pr : PullRequestContext} {sent : List Http.Request}
      {text : String} (hplace : triage.manifestPath = loaded.config.manifestPath)
      (hmem : ⟨.readTextFile triage.manifestPath, .ok text⟩ ∈
        (triage.run pr).history (forge.perform server.send) sent) :
      (host.files.readText (manifestPlace host directory loaded)).run = .ok text := by
    obtain ⟨state, hreply⟩ := exists_reply_eq_of_mem_history hmem
    rw [hplace] at hreply
    exact (text_iff state text).1 hreply.symm
  have lists {triage : Triage} {pr : PullRequestContext} {sent : List Http.Request}
      {report : TriageReport} (hplace : triage.manifestPath = loaded.config.manifestPath)
      (hrun : ((triage.run pr).run (forge.perform server.send) sent).1 = .ok report) :
      ∃ rules : Manifest, Comment.ownersOf report.comment = rules.uniqueOwners report.paths ∧
        ∀ verbosity, (runOwners host (rootOf host directory) verbosity none report.paths).run =
          ⟨warningMessages loaded ++ ownersMessages verbosity rules report.paths, none⟩ := by
    have course := course_history (forge.perform server.send) (triage.run pr) sent
    rw [hrun] at course
    obtain ⟨readings, more, hhistory, prepared⟩ :=
      (Triage.outcome_of_course course).exists_prepared
    obtain ⟨files, rules, ⟨base, head, text, -, hread, parsed⟩, rfl⟩ := prepared.reads
    refine ⟨rules, ownersOf_comment parsed _, fun verbosity => ?_⟩
    rw [runOwners_of_loaded accepted
      (reads hplace (hhistory ▸ List.mem_append_left more hread)), parsed]
  refine ⟨text_iff, ?_, ?_, ?_⟩
  · intro triage pr sent report hplace hrun verbosity
    obtain ⟨rules, howners, hlists⟩ := lists hplace hrun
    rw [hlists, howners]
    exact ⟨_, by rw [ownersMessages, ← List.append_assoc]⟩
  · intro triage pr sent report hplace hrun debug
    obtain ⟨rules, howners, hlists⟩ := lists hplace hrun
    have run : (Invocation.run host ⟨directory, debug, true, .owners none report.paths⟩).run = _ :=
      hlists .quiet
    rw [answer_eq, run, howners]
    exact (standardText_warnings_append loaded.warnings _ none .quiet).trans
      (standardText_owners rules report.paths)
  · intro triage pr sent path cause hplace hrun verbosity paths
    have course := course_history (forge.perform server.send) (triage.run pr) sent
    rw [hrun] at course
    obtain ⟨text, hread, rejected⟩ := (Triage.outcome_of_course course).exists_rejected
    rw [runOwners_of_loaded accepted (reads hplace hread), rejected]
    rfl

/-- If the server has what is checked out in the working directory, the command for owners and
triage go by the same manifest, as long as its path has no slash in front. -/
theorem owners_agrees_with_triage
    (accepted : (Config.loadDefault host.files host.environment (rootOf host directory)).run =
      .ok loaded)
    (hfiles : host.files = tree.files) (sound : tree.IsSound)
    (hroot : tree.walk (rootOf host directory) = .ok top)
    (portable : IsPortable (relativePath loaded.config.manifestPath))
    (taken : IsTaken (manifestPlace host directory loaded))
    (hserved : forge.IsServedAt site api)
    (serves : server.Serves site api forge.slug tree top) :
    ManifestPlaces host directory loaded tree top site api forge ∧
      (Text.startsWith loaded.config.manifestPath "/" = false →
        SharesManifest host directory loaded forge server) := by
  refine ⟨⟨GitHubForge.exists_asksForFile hserved portable, fun hslash content => ?_,
    fun hslash content => ?_⟩, fun hslash => ?_⟩
  · have hnames := portable.names
    rw [relativePath_eq_self hslash] at hnames ⊢
    exact look_joinPath_eq_file_iff sound hroot hslash hnames taken
  · exact look_joinPath_eq_file_iff_of_slash sound hslash portable.names taken
  · refine .of_text_iff accepted fun sent (text : String) => ?_
    have hnames := portable.names
    rw [relativePath_eq_self hslash] at hnames
    rw [hfiles, GitHubForge.perform_readTextFile_eq_ok_iff hserved serves portable,
      relativePath_eq_self hslash]
    exact (readText_joinPath_eq_ok_iff sound hroot hslash hnames taken).symm

/-! ### Two checkouts -/

/-- A directory with settings and a manifest, on a machine that works there. -/
def checkout (settings : String) (place : List String) (manifest : String) : FileTree where
  workingDirectory := ["work"]
  entries := [(["work", ".prsieve.toml"], .file settings.toUTF8),
    ("work" :: place, .file manifest.toUTF8)]

/-- A checkout with the manifest where the settings say. -/
def nestedCheckout : FileTree :=
  checkout "codeowners_path = \"docs/OWNERS\"\n" ["docs", "OWNERS"] "/lib/** @lib\n"

/-- A checkout whose settings write a slash in front of the place of the manifest. -/
def slashedCheckout : FileTree :=
  checkout "codeowners_path = \"/CODEOWNERS\"\n" ["CODEOWNERS"] "/lib/** @lib\n"

/-- A machine with these files. -/
def checkoutHost (tree : FileTree) : Host Id where
  files := tree.files
  environment _ := none
  workingDirectory := "/work"
  client := .plain
  transport _ := .error "there is no network"

/-- A server that has the checkout, and one changed file. -/
def checkoutServer (tree : FileTree) : Http.Server :=
  .ofTree tree ["work"] 3
    (.ofMembers [("files", .array [.ofMembers [("filename", .text "lib/fs.js")]])])

/-- What is loaded when the settings say nothing but the place of the manifest. -/
def loadedWith (manifestPath : String) : LoadedConfig where
  config := {
    repo := some ⟨none, some manifestPath, none⟩
    repoPath := some "/work/.prsieve.toml" }
  warnings := []

/-- A dry run with a manifest at this place, on a pull request with two revisions. -/
def checkoutRun (manifestPath : String) : Triage.Flow :=
  Triage.run ⟨.ofTables [] [] [], manifestPath, true⟩ ⟨42, none, none, some "aaa", some "bbb"⟩

/-- The report that this ends with. -/
def checkoutReport : TriageReport :=
  ⟨42, ["lib/fs.js"], ["@lib"], Comment.render ["@lib"], none, false⟩

lemma serves_checkoutServer (tree : FileTree) :
    (checkoutServer tree).Serves GitHubForge.exampleSite [] GitHubForge.exampleForge.slug tree
      ["work"] :=
  Http.Server.serves_ofTree tree ["work"] _ [] _ _

/-- The command prints the owner that triage mentions, by a manifest in a directory below. -/
theorem owners_agrees_with_triage_nestedCheckout :
    ((checkoutRun "docs/OWNERS").run
        (GitHubForge.exampleForge.perform (checkoutServer nestedCheckout).send) []).1 =
        .ok checkoutReport ∧
      ManifestPlaces (checkoutHost nestedCheckout) none (loadedWith "docs/OWNERS") nestedCheckout
        ["work"] GitHubForge.exampleSite [] GitHubForge.exampleForge ∧
      SharesManifest (checkoutHost nestedCheckout) none (loadedWith "docs/OWNERS")
        GitHubForge.exampleForge (checkoutServer nestedCheckout) ∧
      (Invocation.answer (checkoutHost nestedCheckout)
        ⟨none, false, true, .owners none ["lib/fs.js"]⟩).run.standardText = "@lib\n" := by
  have accepted : (Config.loadDefault (checkoutHost nestedCheckout).files
      (checkoutHost nestedCheckout).environment (rootOf (checkoutHost nestedCheckout) none)).run =
      .ok (loadedWith "docs/OWNERS") := by
    decide +kernel
  have sound : nestedCheckout.IsSound := ⟨by decide, by decide, by decide +kernel⟩
  have walked : nestedCheckout.walk (rootOf (checkoutHost nestedCheckout) none) = .ok ["work"] := by
    decide +kernel
  have portable : IsPortable (relativePath "docs/OWNERS") := by decide +kernel
  have taken : IsTaken (manifestPlace (checkoutHost nestedCheckout) none
      (loadedWith "docs/OWNERS")) := by
    decide +kernel
  have triaged : ((checkoutRun "docs/OWNERS").run
      (GitHubForge.exampleForge.perform (checkoutServer nestedCheckout).send) []).1 =
      .ok checkoutReport := by
    decide +kernel
  obtain ⟨places, shares⟩ := owners_agrees_with_triage accepted rfl sound walked portable taken
    GitHubForge.isServedAt_exampleForge (serves_checkoutServer nestedCheckout)
  have shares := shares (by decide)
  have answer := shares.quiet _ _ [] checkoutReport rfl triaged false
  have owners : onLines (Comment.ownersOf checkoutReport.comment) = "@lib\n" := by decide +kernel
  exact ⟨triaged, places, shares, answer.trans owners⟩

/-- With a slash in front of its path triage reads the manifest of the checkout, and the command
does not find it. -/
theorem owners_leaves_directory :
    (Config.loadDefault (checkoutHost slashedCheckout).files
        (checkoutHost slashedCheckout).environment "/work").run = .ok (loadedWith "/CODEOWNERS") ∧
      (checkoutServer slashedCheckout).Serves GitHubForge.exampleSite []
        GitHubForge.exampleForge.slug slashedCheckout ["work"] ∧
      ((checkoutRun "/CODEOWNERS").run
        (GitHubForge.exampleForge.perform (checkoutServer slashedCheckout).send) []).1 =
        .ok checkoutReport ∧
      (runOwners (checkoutHost slashedCheckout) "/work" .normal none ["lib/fs.js"]).run =
        ⟨[], some ["Failed to read manifest '/CODEOWNERS'",
          "No such file or directory (os error 2)"]⟩ :=
  ⟨by decide +kernel, serves_checkoutServer slashedCheckout, by decide +kernel, by decide +kernel⟩

end PullTriage.Cli
