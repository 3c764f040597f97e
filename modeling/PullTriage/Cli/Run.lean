import PullTriage.Cli.Completion
import PullTriage.Cli.Report
import PullTriage.Config.Load
import PullTriage.Event
import PullTriage.Forge.GitHub

/-!
# Running a command

A command sees the machine through a `Host`: its files, its environment, the working directory, and
the network.  It has no other effects.  What it prints comes back as its outcome.

The configuration is that of the working directory, which an option can replace.  Paths of manifests
are relative to that directory, and the path of an event payload is not.
-/

namespace PullTriage.Cli

/-- What a command sees of the machine. -/
structure Host (m : Type → Type) where
  files : Files m
  environment : String → Option String
  workingDirectory : String
  /-- What speaks HTTP. -/
  client : Http.Client
  /-- What a request over the network gives: a response, or what is said of the connection. -/
  transport : Http.Request → m (Except String Http.Response)

/-! ## Errors with their causes -/

/-- The error and its causes. -/
def configCauses (e : ConfigError) : List String :=
  e.message :: match e with
    | .unreadable _ cause => [cause.message]
    | .value (.invalidRule _ _ cause) => [cause.message]
    | _ => []

/-- The error and its causes. -/
def triageCauses (e : TriageError) : List String :=
  e.message :: match e with
    | .manifest _ cause => [cause.message]
    | _ => []

/-! ## The parts of commands -/

variable {m : Type → Type} [Monad m]

/-- Performs a call to a forge over the network. -/
def Host.perform (host : Host m) (forge : GitHubForge) (call : ForgeCall) : m call.Reply :=
  forge.perform (forge.client.send host.transport) call

/-- The verbosity of an invocation. -/
def Invocation.verbosity (invocation : Invocation) : Verbosity :=
  .ofFlags invocation.quiet invocation.debug

/-- The directory that an invocation works in. -/
def Invocation.root (host : Host m) (invocation : Invocation) : String :=
  invocation.directory.getD host.workingDirectory

/-- Loads the configuration of a directory. -/
def loadConfig (host : Host m) (root : String) : m (Except (List String) LoadedConfig) := do
  match ← Config.loadDefault host.files host.environment root with
  | .ok loaded => return .ok loaded
  | .error e => return .error ("Failed to load config" :: configCauses e)

/-- The warnings of a configuration as messages. -/
def warningMessages (loaded : LoadedConfig) : List Message :=
  loaded.warnings.map fun warning => .warning warning.message

/-- Reads a manifest. -/
def readManifest (host : Host m) (path : String) : m (Except (List String) Manifest) := do
  match ← host.files.readText path with
  | .error e => return .error ["Failed to read manifest '" ++ path ++ "'", e.message]
  | .ok text =>
    match Manifest.parse text with
    | .ok manifest => return .ok manifest
    | .error e => return .error ["Invalid manifest '" ++ path ++ "'", e.message]

/-- Shows the owners of paths by the manifest at a place. -/
def runOwnersAt (host : Host m) (verbosity : Verbosity) (before : List Message) (place : String)
    (paths : List String) : m Outcome := do
  match ← readManifest host place with
  | .error causes => return ⟨before, some causes⟩
  | .ok manifest => return ⟨before ++ ownersMessages verbosity manifest paths, none⟩

/-! ## The commands -/

/-- Shows the owners of paths.  A manifest that is named makes the configuration unnecessary. -/
def runOwners (host : Host m) (root : String) (verbosity : Verbosity) (manifest : Option String)
    (paths : List String) : m Outcome := do
  match manifest with
  | some path => runOwnersAt host verbosity [] (joinPath root path) paths
  | none =>
    match ← loadConfig host root with
    | .error causes => return ⟨[], some causes⟩
    | .ok loaded =>
      runOwnersAt host verbosity (warningMessages loaded)
        (joinPath root loaded.config.manifestPath) paths

/-- Shows the labels for paths. -/
def runLabels (host : Host m) (root : String) (body base : Option String) (paths : List String) :
    m Outcome := do
  match ← loadConfig host root with
  | .error causes => return ⟨[], some causes⟩
  | .ok loaded =>
    let warnings := warningMessages loaded
    match loaded.config.classifier with
    | .error e => return ⟨warnings, some ("Failed to build label rules" :: configCauses (.value e))⟩
    | .ok classifier => return ⟨warnings ++ labelsMessages (classifier.classify paths body base), none⟩

/-- Checks a manifest. -/
def runCheck (host : Host m) (directory : Option String) (manifest : String) : m Outcome := do
  let path := match directory with
    | some directory => joinPath directory manifest
    | none => manifest
  match ← readManifest host path with
  | .error causes => return ⟨[], some causes⟩
  | .ok manifest => return ⟨checkMessages path manifest, none⟩

/-! ## Triage -/

namespace TriageOptions

/-- The variables of the environment for the token, in order. -/
def tokenVariables : List String :=
  ["INPUT_TOKEN", "GITHUB_TOKEN"]

/-- The first token that is not blank. -/
def token? (options : TriageOptions) (environment : String → Option String) : Option String :=
  (options.token.toList ++ tokenVariables.filterMap environment).find? fun token =>
    !(Text.trim token.toList).isEmpty

/-- The repository, by the options or by the configuration. -/
def slug (options : TriageOptions) (config : Config) : Except (List String) RepoSlug :=
  match options.repo with
  | some repo => (RepoSlug.parseOrRemote repo).mapError fun e => [e.message]
  | none =>
    match config.repoSlug? with
    | some slug => .ok slug
    | none => .error ["No repository: pass --repo or set GITHUB_REPOSITORY"]

/-- The forge and the classifier that triage works with. -/
def prepare (options : TriageOptions) (client : Http.Client)
    (environment : String → Option String) (config : Config) :
    Except (List String) (GitHubForge × LabelClassifier) := do
  let slug ← options.slug config
  match options.token? environment with
  | none => throw ["No API token: pass --token or set INPUT_TOKEN or GITHUB_TOKEN"]
  | some token =>
    let classifier ← config.classifier.mapError fun e =>
      "Failed to build label rules" :: configCauses (.value e)
    return (.withApiBase client token slug config.apiBase, classifier)

/-- Fetches a pull request. -/
def fetch (host : Host m) (forge : GitHubForge) (number : Nat) :
    m (Except (List String) PullRequestContext) := do
  let reply : Except ForgeError PullRequest ← host.perform forge (.getPullRequest number)
  match reply with
  | .ok pr => return .ok pr.context
  | .error e => return .error ["Failed to fetch PR #" ++ toString number, e.message]

/-- Reads a pull request from the event payload at a path. -/
def readEvent (host : Host m) (path : String) : m (Except (List String) PullRequestContext) := do
  match ← host.files.readText path with
  | .error e =>
    return .error ["failed to read event payload '" ++ path ++ "': " ++ e.message, e.message]
  | .ok text =>
    match PullRequestEvent.parse text with
    | .ok event => return .ok event.context
    | .error e => return .error [e.message]

/-- The pull request: by its number if there is one, or else by an event payload. -/
def pullRequest (host : Host m) (options : TriageOptions) (forge : GitHubForge) :
    m (Except (List String) PullRequestContext) :=
  match options.number, options.event with
  | some number, _ => fetch host forge number
  | none, some path => readEvent host path
  | none, none =>
    return .error ["No pull request: pass --pr or --event, or set GITHUB_EVENT_PATH"]

end TriageOptions

/-- Comments on a pull request and labels it, as the configuration says. -/
def runTriageBy (host : Host m) (options : TriageOptions) (loaded : LoadedConfig) :
    m Outcome := do
  let warnings := warningMessages loaded
  match options.prepare host.client host.environment loaded.config with
  | .error causes => return ⟨warnings, some causes⟩
  | .ok (forge, classifier) =>
    match ← options.pullRequest host forge with
    | .error causes => return ⟨warnings, some causes⟩
    | .ok pr =>
      let triage : Triage := {
        classifier := classifier
        manifestPath := loaded.config.manifestPath
        dryRun := options.dryRun }
      match ← (triage.run pr).run (host.perform forge) with
      | .ok report => return ⟨warnings ++ triageMessages report, none⟩
      | .error e =>
        return ⟨warnings,
          some (("Failed to triage PR #" ++ toString pr.number) :: triageCauses e)⟩

/-- Comments on a pull request and labels it. -/
def runTriage (host : Host m) (root : String) (options : TriageOptions) : m Outcome := do
  match ← loadConfig host root with
  | .error causes => return ⟨[], some causes⟩
  | .ok loaded => runTriageBy host options loaded

/-- Runs the command of an invocation. -/
def Invocation.run (host : Host m) (invocation : Invocation) : m Outcome :=
  let root := invocation.root host
  match invocation.command with
  | .owners manifest paths => runOwners host root invocation.verbosity manifest paths
  | .labels body base paths => runLabels host root body base paths
  | .check manifest => runCheck host invocation.directory manifest
  | .triage options => runTriage host root options
  | .completion shell => return ⟨[.result (completionScript shell)], none⟩

end PullTriage.Cli
