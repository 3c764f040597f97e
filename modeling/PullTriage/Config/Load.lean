import PullTriage.Config.Basic
import PullTriage.Files.Basic
import PullTriage.Toml.Reader

/-!
# Loading the configuration

The settings of a user come from a file that the caller names, and those of a repository from the
first of `repoCandidates` below its root that there is.  All files are read before any value is
checked.  A file that is not there counts as empty; one that cannot be read is an error.
-/

namespace PullTriage

/-- The ways in which loading a configuration fails. -/
inductive ConfigError where
  | unreadable (path : String) (cause : FileError)
  /-- The file is not TOML, or not of the right form. -/
  | malformed (path : String)
  | value (cause : ValueError)
deriving Repr, DecidableEq

/-- The text of an error. -/
def ConfigError.message : ConfigError → String
  | unreadable path cause =>
    "failed to read config file '" ++ path ++ "': " ++ cause.message
  | malformed path => "failed to parse config file '" ++ path ++ "': not a configuration"
  | value cause => cause.message

/-- Something odd that was found while loading. -/
structure ConfigWarning where
  message : String
  path : String
deriving Repr, DecidableEq

/-- A configuration, and what was odd about it. -/
structure LoadedConfig where
  config : Config
  warnings : List ConfigWarning
deriving Repr, DecidableEq

/-- The warning that a file is left out because of another one. -/
def ConfigWarning.shadowed (path taken : String) : ConfigWarning :=
  ⟨"Ignoring '" ++ path ++ "', '" ++ taken ++ "' takes precedence", path⟩

namespace Config

variable {m : Type → Type} [Monad m]

/-- The places of the settings of a repository, below its root. -/
def repoCandidates : List String :=
  [".github/prsieve.toml", ".prsieve.toml"]

/-- The settings that a text in TOML writes. -/
def decode? {α : Type} (ofJson? : Json → Option α) (text : String) : Option α :=
  (Toml.ofText? text).bind fun v => ofJson? v.toJson

/-- Reads settings from a file. -/
def readSettings {α : Type} (files : Files m) (ofJson? : Json → Option α) (path : String) :
    m (Except ConfigError α) := do
  match ← files.readText path with
  | .error cause => return .error (.unreadable path cause)
  | .ok text =>
    match decode? ofJson? text with
    | some settings => return .ok settings
    | none => return .error (.malformed path)

/-- Reads settings from a file, if one is given. -/
def readSettings? {α : Type} (files : Files m) (ofJson? : Json → Option α) :
    Option String → m (Except ConfigError (Option α))
  | none => return .ok none
  | some path => return (← readSettings files ofJson? path).map some

/-- Checks the settings of both scopes, those of the user first. -/
def validate (config : Config) : Except ValueError Unit := do
  config.global.validate
  config.repo.forM RepoConfig.validate

/-- The configuration by settings that have been read, if they pass the check. -/
def ofSettings (globalPath repoPath : Option String) (global : Option GlobalConfig)
    (repo : Option RepoConfig) : Except ConfigError Config :=
  let config : Config := ⟨global.getD .empty, repo, globalPath, repoPath⟩
  match config.validate with
  | .ok () => .ok config
  | .error cause => .error (.value cause)

/-- The warnings about files that are left out. -/
def warningsOf : List String → List ConfigWarning
  | [] => []
  | taken :: rest => rest.map fun path => .shadowed path taken

/-- Loads the configuration by the files of a user and of a repository that are there. -/
def loadFiles (files : Files m) (globalPath : Option String) (repoPaths : List String) :
    m (Except ConfigError LoadedConfig) := do
  match ← readSettings? files (GlobalConfig.ofJson? false) globalPath with
  | .error e => return .error e
  | .ok global =>
    match ← readSettings? files (RepoConfig.ofJson? false) repoPaths.head? with
    | .error e => return .error e
    | .ok repo =>
      return (ofSettings globalPath repoPaths.head? global repo).map fun config =>
        ⟨config, warningsOf repoPaths⟩

/-- Loads the configuration from the file of a user and from the root of a repository. -/
def load (files : Files m) (globalPath root : Option String) :
    m (Except ConfigError LoadedConfig) := do
  let candidates := (root.map fun root => repoCandidates.map (joinPath root)).getD []
  let repoPaths ← candidates.filterM files.exists?
  loadFiles files globalPath repoPaths

/-- The places of the settings of a user, by the environment. -/
def globalCandidates (environment : String → Option String) : List String :=
  (environment "PRSIEVE_CONFIG").toList
    ++ ((environment "XDG_CONFIG_HOME").map (joinPath · "prsieve/config.toml")).toList
    ++ (((environment "HOME").filter (!·.isEmpty)).map (joinPath · ".prsieve/config.toml")).toList

/-- The first of some paths that there is. -/
def firstExisting? (files : Files m) : List String → m (Option String)
  | [] => return none
  | path :: rest => do if ← files.exists? path then return some path else firstExisting? files rest

/-- Loads the configuration from the usual places. -/
def loadDefault (files : Files m) (environment : String → Option String) (root : String) :
    m (Except ConfigError LoadedConfig) := do
  load files (← firstExisting? files (globalCandidates environment)) (some root)

end Config

end PullTriage
