import PullTriage.Config.Schema
import PullTriage.Label.Builtin
import PullTriage.Triage

/-!
# The configuration

A configuration joins the settings of a user with those of a repository.  A setting of the repository
goes before one of the user, and what neither sets has a built-in value.
-/

namespace PullTriage

/-- The settings that apply, and the files that they come from. -/
structure Config where
  global : GlobalConfig := .empty
  repo : Option RepoConfig := none
  globalPath : Option String := none
  repoPath : Option String := none
deriving Repr, DecidableEq

/-- The classifier that the settings for labels make.  What they leave open is built in. -/
def LabelsConfig.classifier (config : LabelsConfig) : Except ValueError LabelClassifier := do
  let builtin := LabelClassifier.builtin
  let exclusive ← (config.exclusive.map (compileRules "exclusive")).getD (.ok builtin.exclusive)
  let inclusive ← (config.inclusive.map (compileRules "inclusive")).getD (.ok builtin.inclusive)
  let classifier := LabelClassifier.ofTables exclusive inclusive
    (config.subsystems.getD builtin.subsystems)
  return classifier.withMaxLabels (config.maxLabels.getD builtin.maxLabels)

namespace Config

/-- The address of the interface of the forge, if none is set. -/
def defaultApiBase : String :=
  "https://api.github.com"

/-- The repository, if one is set. -/
def repoSlug? (config : Config) : Option RepoSlug :=
  (config.repo.bind (·.repo)).bind fun text => (RepoSlug.parseOrRemote text).toOption

/-- The place of the manifest. -/
def manifestPath (config : Config) : String :=
  ((config.repo.bind (·.codeownersPath)).or config.global.codeownersPath).getD defaultManifestPath

/-- The address of the interface of the forge. -/
def apiBase (config : Config) : String :=
  config.global.apiBase.getD defaultApiBase

/-- The classifier. -/
def classifier (config : Config) : Except ValueError LabelClassifier :=
  match config.repo.bind (·.labels) with
  | some labels => labels.classifier
  | none => .ok .builtin

end Config

end PullTriage
