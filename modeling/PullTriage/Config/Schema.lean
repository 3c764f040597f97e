import PullTriage.Json.Record
import PullTriage.Label.Rule
import PullTriage.RepoSlug

/-!
# The configuration schema

There are two scopes: the settings of a user, which hold for all repositories, and those of a
repository.  Every setting may be left out, and no other may be present.

Values are checked after they have been read, and the check of a table of rules compiles them.  So a
configuration with a bad rule is refused as a whole, and not when the rule is first needed.
-/

namespace PullTriage

/-- A value that has the right type and is still not allowed. -/
inductive ValueError where
  | invalidValue (detail : String)
  /-- An entry of a table of rules that makes no rule. -/
  | invalidRule (table : String) (index : Nat) (cause : RuleError)
deriving Repr, DecidableEq

/-- The text of an error. -/
def ValueError.message : ValueError → String
  | invalidValue detail => "invalid config value: " ++ detail
  | invalidRule table index cause =>
    "invalid rule labels." ++ table ++ "[" ++ toString index ++ "]: " ++ cause.message

/-- An entry of a table of rules.  Exactly one of `pattern` and `glob` has to be there. -/
structure RuleConfig where
  pattern : Option String
  glob : Option String
  exclude : Option String
  labels : List String
deriving Repr, DecidableEq

/-- The settings for labels.  A table that is there takes the place of the built-in one. -/
structure LabelsConfig where
  maxLabels : Option Nat
  subsystems : Option (List String)
  exclusive : Option (List RuleConfig)
  inclusive : Option (List RuleConfig)
deriving Repr, DecidableEq

/-- The settings of a repository. -/
structure RepoConfig where
  repo : Option String
  codeownersPath : Option String
  labels : Option LabelsConfig
deriving Repr, DecidableEq

/-- The settings of a user. -/
structure GlobalConfig where
  apiBase : Option String
  codeownersPath : Option String
deriving Repr, DecidableEq

/-! ## Checking -/

/-- The rule of an entry, which stands in a table at an index. -/
def RuleConfig.compile (config : RuleConfig) (table : String) (index : Nat) :
    Except ValueError LabelRule := do
  let rule ← match config.pattern, config.glob with
    | some pattern, none =>
      (LabelRule.ofPattern pattern config.labels).mapError (.invalidRule table index)
    | none, some glob =>
      (LabelRule.ofGlob glob config.labels).mapError (.invalidRule table index)
    | _, _ =>
      .error (.invalidValue ("labels." ++ table ++ "[" ++ toString index
        ++ "] must set exactly one of `pattern` or `glob`"))
  match config.exclude with
  | some exclude => (rule.excluding exclude).mapError (.invalidRule table index)
  | none => return rule

/-- The rules of a table; the error is that of the first bad entry. -/
def compileRules (table : String) (rules : List RuleConfig) : Except ValueError (List LabelRule) :=
  rules.zipIdx.mapM fun (rule, index) => rule.compile table index

/-- Checks the address of the interface of the forge. -/
def validateApiBase (apiBase : String) : Except ValueError Unit :=
  if Text.startsWith apiBase "https://" || Text.startsWith apiBase "http://" then .ok ()
  else .error (.invalidValue ("invalid api_base '" ++ apiBase ++ "', must be an http(s) URL"))

/-- Checks the path of the manifest. -/
def validateManifestPath (path : String) : Except ValueError Unit :=
  if (Text.trim path.toList).isEmpty then
    .error (.invalidValue "codeowners_path cannot be empty")
  else .ok ()

/-- Checks the settings of a user. -/
def GlobalConfig.validate (config : GlobalConfig) : Except ValueError Unit := do
  config.apiBase.forM validateApiBase
  config.codeownersPath.forM validateManifestPath

/-- Checks the settings for labels. -/
def LabelsConfig.validate (config : LabelsConfig) : Except ValueError Unit := do
  if config.maxLabels = some 0 then throw (.invalidValue "labels.max_labels must be at least 1")
  config.exclusive.forM fun rules => discard (compileRules "exclusive" rules)
  config.inclusive.forM fun rules => discard (compileRules "inclusive" rules)

/-- Checks the settings of a repository. -/
def RepoConfig.validate (config : RepoConfig) : Except ValueError Unit := do
  config.repo.forM fun repo =>
    discard ((RepoSlug.parseOrRemote repo).mapError fun e => .invalidValue e.message)
  config.codeownersPath.forM validateManifestPath
  config.labels.forM LabelsConfig.validate

/-! ## Reading and writing

The settings can come from different formats.  `exact` says whether a record that is written as an
array may have no surplus items.
-/

namespace RuleConfig

/-- The form of an entry as a record. -/
def form (exact : Bool) : Json.Form where
  fields := [⟨"pattern", true⟩, ⟨"glob", true⟩, ⟨"exclude", true⟩, ⟨"labels", false⟩]
  closed := true
  exact := exact

/-- The entry that a record describes. -/
def ofJson? (exact : Bool) (v : Json) : Option RuleConfig := do
  let members ← Json.members? (form exact) v
  return {
    pattern := ← members.optional "pattern" Json.text?
    glob := ← members.optional "glob" Json.text?
    exclude := ← members.optional "exclude" Json.text?
    labels := ← members.required "labels" (Json.list? Json.text?) }

/-- A member for an option, left out if it is not set. -/
def memberOf (name : String) (value : Option String) : List (String × Json) :=
  (value.map fun s => (name, Json.text s)).toList

/-- The entry as a record, without the options that are not set. -/
def toJson (config : RuleConfig) : Json :=
  Json.ofMembers (memberOf "pattern" config.pattern ++ memberOf "glob" config.glob
    ++ memberOf "exclude" config.exclude ++ [("labels", Json.ofTexts config.labels)])

end RuleConfig

namespace LabelsConfig

/-- The form of the settings as a record. -/
def form (exact : Bool) : Json.Form where
  fields := [⟨"max_labels", true⟩, ⟨"subsystems", true⟩, ⟨"exclusive", true⟩, ⟨"inclusive", true⟩]
  closed := true
  exact := exact

/-- The settings that a record describes. -/
def ofJson? (exact : Bool) (v : Json) : Option LabelsConfig := do
  let members ← Json.members? (form exact) v
  return {
    maxLabels := ← members.optional "max_labels" Json.natural?
    subsystems := ← members.optional "subsystems" (Json.list? Json.text?)
    exclusive := ← members.optional "exclusive" (Json.list? (RuleConfig.ofJson? exact))
    inclusive := ← members.optional "inclusive" (Json.list? (RuleConfig.ofJson? exact)) }

/-- A value, or null for an option that is not set. -/
def orNull {α : Type} (encode : α → Json) : Option α → Json
  | some a => encode a
  | none => .null

/-- A table of rules as an array. -/
def rulesJson (rules : List RuleConfig) : Json :=
  .array (rules.map RuleConfig.toJson)

/-- The settings as a record. -/
def toJson (config : LabelsConfig) : Json :=
  Json.ofMembers [
    ("max_labels", orNull Json.natural config.maxLabels),
    ("subsystems", orNull Json.ofTexts config.subsystems),
    ("exclusive", orNull rulesJson config.exclusive),
    ("inclusive", orNull rulesJson config.inclusive)]

end LabelsConfig

namespace RepoConfig

/-- The settings of a repository that has none. -/
def empty : RepoConfig := ⟨none, none, none⟩

/-- The form of the settings as a record. -/
def form (exact : Bool) : Json.Form where
  fields := [⟨"repo", true⟩, ⟨"codeowners_path", true⟩, ⟨"labels", true⟩]
  closed := true
  exact := exact

/-- The settings that a record describes. -/
def ofJson? (exact : Bool) (v : Json) : Option RepoConfig := do
  let members ← Json.members? (form exact) v
  return {
    repo := ← members.optional "repo" Json.text?
    codeownersPath := ← members.optional "codeowners_path" Json.text?
    labels := ← members.optional "labels" (LabelsConfig.ofJson? exact) }

/-- The settings as a record. -/
def toJson (config : RepoConfig) : Json :=
  Json.ofMembers [
    ("repo", Json.ofText? config.repo),
    ("codeowners_path", Json.ofText? config.codeownersPath),
    ("labels", LabelsConfig.orNull LabelsConfig.toJson config.labels)]

end RepoConfig

namespace GlobalConfig

/-- The settings of a user who has none. -/
def empty : GlobalConfig := ⟨none, none⟩

/-- The form of the settings as a record. -/
def form (exact : Bool) : Json.Form where
  fields := [⟨"api_base", true⟩, ⟨"codeowners_path", true⟩]
  closed := true
  exact := exact

/-- The settings that a record describes. -/
def ofJson? (exact : Bool) (v : Json) : Option GlobalConfig := do
  let members ← Json.members? (form exact) v
  return {
    apiBase := ← members.optional "api_base" Json.text?
    codeownersPath := ← members.optional "codeowners_path" Json.text? }

/-- The settings as a record. -/
def toJson (config : GlobalConfig) : Json :=
  Json.ofMembers [
    ("api_base", Json.ofText? config.apiBase),
    ("codeowners_path", Json.ofText? config.codeownersPath)]

end GlobalConfig

end PullTriage
