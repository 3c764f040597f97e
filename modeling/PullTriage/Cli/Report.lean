import PullTriage.Cli.Output
import PullTriage.Triage

/-!
# What the commands print

The messages of each command as a function of what it has found out.
-/

namespace PullTriage.Cli

/-- The line for a path with its owners. -/
def ownersLine (manifest : Manifest) (path : String) : String :=
  match manifest.ownersOf path with
  | [] => path ++ ": (no owners)"
  | owners => path ++ ": " ++ String.intercalate ", " owners

/-- The line for a rule that matches a path. -/
def ruleLine (rule : OwnershipRule) : String :=
  "  line " ++ toString rule.line ++ ": " ++ rule.pattern.glob ++ " " ++ rule.owner

/-- The messages about a path, with the rules that match it if `withRules` is set. -/
def pathMessages (withRules : Bool) (manifest : Manifest) (path : String) : List Message :=
  .info (ownersLine manifest path) ::
    (if withRules then (manifest.matchingRules path).map fun rule => .info (ruleLine rule) else [])

/-- The list of all owners, which scripts get as plain lines. -/
def ownerListMessages (verbosity : Verbosity) (owners : List String) : List Message :=
  if verbosity = .quiet then owners.map .result
  else if owners.isEmpty then []
  else [.info "", .info "Owners:", .info (formatList owners "  - ")]

/-- The messages about the owners of some paths. -/
def ownersMessages (verbosity : Verbosity) (manifest : Manifest) (paths : List String) :
    List Message :=
  paths.flatMap (pathMessages (verbosity = .debug) manifest)
    ++ ownerListMessages verbosity (manifest.uniqueOwners paths)

/-- The messages about labels. -/
def labelsMessages : Option (List String) → List Message
  | some labels => labels.map .result
  | none => [.info "no labels"]

/-- The messages about a manifest that is valid. -/
def checkMessages (path : String) (manifest : Manifest) : List Message :=
  [.info (path ++ ": " ++ toString manifest.size ++ " rules")]

/-- The messages about a pull request that has been triaged. -/
def triageMessages (report : TriageReport) : List Message :=
  let number := "#" ++ toString report.number
  if report.posted then
    .info ("Commented on " ++ number ++ " (" ++ toString report.owners.length ++ " owners)") ::
      match report.labels with
      | some labels => [.info ("Labeled " ++ number ++ ": " ++ String.intercalate ", " labels)]
      | none => []
  else
    let labels := (report.labels.map (String.intercalate ", ")).getD "(none)"
    [.info ("Would comment on " ++ number ++ ":\n"), .info report.comment,
      .info ("\nWould label: " ++ labels)]

end PullTriage.Cli
