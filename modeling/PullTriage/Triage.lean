import PullTriage.Comment
import PullTriage.Forge.Basic
import PullTriage.Label.Classifier
import PullTriage.Manifest

/-!
# Triage of a pull request

Triage lists the files that a pull request changes, reads the ownership manifest, and computes the
comment that names the owners of the files, and the labels.  Then it posts the comment, and adds the
labels if there are any.

All that can fail before anything is written comes first, so a bad manifest posts nothing.  A dry
run computes the same and writes nothing.
-/

namespace PullTriage

/-- The ways in which triage fails. -/
inductive TriageError where
  /-- The base or the head revision is not known. -/
  | missingRevision
  | manifest (path : String) (cause : ManifestError)
  | forge (cause : ForgeError)
deriving Repr, DecidableEq

/-- The text of an error. -/
def TriageError.message : TriageError → String
  | missingRevision => "Cannot get base or head commit"
  | manifest path cause => "invalid ownership manifest '" ++ path ++ "': " ++ cause.message
  | forge cause => cause.message

/-- What triage found out, and whether it was posted. -/
structure TriageReport where
  number : Nat
  paths : List String
  owners : List String
  comment : String
  labels : Option (List String)
  posted : Bool
deriving Repr, DecidableEq

/-- The place of the manifest, if nothing else is configured. -/
def defaultManifestPath : String :=
  ".github/CODEOWNERS"

/-- How triage is done. -/
structure Triage where
  classifier : LabelClassifier
  manifestPath : String := defaultManifestPath
  dryRun : Bool := false

namespace Triage

/-- The result of triage, as a program that makes calls. -/
abbrev Flow := ForgeProgram (Except TriageError TriageReport)

/-- A failure. -/
def fail (error : TriageError) : Flow :=
  .done (.error error)

/-- Makes a call and goes on with its answer; a call that fails ends the flow. -/
def ask (c : ForgeCall) (next : c.Answer → Flow) : Flow :=
  .call c fun
    | .ok answer => next answer
    | .error cause => fail (.forge cause)

/-- The report on a pull request that changes some files, by a manifest. -/
def report (triage : Triage) (pr : PullRequestContext) (manifest : Manifest)
    (paths : List String) : TriageReport :=
  let owners := manifest.uniqueOwners paths
  { number := pr.number
    paths := paths
    owners := owners
    comment := Comment.render owners
    labels := triage.classifier.classify paths pr.body pr.baseRef
    posted := !triage.dryRun }

/-- Posts what a report says. -/
def post (report : TriageReport) : Flow :=
  ask (.createComment report.number report.comment) fun _ =>
    match report.labels with
    | some labels => ask (.addLabels report.number labels) fun _ => .done (.ok report)
    | none => .done (.ok report)

/-- Triage of a pull request. -/
def run (triage : Triage) (pr : PullRequestContext) : Flow :=
  match pr.revisions? with
  | none => fail .missingRevision
  | some (base, head) =>
    ask (.compare base head) fun (files : List ChangedFile) =>
      ask (.readTextFile triage.manifestPath) fun (text : String) =>
        match Manifest.parse text with
        | .error cause => fail (.manifest triage.manifestPath cause)
        | .ok manifest =>
          let report := triage.report pr manifest (files.map (·.filename))
          if triage.dryRun then .done (.ok report) else post report

end Triage

end PullTriage
