import PullTriage.Json.Reader
import PullTriage.PullRequest

/-!
# Event payloads

The payload of the event that started a workflow is a JSON object.  Of it the member `pull_request`
counts, and of that the number, the description and the two branches; everything else only has to be
well formed.
-/

namespace PullTriage

/-- The ways in which reading a payload fails. -/
inductive EventError where
  /-- The text is not a payload. -/
  | malformed
  /-- The payload is not about a pull request. -/
  | notAPullRequest
deriving Repr, DecidableEq

/-- The text of an error. -/
def EventError.message : EventError → String
  | malformed => "failed to parse event payload: not a payload"
  | notAPullRequest => "event payload has no pull_request object"

/-- A pull request as an event payload describes it. -/
structure PullRequestEvent where
  number : Nat
  body : Option String
  baseRef : Option String
  baseSha : Option String
  headSha : Option String
deriving Repr, DecidableEq

namespace PullRequestEvent

/-- The form of a branch: its name and its revision. -/
def branchForm : Json.Form where
  fields := [⟨"ref", false⟩, ⟨"sha", false⟩]

/-- The form of the pull request. -/
def requestForm : Json.Form where
  fields := [⟨"number", false⟩, ⟨"body", false⟩, ⟨"base", false⟩, ⟨"head", false⟩]

/-- The form of the payload. -/
def payloadForm : Json.Form where
  fields := [⟨"pull_request", false⟩]

/-- The name and the revision of a branch, each if it is known. -/
def branch? (v : Json) : Option (Option String × Option String) := do
  let members ← Json.members? branchForm v
  let name ← members.optional "ref" Json.text?
  let sha ← members.optional "sha" Json.text?
  return (name, sha)

/-- The pull request that a record describes. -/
def ofRequest? (v : Json) : Option PullRequestEvent := do
  let members ← Json.members? requestForm v
  let number ← members.required "number" Json.natural?
  let body ← members.optional "body" Json.text?
  let base ← members.optional "base" branch?
  let head ← members.optional "head" branch?
  return {
    number := number
    body := body
    baseRef := base.bind (·.1)
    baseSha := base.bind (·.2)
    headSha := head.bind (·.2) }

/-- The pull request of a payload, if the payload has one. -/
def ofPayload? (v : Json) : Option (Option PullRequestEvent) := do
  let members ← Json.members? payloadForm v
  members.optional "pull_request" ofRequest?

/-- Reads the text of a payload. -/
def parse (text : String) : Except EventError PullRequestEvent :=
  match (Json.ofString? text).bind ofPayload? with
  | some (some event) => .ok event
  | some none => .error .notAPullRequest
  | none => .error .malformed

/-- The facts that the payload states. -/
def context (event : PullRequestEvent) : PullRequestContext where
  number := event.number
  body := event.body
  baseRef := event.baseRef
  baseSha := event.baseSha
  headSha := event.headSha

end PullRequestEvent

end PullTriage
