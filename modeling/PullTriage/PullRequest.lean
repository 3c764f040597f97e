import PullTriage.Json.Record

/-!
# Pull requests

What triage has to know about a pull request.  The facts come from the payload of the event that
started a workflow, or from the forge, and `PullRequestContext` is what both are reduced to.
-/

namespace PullTriage

/-- A pull request as the forge reports it.  Names and revisions that it does not know are empty. -/
structure PullRequest where
  number : Nat
  body : Option String
  baseRef : String
  baseSha : String
  headSha : String
deriving Repr, DecidableEq

/-- The facts that triage needs: the number, the description, the name of the base branch, and the
base and head revisions. -/
structure PullRequestContext where
  number : Nat
  body : Option String
  baseRef : Option String
  baseSha : Option String
  headSha : Option String
deriving Repr, DecidableEq

/-- The text, unless it is empty. -/
def nonEmpty? (text : String) : Option String :=
  if text.isEmpty then none else some text

/-- The facts that the forge reports. -/
def PullRequest.context (pr : PullRequest) : PullRequestContext where
  number := pr.number
  body := pr.body
  baseRef := nonEmpty? pr.baseRef
  baseSha := nonEmpty? pr.baseSha
  headSha := nonEmpty? pr.headSha

/-- The base and head revisions, if both are known. -/
def PullRequestContext.revisions? (pr : PullRequestContext) : Option (String × String) := do
  let base ← pr.baseSha.bind nonEmpty?
  let head ← pr.headSha.bind nonEmpty?
  return (base, head)

/-- A file that a pull request touches, by its path in the repository. -/
structure ChangedFile where
  filename : String
deriving Repr, DecidableEq

namespace ChangedFile

/-- The form of a changed file as a record. -/
def form : Json.Form where
  fields := [⟨"filename", false⟩]

/-- The changed file that a record describes. -/
def ofJson? (v : Json) : Option ChangedFile := do
  let members ← Json.members? form v
  return ⟨← members.required "filename" Json.text?⟩

/-- The changed file as a record. -/
def toJson (file : ChangedFile) : Json :=
  Json.ofMembers [("filename", .text file.filename)]

end ChangedFile

end PullTriage
