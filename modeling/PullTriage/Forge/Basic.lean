import PullTriage.PullRequest

/-!
# Forges

A forge is a service that hosts repositories.  Triage needs a narrow slice of it, the five calls of
`ForgeCall`, and a forge is bound to one repository.

What a program does with a forge is a value: `ForgeProgram` is a tree of calls, each with what
happens next for every reply.  So a program says nothing about the forge that it runs on, and what
it does can be read off it for all forges at once.
-/

namespace PullTriage

/-- The ways in which a call fails. -/
inductive ForgeError where
  /-- There is no token. -/
  | authRequired
  /-- The token is not accepted. -/
  | authFailed (detail : String)
  | notFound (detail : String)
  | rateLimited
  /-- The forge reports an error of another kind. -/
  | apiError (status : Nat) (detail : String)
  /-- There is no connection. -/
  | networkError (detail : String)
  /-- The reply cannot be decoded. -/
  | decode (detail : String)
deriving Repr, DecidableEq

/-- The text of an error. -/
def ForgeError.message : ForgeError → String
  | authRequired => "authentication required"
  | authFailed detail => "authentication failed: " ++ detail
  | notFound detail => "not found: " ++ detail
  | rateLimited => "rate limited"
  | apiError status detail => "API error: " ++ toString status ++ " - " ++ detail
  | networkError detail => "network error: " ++ detail
  | decode detail => "decode error: " ++ detail

/-- The calls. -/
inductive ForgeCall where
  | getPullRequest (number : Nat)
  /-- The files that changed between two revisions. -/
  | compare (base head : String)
  | readTextFile (path : String)
  | createComment (number : Nat) (body : String)
  /-- Adds labels; those that are there are kept. -/
  | addLabels (number : Nat) (labels : List String)
deriving Repr, DecidableEq

/-- The kinds of calls. -/
inductive ForgeMethod where
  | getPullRequest
  | compare
  | readTextFile
  | createComment
  | addLabels
deriving Repr, DecidableEq

namespace ForgeCall

/-- The kind of a call. -/
def method : ForgeCall → ForgeMethod
  | getPullRequest _ => .getPullRequest
  | compare .. => .compare
  | readTextFile _ => .readTextFile
  | createComment .. => .createComment
  | addLabels .. => .addLabels

/-- What a call gives when it succeeds. -/
def Answer : ForgeCall → Type
  | getPullRequest _ => PullRequest
  | compare .. => List ChangedFile
  | readTextFile _ => String
  | createComment .. => Unit
  | addLabels .. => Unit

/-- What a call gives. -/
abbrev Reply (call : ForgeCall) : Type :=
  Except ForgeError call.Answer

end ForgeCall

/-- A program that makes calls, one after the other, and ends with a result. -/
inductive ForgeProgram (α : Type) where
  | done (result : α)
  | call (c : ForgeCall) (next : c.Reply → ForgeProgram α)

namespace ForgeProgram

variable {α β : Type}

/-- Runs a program where each call is performed in a monad. -/
def run {m : Type → Type} [Monad m] (perform : (c : ForgeCall) → m c.Reply) :
    ForgeProgram α → m α
  | done result => pure result
  | call c next => do
    let reply ← perform c
    (next reply).run perform

/-- The same calls, and another result. -/
def map (f : α → β) : ForgeProgram α → ForgeProgram β
  | done result => done (f result)
  | call c next => call c fun reply => (next reply).map f

/-- One program, and then another one that depends on the result. -/
def bind (program : ForgeProgram α) (f : α → ForgeProgram β) : ForgeProgram β :=
  match program with
  | done result => f result
  | call c next => call c fun reply => (next reply).bind f

/-- A single call. -/
def ofCall (c : ForgeCall) : ForgeProgram c.Reply :=
  call c done

end ForgeProgram

end PullTriage
