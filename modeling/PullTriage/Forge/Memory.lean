import PullTriage.Forge.Basic

/-!
# A forge in memory

A forge whose pull requests, comparisons and files are given beforehand, and which remembers the
comments and labels that it receives and every call.  Calls of one kind can be made to fail.

A call that is made to fail is remembered like any other, and it changes nothing else.
-/

namespace PullTriage

/-- The state of a forge in memory.  Where a list holds several entries for one key, the first
counts. -/
structure MemoryForge where
  pullRequests : List (Nat × PullRequest) := []
  comparisons : List ((String × String) × List ChangedFile) := []
  files : List (String × String) := []
  /-- The comments, in order, with the pull request of each. -/
  comments : List (Nat × String) := []
  /-- The labels of each pull request. -/
  labelTable : List (Nat × List String) := []
  /-- The kind of calls that fail, and how. -/
  failure : Option (ForgeMethod × ForgeError) := none
  /-- The calls, in order. -/
  calls : List ForgeCall := []
deriving Repr, DecidableEq

namespace MemoryForge

def name : String := "mock"

/-- Gives a pull request. -/
def withPullRequest (forge : MemoryForge) (pr : PullRequest) : MemoryForge :=
  { forge with pullRequests := (pr.number, pr) :: forge.pullRequests }

/-- Gives the files that changed between two revisions. -/
def withComparison (forge : MemoryForge) (base head : String) (files : List ChangedFile) :
    MemoryForge :=
  { forge with comparisons := ((base, head), files) :: forge.comparisons }

/-- Gives a file. -/
def withFile (forge : MemoryForge) (path text : String) : MemoryForge :=
  { forge with files := (path, text) :: forge.files }

/-- Makes calls of one kind fail. -/
def failOn (forge : MemoryForge) (method : ForgeMethod) (error : ForgeError) : MemoryForge :=
  { forge with failure := some (method, error) }

/-- Makes no call fail. -/
def clearFailure (forge : MemoryForge) : MemoryForge :=
  { forge with failure := none }

/-- The labels of a pull request. -/
def labels (forge : MemoryForge) (number : Nat) : List String :=
  (forge.labelTable.lookup number).getD []

/-- The error that a call is made to fail with. -/
def failureOf? (forge : MemoryForge) (call : ForgeCall) : Option ForgeError :=
  match forge.failure with
  | some (method, error) => if method = call.method then some error else none
  | none => none

/-- The reply to a call that is not made to fail. -/
def reply (forge : MemoryForge) : (call : ForgeCall) → call.Reply
  | .getPullRequest number =>
    match forge.pullRequests.lookup number with
    | some pr => .ok pr
    | none => .error (.notFound ("PR #" ++ toString number))
  | .compare base head =>
    match forge.comparisons.lookup (base, head) with
    | some files => .ok files
    | none => .error (.notFound ("comparison " ++ base ++ "..." ++ head))
  | .readTextFile path =>
    match forge.files.lookup path with
    | some text => .ok text
    | none => .error (.notFound path)
  | .createComment .. => .ok ()
  | .addLabels .. => .ok ()

/-- The labels with others added at the end, each once. -/
def mergeLabels (labels added : List String) : List String :=
  added.foldl (fun labels label => if labels.contains label then labels else labels ++ [label])
    labels

/-- The state after a call that is not made to fail, the memory of the call apart. -/
def apply (forge : MemoryForge) : ForgeCall → MemoryForge
  | .createComment number body => { forge with comments := forge.comments ++ [(number, body)] }
  | .addLabels number added =>
    { forge with
      labelTable := (number, mergeLabels (forge.labels number) added) :: forge.labelTable }
  | _ => forge

/-- Performs a call. -/
def perform (call : ForgeCall) : StateM MemoryForge call.Reply := fun forge =>
  let remembered := { forge with calls := forge.calls ++ [call] }
  match forge.failureOf? call with
  | some error => (.error error, remembered)
  | none => (forge.reply call, remembered.apply call)

/-- Runs a program. -/
def run {α : Type} (forge : MemoryForge) (program : ForgeProgram α) : α × MemoryForge :=
  program.run perform forge

end MemoryForge

end PullTriage
