import PullTriage.Json.Basic
import PullTriage.Text.Quoted

/-!
# Repositories

A repository is named by its owner and its name.  Both are non-empty and have neither a slash nor
white space in them, so the text `owner/name` can be read in one way only.  A remote URL of the
hosting service is accepted in place of it.  In JSON a repository is a string with that text.
-/

namespace PullTriage

/-- May the text be an owner or a name? -/
def isSlugPart (part : String) : Bool :=
  !part.isEmpty && part.toList.all fun c => c != '/' && !Unicode.isBlank c

/-- A repository by owner and name. -/
structure RepoSlug where
  owner : String
  name : String
  isSlugPart_owner : isSlugPart owner = true
  isSlugPart_name : isSlugPart name = true
deriving Repr, DecidableEq

/-- The error of a text that names no repository. -/
structure SlugError where
  input : String
deriving Repr, DecidableEq

/-- The text of the error. -/
def SlugError.message (e : SlugError) : String :=
  "invalid repository '" ++ e.input ++ "', expected 'owner/name'"

namespace RepoSlug

/-- The repository with this owner and name. -/
def ofParts? (owner name : String) : Option RepoSlug :=
  if h : isSlugPart owner = true ∧ isSlugPart name = true then some ⟨owner, name, h.1, h.2⟩
  else none

/-- Reads `owner/name`. -/
def parse? (text : String) : Option RepoSlug :=
  match text.toList.splitOn '/' with
  | [owner, name] => ofParts? (String.ofList owner) (String.ofList name)
  | _ => none

/-- Reads `owner/name`. -/
def parse (text : String) : Except SlugError RepoSlug :=
  match parse? text with
  | some slug => .ok slug
  | none => .error ⟨text⟩

/-- The text `owner/name`. -/
def toText (slug : RepoSlug) : String :=
  slug.owner ++ "/" ++ slug.name

/-- The beginnings of remote URLs. -/
def remoteHeads : List String :=
  ["git@github.com:", "https://github.com/", "http://github.com/"]

/-- The text without `.git` at its end, if it ends so. -/
def dropDotGit (text : List Char) : List Char :=
  ((".git".toList).isSuffixOf? text).getD text

/-- The repository of a remote URL. -/
def ofRemoteUrl? (url : String) : Option RepoSlug :=
  (remoteHeads.findSome? fun head => head.toList.isPrefixOf? url.toList).bind
    fun rest => parse? (String.ofList (dropDotGit rest))

/-- Reads a remote URL or else `owner/name`. -/
def parseOrRemote (text : String) : Except SlugError RepoSlug :=
  match ofRemoteUrl? text with
  | some slug => .ok slug
  | none => parse text

/-- The repository that a string names. -/
def ofJson? (v : Json) : Option RepoSlug :=
  v.text?.bind parse?

/-- The repository as a string. -/
def toJson (slug : RepoSlug) : Json :=
  .text slug.toText

/-- A description for diagnostics. -/
def describe (slug : RepoSlug) : String :=
  "RepoSlug \x7b owner: " ++ Text.quoted slug.owner ++ ", name: " ++ Text.quoted slug.name
    ++ " \x7d"

end RepoSlug

end PullTriage
