/-!
# The greeting comment

The comment that is posted on a new pull request.  It names the owners of the changed files, one on
a line, so the list can be read back from it.
-/

namespace PullTriage

namespace Comment

def greeting : String :=
  "Thanks for opening this pull request!"

def withoutOwners : String :=
  "The maintainers will review your changes soon."

def intro : String :=
  "The following people are the code owners of the changed files:"

def outro : String :=
  "Along with the maintainers, they will review your changes soon."

/-- The lines of the comment. -/
def lines (owners : List String) : List String :=
  if owners.isEmpty then [greeting, withoutOwners]
  else [greeting, intro, ""] ++ owners.map ("- " ++ ·) ++ ["", outro]

/-- The comment for some owners, which are taken as they are. -/
def render (owners : List String) : String :=
  String.intercalate "\n" (lines owners)

end Comment

end PullTriage
