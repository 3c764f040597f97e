import PullTriage.Glob.Expression
import PullTriage.Text.Quoted

/-!
# Path patterns

A glob compiled for matching whole paths.  Compiling is total, since the expression of a glob is
always valid (`Glob.compile_translate`), and paths are taken from the root, as the glob is.
-/

namespace PullTriage

/-- A compiled ownership pattern. -/
structure PathPattern where
  glob : String
  regex : Regex
deriving Repr, DecidableEq

namespace PathPattern

/-- Compiles a glob. -/
def compile (glob : String) : PathPattern :=
  ⟨glob, (Regex.compile (Glob.translate glob)).get (by simp [Glob.compile_translate])⟩

/-- The first match in the path from the root, which is all of it. -/
def search (pattern : PathPattern) (path : String) : Option Regex.Match :=
  pattern.regex.search (String.ofList (Glob.rooted path.toList))

/-- Does the whole path match? -/
def matches? (pattern : PathPattern) (path : String) : Bool :=
  (pattern.search path).isSome

/-- What each group of a matching path stands for, the first group first.  A `**/` that stands for
nothing has `none`. -/
def captures? (pattern : PathPattern) (path : String) : Option (List (Option String)) :=
  (pattern.search path).map fun m => m.groups pattern.regex.groupCount

/-- A description for diagnostics. -/
def describe (pattern : PathPattern) : String :=
  "PathPattern \x7b glob: " ++ Text.quoted pattern.glob ++ ", regex: "
    ++ Text.quoted pattern.regex.pattern ++ " \x7d"

end PathPattern

end PullTriage
