import PullTriage.Regex.Basic

/-!
# Globs

A glob is read as a list of tokens, one for each wildcard and each literal character, and written
as a regular expression piece by piece.  Every wildcard becomes a group, or two, in the order of the
tokens, so a label can refer to what a wildcard stood for.

| wildcard       | expression       | meaning                                        |
|----------------|------------------|------------------------------------------------|
| `**` at the end | `(.+)`          | everything below, at any depth                 |
| `**/`          | `(.+/)?`         | any number of leading directories, also none   |
| `**`           | `(.+/)?([^/]+)`  | any depth, and then one segment                |
| `*`            | `([^/]+)`        | one segment or a part of it, not empty         |

Two stars at the end are recognised before all else, so `***` is a star and then everything below.

Ownership patterns are matched against paths from the root: `rooted` puts the slash in front of
both.  Label rules see paths relative to the root, and there the slash is dropped from both.
-/

namespace PullTriage

namespace Glob

/-- The parts of a glob. -/
inductive Token where
  /-- A character that stands for itself. -/
  | literal (c : Char)
  /-- `*` -/
  | segment
  /-- `**/` -/
  | directories
  /-- `**`, neither at the end nor before a slash. -/
  | descend
  /-- `**` at the end. -/
  | below
deriving Repr, DecidableEq

/-- The tokens of a text with no two stars at its end that belong together. -/
def scan : List Char → List Token
  | [] => []
  | '*' :: '*' :: '/' :: rest => .directories :: scan rest
  | '*' :: '*' :: rest => .descend :: scan rest
  | '*' :: rest => .segment :: scan rest
  | c :: rest => .literal c :: scan rest

/-- The tokens of a glob. -/
def tokens (glob : List Char) : List Token :=
  match ['*', '*'].isSuffixOf? glob with
  | some body => scan body ++ [.below]
  | none => scan glob

/-- A token as a regular expression. -/
def Token.expression : Token → List Char
  | literal c => Regex.escapeChar c
  | segment => ['(', '[', '^', '/', ']', '+', ')']
  | directories => ['(', '.', '+', '/', ')', '?']
  | descend => ['(', '.', '+', '/', ')', '?', '(', '[', '^', '/', ']', '+', ')']
  | below => ['(', '.', '+', ')']

/-- The number of groups in the expression of a token. -/
def Token.groupCount : Token → Nat
  | literal _ => 0
  | segment => 1
  | directories => 1
  | descend => 2
  | below => 1

/-- The expression that matches exactly what the tokens match in order. -/
def anchored (tokens : List Token) : List Char :=
  '^' :: tokens.flatMap Token.expression ++ ['$']

/-- The path from the root: with a slash in front, if it has none. -/
def rooted (path : List Char) : List Char :=
  match path with
  | '/' :: _ => path
  | _ => '/' :: path

/-- The path relative to the root: without one slash in front. -/
def relative (path : List Char) : List Char :=
  match path with
  | '/' :: rest => rest
  | _ => path

/-- The regular expression of a glob over paths from the root. -/
def translate (glob : String) : String :=
  String.ofList (anchored (tokens (rooted glob.toList)))

/-- The regular expression of a glob over paths relative to the root. -/
def translateRelative (glob : String) : String :=
  String.ofList (anchored (tokens (relative glob.toList)))

end Glob

end PullTriage
