import PullTriage.Files.Basic

/-!
# Trees of files

Files as a value: each by the names on the way to it from the root.  What lies above a file is a
directory, and so is the working directory, from which relative paths start.

A path is walked name by name.  Only a directory can be walked on from, even where the next name is
empty or a dot, so a path with a slash at its end leads to directories only.
-/

namespace PullTriage

/-- A tree of files, and the directory that relative paths start from. -/
structure FileTree where
  workingDirectory : List String
  entries : List (List String × FileEntry)

namespace FileTree

/-- What there is at the end of some names. -/
def entryAt? (tree : FileTree) (names : List String) : Option FileEntry :=
  match tree.entries.lookup names with
  | some entry => some entry
  | none =>
    if (tree.workingDirectory :: tree.entries.map (·.1)).any names.isPrefixOf then some .directory
    else none

/-- Walks on from some names by another one. -/
def step (tree : FileTree) (names : List String) (name : String) :
    Except FileError (List String) :=
  match tree.entryAt? names with
  | none => .error .notFound
  | some (.file _) => .error .notADirectory
  | some .directory =>
    if name = "" ∨ name = "." then .ok names
    else if name = ".." then .ok names.dropLast
    else if 255 < name.utf8ByteSize then .error .nameTooLong
    else .ok (names ++ [name])

/-- The names between the slashes of a path. -/
def pathNames (path : String) : List String :=
  (path.toList.splitOn '/').map String.ofList

/-- What there is at a path. -/
def look (tree : FileTree) (path : String) : Except FileError FileEntry := do
  if path.toList.contains '\x00' then throw .nulInPath
  if path.isEmpty then throw .notFound
  if 4096 ≤ path.utf8ByteSize then throw .nameTooLong
  let start := if Text.startsWith path "/" then [] else tree.workingDirectory
  let names ← (pathNames path).foldlM tree.step start
  match tree.entryAt? names with
  | some entry => return entry
  | none => throw .notFound

/-- The tree as the files around a program. -/
def files (tree : FileTree) {m : Type → Type} [Monad m] : Files m where
  look path := pure (tree.look path)

end FileTree

end PullTriage
