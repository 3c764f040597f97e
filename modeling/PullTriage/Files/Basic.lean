import PullTriage.Text.Basic
import PullTriage.Text.Utf8

/-!
# Files

What a program sees of the files around it is one function: what there is at a path.  Whether a path
exists and what text a file holds follow from that.

The function runs in a monad.  So the same program runs on the files of the system, and on a tree of
files that is given as a value.
-/

namespace PullTriage

/-- The ways in which reading a file fails. -/
inductive FileError where
  | notFound
  /-- A path goes on below something that is no directory. -/
  | notADirectory
  | isADirectory
  | nameTooLong
  | nulInPath
  /-- The bytes of the file are not text. -/
  | notText
  | other (detail : String)
deriving Repr, DecidableEq

/-- The text of an error. -/
def FileError.message : FileError → String
  | notFound => "No such file or directory (os error 2)"
  | notADirectory => "Not a directory (os error 20)"
  | isADirectory => "Is a directory (os error 21)"
  | nameTooLong => "File name too long (os error 36)"
  | nulInPath => "file name contained an unexpected NUL byte"
  | notText => "stream did not contain valid UTF-8"
  | other detail => detail

/-- What there is at a path. -/
inductive FileEntry where
  | file (content : ByteArray)
  | directory

/-- The files around a program. -/
structure Files (m : Type → Type) where
  /-- What there is at a path. -/
  look : String → m (Except FileError FileEntry)

namespace Files

variable {m : Type → Type} [Monad m]

/-- Is there anything at the path? -/
def exists? (files : Files m) (path : String) : m Bool := do
  match ← files.look path with
  | .ok _ => return true
  | .error _ => return false

/-- The text of an entry. -/
def textOf : FileEntry → Except FileError String
  | .directory => .error .isADirectory
  | .file content =>
    match Text.decode? content with
    | some text => .ok text
    | none => .error .notText

/-- The text of the file at a path. -/
def readText (files : Files m) (path : String) : m (Except FileError String) := do
  return (← files.look path).bind textOf

end Files

/-- The path as seen from a base; an absolute path stands for itself. -/
def joinPath (base path : String) : String :=
  if Text.startsWith path "/" || base.isEmpty then path
  else if base.toList.getLast? == some '/' then base ++ path
  else base ++ "/" ++ path

end PullTriage
