import PullTriage.Cli.Program

/-!
# The executable

Runs the words of the command line on the files and the environment of the system.  There is no
transport, so a command that needs the network reports that the connection failed.
-/

open PullTriage

/-- The error that the system reports. -/
def fileErrorOf : IO.Error → FileError
  | .noFileOrDirectory .. => .notFound
  | .inappropriateType .. => .isADirectory
  | e => .other (toString e)

/-- The files of the system. -/
def systemFiles : Files IO where
  look path := do
    try return .ok (.file (← IO.FS.readBinFile path))
    catch e => return match fileErrorOf e with
      | .isADirectory => .ok .directory
      | error => .error error

/-- The variables of the environment that the program knows. -/
def knownVariables : List String :=
  ["PRSIEVE_CONFIG", "XDG_CONFIG_HOME", "HOME", "GITHUB_EVENT_PATH", "GITHUB_REPOSITORY",
    "INPUT_TOKEN", "GITHUB_TOKEN"]

def main (words : List String) : IO UInt32 := do
  let environment ← knownVariables.filterMapM fun name => do
    return (← IO.getEnv name).map (name, ·)
  let directory ← IO.currentDir
  let host : Cli.Host IO := {
    files := systemFiles
    environment := fun name => environment.lookup name
    workingDirectory := directory.toString
    client := .plain
    transport := fun _ => return .error "there is no transport" }
  let answer ← Cli.run host words
  IO.print answer.standardText
  IO.eprint answer.errorText
  return UInt32.ofNat answer.exitCode
