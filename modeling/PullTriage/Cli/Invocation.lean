import PullTriage.Cli.Grammar

/-!
# Invocations

The commands of the program, its options, and how a command line names them.

The options for the working directory and for how much is printed may stand before the command and
after it.  After it they count first.
-/

namespace PullTriage.Cli

/-- A shell. -/
inductive Shell where
  | bash
  | zsh
  | fish
  | powerShell
deriving Repr, DecidableEq

/-- The name of a shell on the command line. -/
def Shell.name : Shell → String
  | bash => "bash"
  | zsh => "zsh"
  | fish => "fish"
  | powerShell => "power-shell"

/-- All shells. -/
def Shell.all : List Shell :=
  [.bash, .zsh, .fish, .powerShell]

/-- What triage is told on the command line or by the environment. -/
structure TriageOptions where
  event : Option String := none
  number : Option Nat := none
  repo : Option String := none
  token : Option String := none
  dryRun : Bool := false
deriving Repr, DecidableEq

/-- A command with its options. -/
inductive Command where
  /-- Shows the owners of paths. -/
  | owners (manifest : Option String) (paths : List String)
  /-- Shows the labels for paths. -/
  | labels (body base : Option String) (paths : List String)
  /-- Checks a manifest. -/
  | check (manifest : String)
  /-- Comments on a pull request and labels it. -/
  | triage (options : TriageOptions)
  /-- Prints a completion script for a shell. -/
  | completion (shell : Shell)
deriving Repr, DecidableEq

/-- A command, and the options that all commands have. -/
structure Invocation where
  directory : Option String
  debug : Bool
  quiet : Bool
  command : Command
deriving Repr, DecidableEq

/-! ## The grammar -/

/-- The options that may stand anywhere. -/
def commonOptions : List OptionSpec :=
  [⟨"cwd", none, .value .path, none⟩, ⟨"debug", none, .flag, none⟩,
    ⟨"quiet", some 'q', .flag, none⟩, ⟨"help", some 'h', .help, none⟩]

/-- The name of the command that shows the help. -/
def helpCommand : String :=
  "help"

/-- The names of the commands. -/
def commandNames : List String :=
  ["owners", "labels", "check", "triage", "completion"]

/-- The level of the program. -/
def programLevel : Level where
  options := commonOptions ++ [⟨"version", some 'V', .version, none⟩]
  commands := commandNames ++ [helpCommand]

/-- The level of a command. -/
def commandLevel (name : String) : Level :=
  match name with
  | "owners" => {
      options := ⟨"manifest", none, .value .path, none⟩ :: commonOptions
      operands := some ⟨.text, true⟩ }
  | "labels" => {
      options := [⟨"body", none, .value .text, none⟩, ⟨"base", none, .value .text, none⟩]
        ++ commonOptions
      operands := some ⟨.text, true⟩ }
  | "check" => { options := commonOptions, operands := some ⟨.path, false⟩ }
  | "triage" => {
      options := [⟨"event", none, .value .path, some "GITHUB_EVENT_PATH"⟩,
        ⟨"pr", none, .value .natural, none⟩,
        ⟨"repo", none, .value .text, some "GITHUB_REPOSITORY"⟩,
        ⟨"token", none, .value .text, none⟩, ⟨"dry-run", none, .flag, none⟩] ++ commonOptions }
  | _ => {
      options := commonOptions
      operands := some ⟨.choice (Shell.all.map Shell.name), false⟩ }

/-! ## Reading -/

/-- The command that has been read, by its name. -/
def Command.ofReading (name : String) (reading : Reading) : Except Stop Command :=
  match name, reading.operands with
  | "owners", path :: paths => .ok (.owners (reading.value? "manifest") (path :: paths))
  | "labels", paths => .ok (.labels (reading.value? "body") (reading.value? "base") paths)
  | "check", [path] => .ok (.check path)
  | "triage", _ => .ok (.triage {
      event := reading.value? "event"
      number := (reading.value? "pr").bind natural?
      repo := reading.value? "repo"
      token := reading.value? "token"
      dryRun := reading.has "dry-run" })
  | "completion", [shell] =>
    match Shell.all.find? fun s => s.name == shell with
    | some shell => .ok (.completion shell)
    | none => .error .invalidValue
  | _, _ => .error .missingOperand

/-- The reason to stop at the command for help, which names another command or none. -/
def helpStop : List String → Stop
  | [] => .help
  | [name] => if programLevel.commands.contains name then .help else .unknownCommand
  | _ => .unknownCommand

/-- The reason to stop at the end of a line that names no command. -/
def commandlessStop (reading : Reading) : Stop :=
  if reading.flags.isEmpty && reading.values.isEmpty then .nothing else .missingCommand

/-- Reads a command line. -/
def Invocation.parse (environment : String → Option String) (words : List String) :
    Except Stop Invocation := do
  match ← programLevel.readToCommand {} words with
  | (outer, none) => throw (commandlessStop (← outer.settle))
  | (outer, some (name, rest)) =>
    if name = helpCommand then throw (helpStop rest)
    let inner ← (commandLevel name).readAll environment rest
    let command ← Command.ofReading name inner
    let outer ← outer.settle
    return {
      directory := (inner.value? "cwd").or (outer.value? "cwd")
      debug := inner.has "debug" || outer.has "debug"
      quiet := inner.has "quiet" || outer.has "quiet"
      command := command }

end PullTriage.Cli
