import PullTriage.Cli.Run

/-!
# The program

From the words of a command line to what is printed and the exit code.
-/

namespace PullTriage.Cli

/-- The name of the program and its version. -/
def versionText : String :=
  "prsieve 0.1.0\n"

/-- How the program is used. -/
def usageText : String :=
  "Usage: prsieve [OPTIONS] <COMMAND>\n\nCommands: "
    ++ String.intercalate ", " programLevel.commands
    ++ "\nOptions: "
    ++ String.intercalate ", " (programLevel.options.map fun option => "--" ++ option.long) ++ "\n"

/-- What is printed, and the exit code. -/
structure Answer where
  standardText : String
  errorText : String
  exitCode : Nat
deriving Repr, DecidableEq

/-- The exit code when there is no command to run: asking for help or the version is no error. -/
def Stop.exitCode : Stop → Nat
  | help => 0
  | version => 0
  | _ => 2

/-- The answer when there is no command to run. -/
def Stop.answer (stop : Stop) : Answer :=
  match stop with
  | help => ⟨usageText, "", stop.exitCode⟩
  | version => ⟨versionText, "", stop.exitCode⟩
  | _ => ⟨"", usageText, stop.exitCode⟩

/-- The answer when a command has been run. -/
def Answer.ofOutcome (verbosity : Verbosity) (outcome : Outcome) : Answer :=
  ⟨outcome.standardText verbosity, outcome.errorText verbosity, outcome.exitCode⟩

/-- Runs an invocation. -/
def Invocation.answer {m : Type → Type} [Monad m] (host : Host m) (invocation : Invocation) :
    m Answer := do
  return .ofOutcome invocation.verbosity (← invocation.run host)

/-- Runs a command line. -/
def run {m : Type → Type} [Monad m] (host : Host m) (words : List String) : m Answer :=
  match Invocation.parse host.environment words with
  | .ok invocation => invocation.answer host
  | .error stop => return stop.answer

end PullTriage.Cli
