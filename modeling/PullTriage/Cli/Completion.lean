import PullTriage.Cli.Invocation

/-!
# Completion scripts

A script offers the names of the commands and the options that may stand anywhere.
-/

namespace PullTriage.Cli

/-- The words that a script offers. -/
def completionWords : List String :=
  programLevel.commands ++ programLevel.options.map fun option => "--" ++ option.long

/-- The script for a shell. -/
def completionScript (shell : Shell) : String :=
  let words := String.intercalate " " completionWords
  match shell with
  | .bash => "complete -o default -W '" ++ words ++ "' prsieve"
  | .zsh => "compctl -f -k '(" ++ words ++ ")' prsieve"
  | .fish => "complete -c prsieve -a '" ++ words ++ "'"
  | .powerShell =>
    "Register-ArgumentCompleter -Native -CommandName prsieve -ScriptBlock \x7b '" ++ words
      ++ "' -split ' ' \x7d"

end PullTriage.Cli
