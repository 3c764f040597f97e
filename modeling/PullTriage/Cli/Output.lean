/-!
# What is printed

A command prints results, messages and warnings.  Messages and warnings are for people and left out
when the output is to be quiet; results are for scripts and always printed.
-/

namespace PullTriage

/-- How much is printed. -/
inductive Verbosity where
  | quiet
  | normal
  | debug
deriving Repr, DecidableEq

/-- The verbosity that the flags ask for; `quiet` wins. -/
def Verbosity.ofFlags (quiet debug : Bool) : Verbosity :=
  if quiet then .quiet else if debug then .debug else .normal

/-- Something to print. -/
inductive Message where
  /-- A line for scripts. -/
  | result (text : String)
  /-- A message for people. -/
  | info (text : String)
  /-- A warning, for the error output. -/
  | warning (text : String)
deriving Repr, DecidableEq

/-- Is the message printed? -/
def Message.isShown (verbosity : Verbosity) : Message → Bool
  | result _ => true
  | info _ => verbosity != .quiet
  | warning _ => verbosity != .quiet

/-- The message as text for the standard output. -/
def Message.standardText : Message → String
  | result text => text ++ "\n"
  | info text => text ++ "\n"
  | warning _ => ""

/-- The message as text for the error output. -/
def Message.errorText : Message → String
  | warning text => "warning: " ++ text ++ "\n"
  | _ => ""

/-- What a command prints, in order, and the error that it ends with, if it fails.  An error is given
by its causes, each the cause of the one before. -/
structure Outcome where
  messages : List Message
  causes : Option (List String) := none
deriving Repr, DecidableEq

namespace Outcome

/-- The text for the standard output. -/
def standardText (outcome : Outcome) (verbosity : Verbosity) : String :=
  String.join ((outcome.messages.filter (·.isShown verbosity)).map Message.standardText)

/-- The text for the error output.  An error is always printed. -/
def errorText (outcome : Outcome) (verbosity : Verbosity) : String :=
  String.join ((outcome.messages.filter (·.isShown verbosity)).map Message.errorText)
    ++ match outcome.causes with
      | some causes => "error: " ++ String.intercalate ": " causes ++ "\n"
      | none => ""

/-- The exit code. -/
def exitCode (outcome : Outcome) : Nat :=
  if outcome.causes.isSome then 1 else 0

end Outcome

/-- The items with `lead` in front of each, one on a line. -/
def formatList (items : List String) (lead : String) : String :=
  String.intercalate "\n" (items.map (lead ++ ·))

end PullTriage
