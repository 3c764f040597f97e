import PullTriage.Text.Decimal

/-!
# Command lines

A command line is read by levels, that of the program and then that of the command that it names.  A
level knows some options and some operands.

* A word that begins with two dashes is an option by its long name, and its value may follow an equals
  sign.  One that begins with a single dash is a row of options by their short names.
* The word `--` makes all that follow operands.
* Any other word is the value of the option before it, if that waits for one.  Else it is an operand,
  or on the level of the program the name of the command.

A value is checked when the next option or operand begins, and not when it is read.  This decides which
error is reported for a line with several.
-/

namespace PullTriage.Cli

/-- The ways in which reading ends without a command. -/
inductive Stop where
  /-- The help was asked for. -/
  | help
  /-- The version was asked for. -/
  | version
  /-- There is nothing on the line, which shows the help too. -/
  | nothing
  | missingCommand
  | unknownCommand
  | missingOperand
  | unknownArgument
  /-- An option without its value, or a value that is none of those allowed. -/
  | invalidValue
  /-- A value that is no number, or out of range. -/
  | invalidNumber
  /-- An option that is given twice. -/
  | repeated
  /-- A value for an option that takes none. -/
  | surplusValue
deriving Repr, DecidableEq

/-- What the values of an option or operand are. -/
inductive ValueKind where
  | text
  /-- A path, which is not empty. -/
  | path
  /-- A natural number below 2 to the 64th; a plus sign may precede it. -/
  | natural
  | choice (names : List String)
deriving Repr, DecidableEq

/-- The number that a text writes. -/
def natural? (text : String) : Option Nat :=
  match text.toList with
  | '+' :: digits => Text.decimalBelow? UInt64.size digits
  | digits => Text.decimalBelow? UInt64.size digits

/-- Checks a value. -/
def ValueKind.check (value : String) : ValueKind → Except Stop Unit
  | text => .ok ()
  | path => if value.isEmpty then .error .invalidValue else .ok ()
  | natural => if (natural? value).isSome then .ok () else .error .invalidNumber
  | choice names => if names.contains value then .ok () else .error .invalidValue

/-- What an option does. -/
inductive Role where
  | flag
  | value (kind : ValueKind)
  | help
  | version
deriving Repr, DecidableEq

/-- An option, with its names and the variable of the environment that stands in for it. -/
structure OptionSpec where
  long : String
  short : Option Char := none
  role : Role
  variableName : Option String := none
deriving Repr, DecidableEq

/-- The operands of a level. -/
structure OperandSpec where
  kind : ValueKind
  isRepeated : Bool := false
deriving Repr, DecidableEq

/-- A level: its options, its operands, and the commands that it can name. -/
structure Level where
  options : List OptionSpec
  operands : Option OperandSpec := none
  commands : List String := []
deriving Repr, DecidableEq

/-- A word whose values are not yet checked: an option, which may wait for its value, or a row of
operands. -/
inductive Pending where
  | nothing
  | option (name : String) (kind : ValueKind) (value : Option String)
  | operands (kind : ValueKind) (values : List String)
deriving Repr, DecidableEq

/-- What has been read of a level. -/
structure Reading where
  flags : List String := []
  values : List (String × String) := []
  operands : List String := []
  pending : Pending := .nothing
  /-- The number of operands, with those that are not yet checked. -/
  operandCount : Nat := 0
  onlyOperands : Bool := false
deriving Repr, DecidableEq

namespace Reading

/-- Is the flag given? -/
def has (reading : Reading) (flag : String) : Bool :=
  reading.flags.contains flag

/-- The value of an option. -/
def value? (reading : Reading) (option : String) : Option String :=
  reading.values.lookup option

/-- Gives a value to an option, which must not have one yet. -/
def assign (reading : Reading) (option : String) (kind : ValueKind) (value : String) :
    Except Stop Reading := do
  if (reading.value? option).isSome then throw .repeated
  kind.check value
  return { reading with values := reading.values ++ [(option, value)] }

/-- Checks what is pending. -/
def settle (reading : Reading) : Except Stop Reading :=
  let settled := { reading with pending := .nothing }
  match reading.pending with
  | .nothing => .ok reading
  | .option _ _ none => .error .invalidValue
  | .option name kind (some value) => settled.assign name kind value
  | .operands kind values => do
    values.forM fun value => kind.check value
    return { settled with operands := settled.operands ++ values }

/-- Does an option wait for its value? -/
def isWaiting (reading : Reading) : Bool :=
  match reading.pending with
  | .option _ _ none => !reading.onlyOperands
  | _ => false

/-- Applies an option that stands without a value. -/
def apply (reading : Reading) (option : OptionSpec) : Except Stop Reading := do
  let reading ← reading.settle
  match option.role with
  | .help => throw .help
  | .version => throw .version
  | .value kind => return { reading with pending := .option option.long kind none }
  | .flag =>
    if reading.has option.long then throw .repeated
    return { reading with flags := reading.flags ++ [option.long] }

/-- Applies an option with a value attached to it. -/
def applyWith (reading : Reading) (option : OptionSpec) (value : String) :
    Except Stop Reading :=
  match option.role with
  | .value kind => do (← reading.settle).assign option.long kind value
  | _ => .error .surplusValue

end Reading

namespace Level

/-- The option with this long name. -/
def long? (level : Level) (name : String) : Option OptionSpec :=
  level.options.find? fun option => option.long == name

/-- The option with this short name. -/
def short? (level : Level) (name : Char) : Option OptionSpec :=
  level.options.find? fun option => option.short == some name

/-- Reads an option by its long name. -/
def readLong (level : Level) (reading : Reading) (word : List Char) : Except Stop Reading :=
  let (name, value) := word.span (· != '=')
  match level.long? (String.ofList name) with
  | none => .error .unknownArgument
  | some option =>
    match value with
    | [] => reading.apply option
    | _ :: value => reading.applyWith option (String.ofList value)

/-- Reads a row of options by their short names. -/
def readShorts (level : Level) (reading : Reading) (word : List Char) : Except Stop Reading :=
  word.foldlM (fun reading name =>
    match level.short? name with
    | none => .error .unknownArgument
    | some option => reading.apply option) reading

/-- The error of a word that has no place on the level. -/
def misplaced (level : Level) (reading : Reading) (word : String) : Stop :=
  if level.commands.isEmpty || (reading.onlyOperands && level.commands.contains word) then
    .unknownArgument
  else .unknownCommand

/-- Reads an operand. -/
def readOperand (level : Level) (reading : Reading) (word : String) : Except Stop Reading :=
  match level.operands with
  | none => .error (level.misplaced reading word)
  | some operands =>
    let counted := { reading with operandCount := reading.operandCount + 1 }
    match operands.isRepeated, reading.pending with
    | true, .operands kind values =>
      .ok { counted with pending := .operands kind (values ++ [word]) }
    | isRepeated, _ =>
      if !isRepeated && 0 < reading.operandCount then .error (level.misplaced reading word)
      else do return { (← counted.settle) with pending := .operands operands.kind [word] }

/-- Reads a word. -/
def read (level : Level) (reading : Reading) (word : String) : Except Stop Reading :=
  if reading.onlyOperands then level.readOperand reading word
  else
    match word.toList with
    | ['-', '-'] => .ok { reading with onlyOperands := true }
    | '-' :: '-' :: name => level.readLong reading name
    | '-' :: c :: names => level.readShorts reading (c :: names)
    | _ =>
      match reading.isWaiting, reading.pending with
      | true, .option name kind _ => .ok { reading with pending := .option name kind (some word) }
      | _, _ => level.readOperand reading word

/-- The value of an option by the environment, if it is not given on the line. -/
def readVariable (environment : String → Option String) (reading : Reading)
    (option : OptionSpec) : Except Stop Reading :=
  match option.role, option.variableName.bind environment, reading.value? option.long with
  | .value kind, some value, none => reading.assign option.long kind value
  | _, _, _ => .ok reading

/-- Reads the words of a level to the end of the line. -/
def readAll (level : Level) (environment : String → Option String) (words : List String) :
    Except Stop Reading := do
  let reading ← words.foldlM level.read {}
  level.options.foldlM (readVariable environment) (← reading.settle)

/-- Reads up to the name of a command: what has been read, the name, and the words after it. -/
def readToCommand (level : Level) (reading : Reading) :
    List String → Except Stop (Reading × Option (String × List String))
  | [] => .ok (reading, none)
  | word :: rest =>
    if !reading.onlyOperands && !reading.isWaiting && level.commands.contains word then
      .ok (reading, some (word, rest))
    else do level.readToCommand (← level.read reading word) rest

end Level

end PullTriage.Cli
