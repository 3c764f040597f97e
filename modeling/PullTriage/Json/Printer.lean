import PullTriage.Json.Basic

/-!
# Writing JSON

The compact text of a value, without white space.  Quotes, backslashes and control characters are
escaped, and every other character stands for itself.
-/

namespace PullTriage

namespace Json

/-- A digit in lower-case hexadecimal. -/
def hexChar (n : Nat) : Char :=
  if n < 10 then Char.ofNat (n + '0'.toNat) else Char.ofNat (n - 10 + 'a'.toNat)

/-- A character within a string. -/
def escape (c : Char) : List Char :=
  match c with
  | '"' => ['\\', '"']
  | '\\' => ['\\', '\\']
  | '\x08' => ['\\', 'b']
  | '\x0c' => ['\\', 'f']
  | '\n' => ['\\', 'n']
  | '\r' => ['\\', 'r']
  | '\t' => ['\\', 't']
  | c =>
    if c.toNat < 0x20 then ['\\', 'u', '0', '0', hexChar (c.toNat / 16), hexChar (c.toNat % 16)]
    else [c]

/-- A string in quotes. -/
def printString (s : String) : List Char :=
  '"' :: s.toList.flatMap escape ++ ['"']

/-- A string whose content is no text. -/
def printContent : Option String → List Char
  | some s => printString s
  | none => ['"', '\\', 'u', 'd', '8', '0', '0', '"']

mutual

/-- The text of a value, as characters. -/
def chars : Json → List Char
  | null => ['n', 'u', 'l', 'l']
  | bool true => ['t', 'r', 'u', 'e']
  | bool false => ['f', 'a', 'l', 's', 'e']
  | number lexeme => lexeme.toList
  | string content => printContent content
  | array items => '[' :: itemChars true items
  | object members => '\x7b' :: memberChars true members

/-- The rest of an array; `first` says whether no item stands before. -/
def itemChars (first : Bool) : List Json → List Char
  | [] => [']']
  | v :: rest => (if first then [] else [',']) ++ v.chars ++ itemChars false rest

/-- The rest of an object; `first` says whether no member stands before. -/
def memberChars (first : Bool) : List (Option String × Json) → List Char
  | [] => ['\x7d']
  | (key, v) :: rest =>
    (if first then [] else [',']) ++ printContent key ++ ':' :: v.chars ++ memberChars false rest

end

/-- The text of a value. -/
def print (v : Json) : String :=
  String.ofList v.chars

end Json

end PullTriage
