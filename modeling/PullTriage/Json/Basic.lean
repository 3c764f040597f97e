import PullTriage.Text.Decimal

/-!
# JSON values

A value keeps what the text shows: a number its digits, an object its members in order and with
repetitions.  So a reader that only checks the form of what it passes over, and decodes the members
that it needs, loses nothing.

The text of a string can fail to be text, by half of a surrogate pair in an escape or by a byte that
is no part of a character.  Such a string is well formed, and its content is `none`.
-/

namespace PullTriage

/-- A JSON value. -/
inductive Json where
  | null
  | bool (value : Bool)
  /-- A number as it is written. -/
  | number (lexeme : String)
  | string (content : Option String)
  | array (items : List Json)
  | object (members : List (Option String × Json))
deriving Repr, Inhabited

namespace Json

/-- A string with this text. -/
def text (s : String) : Json := string (some s)

/-- The number with these decimal digits. -/
def natural (n : Nat) : Json := number (toString n)

/-- An object with members of these names. -/
def ofMembers (members : List (String × Json)) : Json :=
  object (members.map fun m => (some m.1, m.2))

/-- A text, or null. -/
def ofText? : Option String → Json
  | some s => text s
  | none => null

/-- An array of texts. -/
def ofTexts (texts : List String) : Json :=
  array (texts.map text)

/-! ## Decoding -/

/-- The text of a string. -/
def text? : Json → Option String
  | string content => content
  | _ => none

/-- The natural number that a number without sign, fraction and exponent writes, if it is below
2 to the 64th. -/
def natural? : Json → Option Nat
  | number lexeme => Text.decimalBelow? UInt64.size lexeme.toList
  | _ => none

/-- The decoded items of an array, if all can be decoded. -/
def list? {α : Type} (decode : Json → Option α) : Json → Option (List α)
  | array items => items.mapM decode
  | _ => none

end Json

end PullTriage
