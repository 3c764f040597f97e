import PullTriage.Text.Basic
import PullTriage.Unicode.Category
import PullTriage.Unicode.Property

/-!
# Quoted text

Text in double quotes, for a message that has to show exactly what was found.  A quoted text stays
on one line and shows every character: quotes, backslashes and the common controls have an escape
of two characters, and a character that would not show by itself is written by its code point.
-/

namespace PullTriage.Text

open Unicode

/-- The categories of characters that do not show. -/
def hiddenCategories : List String :=
  ["Cc", "Cf", "Co", "Cn", "Zl", "Zp", "Zs"]

/-- The code points that are written by number: those that do not show, the space apart, and those
that join the character before. -/
def hiddenSets : List CodeSet :=
  property "Grapheme_Extend" :: hiddenCategories.map category

/-- Does the character not show by itself? -/
def isHidden (c : Char) : Bool :=
  c.toNat < 0x20 || (0x7F ≤ c.toNat && hiddenSets.any fun set => set.has c.toNat)

/-- The digits of a number in lower-case hexadecimal. -/
def hexDigits (n : Nat) : List Char :=
  Nat.toDigits 16 n

/-- A character within quotes. -/
def quoteChar (c : Char) : List Char :=
  match c with
  | '\x00' => ['\\', '0']
  | '\t' => ['\\', 't']
  | '\r' => ['\\', 'r']
  | '\n' => ['\\', 'n']
  | '"' => ['\\', '"']
  | '\\' => ['\\', '\\']
  | c => if isHidden c then ['\\', 'u', '\x7b'] ++ hexDigits c.toNat ++ ['\x7d'] else [c]

/-- The text in quotes. -/
def quoted (text : String) : String :=
  String.ofList ('"' :: text.toList.flatMap quoteChar ++ ['"'])

end PullTriage.Text
