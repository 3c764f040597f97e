/-!
# Bytes as text

UTF-8 text in bytes.  `decode?` accepts exactly the bytes of a text.  `symbols` takes any bytes: a
byte that is no part of a character becomes `none`, and the reader of a format decides whether it
may stand where it does.
-/

namespace PullTriage.Text

/-- A character, or `none` for a byte that is no part of one. -/
abbrev Symbol := Option Char

/-- The symbols of the bytes from position `i` on, `fuel` of them at most. -/
def symbolsFrom (bytes : ByteArray) : (fuel i : Nat) → List Symbol
  | 0, _ => []
  | fuel + 1, i =>
    if i < bytes.size then
      match bytes.utf8DecodeChar? i with
      | some c => some c :: symbolsFrom bytes fuel (i + c.utf8Size)
      | none => none :: symbolsFrom bytes fuel (i + 1)
    else []

/-- The characters in some bytes, and the bytes between them that are no part of one. -/
def symbols (bytes : ByteArray) : List Symbol :=
  symbolsFrom bytes bytes.size 0

/-- The text in some bytes, if they are the bytes of a text. -/
def decode? (bytes : ByteArray) : Option String :=
  String.fromUTF8? bytes

end PullTriage.Text
