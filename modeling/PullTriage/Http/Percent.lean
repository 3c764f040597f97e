import PullTriage.Unicode.CodeSet

/-!
# Percent encoding

A byte of a URL may be written as a percent sign and two hexadecimal digits.  Encoding a text does
so with the bytes of all characters that are not plain, where the part of the URL decides which ones
are.  Decoding gives the bytes back; a percent sign with no digits behind it means itself.
-/

namespace PullTriage.Url

/-- A digit in upper-case hexadecimal. -/
def hexChar (n : Nat) : Char :=
  if n < 10 then Char.ofNat (n + '0'.toNat) else Char.ofNat (n - 10 + 'A'.toNat)

/-- A byte as `%` and two digits. -/
def encodeByte (b : UInt8) : List Char :=
  ['%', hexChar (b.toNat / 16), hexChar (b.toNat % 16)]

/-- The text with the characters encoded that are not plain. -/
def encodeWith (isPlain : Char → Bool) (text : List Char) : List Char :=
  text.flatMap fun c => if isPlain c then [c] else (String.utf8EncodeChar c).flatMap encodeByte

/-- The byte with these digits. -/
def byte? (high low : Char) : Option UInt8 := do
  let high ← Unicode.hexDigit? high
  let low ← Unicode.hexDigit? low
  return UInt8.ofNat (high * 16 + low)

/-- The bytes that a text stands for. -/
def decoded : List Char → List UInt8
  | [] => []
  | '%' :: high :: low :: rest =>
    match byte? high low with
    | some byte => byte :: decoded rest
    | none => String.utf8EncodeChar '%' ++ decoded (high :: low :: rest)
  | c :: rest => String.utf8EncodeChar c ++ decoded rest

end PullTriage.Url
