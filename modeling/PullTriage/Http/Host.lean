import PullTriage.Http.Percent
import PullTriage.Text.Decimal
import PullTriage.Text.Utf8

/-!
# Hosts

The host of a URL is an address or a name, and the URL standard says how each of them is read and
written.  An IPv6 address stands in brackets.  What ends like a number is an IPv4 address or no host
at all; its numbers may be decimal, octal or hexadecimal, and the last one stands for all bytes that
are left.  Anything else is a name, which is in lower case and has no characters that end a host.

A name may be percent encoded.  If it is not in ASCII, or has a label that stands for other
characters, then it takes large tables to say which name it is, and if it is one.  So this is asked
of a function, `asciiName?`.
-/

namespace PullTriage.Url

/-! ## IPv4 -/

/-- The number that some digits write; no digits write zero. -/
def ofDigits? (base : Nat) (digits : List Char) : Option Nat :=
  digits.foldlM (fun n c => (Unicode.hexDigit? c).bind fun d =>
    if d < base then some (n * base + d) else none) 0

/-- A number of an IPv4 address: hexadecimal behind `0x`, octal behind any other zero. -/
def ipv4Number? : List Char → Option Nat
  | [] => none
  | '0' :: 'x' :: digits => ofDigits? 16 digits
  | '0' :: d :: digits => ofDigits? 8 (d :: digits)
  | digits => ofDigits? 10 digits

/-- The parts of a name between its dots; a dot at the end does not count. -/
def nameParts (name : List Char) : List (List Char) :=
  let parts := name.splitOn '.'
  if parts.getLast? = some [] then parts.dropLast else parts

/-- Does the name end like an IPv4 address? -/
def endsInNumber (name : List Char) : Bool :=
  match (nameParts name).getLast? with
  | some last => (!last.isEmpty && last.all Char.isDigit) || (ipv4Number? last).isSome
  | none => false

/-- The `count` lowest bytes of a number, the highest of them first. -/
def lowBytes (n : Nat) : (count : Nat) → List Nat
  | 0 => []
  | count + 1 => n / Nat.pow 256 count % 256 :: lowBytes n count

/-- The four bytes of an IPv4 address. -/
def ipv4? (name : List Char) : Option (List Nat) := do
  let numbers ← (nameParts name).mapM ipv4Number?
  match numbers.reverse with
  | [] => none
  | last :: before =>
    let left := 4 - before.length
    if before.length < 4 && before.all (· < 256) && last < Nat.pow 256 left then
      return before.reverse ++ lowBytes last left
    else none

/-- The bytes in decimal, with dots between them. -/
def dotted (bytes : List Nat) : List Char :=
  ['.'].intercalate (bytes.map (Nat.toDigits 10))

/-! ## IPv6 -/

/-- A piece of an IPv6 address: up to four hexadecimal digits. -/
def piece? (digits : List Char) : Option Nat :=
  if digits.isEmpty || 4 < digits.length then none else ofDigits? 16 digits

/-- A byte in decimal, with no zeros in front of it. -/
def decimalByte? (digits : List Char) : Option Nat :=
  if digits.head? == some '0' && 1 < digits.length then none else Text.decimalBelow? 256 digits

/-- Two pieces, written as four bytes with dots between them. -/
def dottedPieces? (text : List Char) : Option (List Nat) := do
  match ← (text.splitOn '.').mapM decimalByte? with
  | [a, b, c, d] => some [a * 256 + b, c * 256 + d]
  | _ => none

/-- The pieces of some texts.  Where `dottedEnd` allows it, the last text may be two of them. -/
def piecesOf? (dottedEnd : Bool) : List (List Char) → Option (List Nat)
  | [] => some []
  | [last] =>
    match piece? last with
    | some piece => some [piece]
    | none => if dottedEnd then dottedPieces? last else none
  | text :: texts => do return (← piece? text) :: (← piecesOf? dottedEnd texts)

/-- The pieces between the colons of a text, which may be empty. -/
def pieces? (dottedEnd : Bool) (text : List Char) : Option (List Nat) :=
  if text.isEmpty then some [] else piecesOf? dottedEnd (text.splitOn ':')

/-- The texts before and behind the first two colons in a row. -/
def splitGap? : List Char → Option (List Char × List Char)
  | [] => none
  | ':' :: ':' :: rest => some ([], rest)
  | c :: rest => (splitGap? rest).map fun (before, behind) => (c :: before, behind)

/-- The eight pieces of an IPv6 address.  Two colons in a row stand for at least one zero. -/
def ipv6? (text : List Char) : Option (List Nat) := do
  match splitGap? text with
  | none =>
    let pieces ← pieces? true text
    if pieces.length = 8 then return pieces else none
  | some (before, behind) =>
    let front ← pieces? false before
    let back ← pieces? true behind
    let given := front.length + back.length
    if given < 8 then return front ++ List.replicate (8 - given) 0 ++ back else none

/-- How many zeros there are from a place on. -/
def zerosFrom (pieces : List Nat) (start : Nat) : Nat :=
  ((pieces.drop start).takeWhile (· == 0)).length

/-- The place with the most zeros from there on; of several the first. -/
def longestGap (pieces : List Nat) : Nat :=
  (List.range pieces.length).foldl
    (fun best start => if zerosFrom pieces best < zerosFrom pieces start then start else best) 0

/-- The pieces in hexadecimal, with colons between them. -/
def colonSeparated (pieces : List Nat) : List Char :=
  [':'].intercalate (pieces.map (Nat.toDigits 16))

/-- The address in its shortest form, where the first longest run of zeros is left out. -/
def ipv6Text (pieces : List Nat) : List Char :=
  let start := longestGap pieces
  let count := zerosFrom pieces start
  if count < 2 then colonSeparated pieces
  else colonSeparated (pieces.take start) ++ "::".toList
    ++ colonSeparated (pieces.drop (start + count))

/-! ## Names -/

/-- Is the character one that no name may have? -/
def isForbidden (c : Char) : Bool :=
  c.toNat ≤ 0x20 || c.toNat == 0x7F
    || ['#', '%', '/', ':', '<', '>', '?', '@', '[', '\\', ']', '^', '|'].contains c

/-- Is the name its own ASCII form, case apart?  A label that begins with `xn--` stands for other
characters. -/
def isAsciiName (name : List Char) : Bool :=
  name.all (·.toNat < 0x80)
    && (name.splitOn '.').all fun label => (label.take 4).map Char.toLower != "xn--".toList

/-- What a name in ASCII is as a host: an IPv4 address, if it ends like one, or itself. -/
def readName? (name : List Char) : Option (List Char) :=
  if name.isEmpty || name.any isForbidden then none
  else if endsInNumber name then (ipv4? name).map dotted
  else some name

/-- Reads a host.  What comes out is the one way to write it. -/
def readHost? (asciiName? : List Char → Option (List Char)) : List Char → Option (List Char)
  | '[' :: rest =>
    if rest.getLast? = some ']' then
      (ipv6? rest.dropLast).map fun pieces => '[' :: ipv6Text pieces ++ [']']
    else none
  | text => do
    let name ← Text.decode? (decoded text).toByteArray
    let ascii ← if isAsciiName name.toList then some (name.toList.map Char.toLower)
      else asciiName? name.toList
    readName? ascii

end PullTriage.Url
