import PullTriage.Json.Basic
import PullTriage.Text.Utf8
import PullTriage.Unicode.CodeSet

/-!
# The tokens of a JSON text

A text is first cut into its punctuation and its scalars.  Two scalars with nothing between them are
two tokens here; that they cannot stand side by side is left to the reader of the tree.
-/

namespace PullTriage.Json

open Text Unicode

/-- A token: a punctuation character or a scalar. -/
inductive Token where
  | beginArray
  | endArray
  | beginObject
  | endObject
  | comma
  | colon
  | null
  | bool (value : Bool)
  | number (lexeme : String)
  | string (content : Option String)
deriving Repr, DecidableEq

/-! ## Strings -/

/-- A part of a string: a character, a code unit written in hexadecimal, or a byte that is no part
of a character. -/
inductive Piece where
  | char (c : Char)
  | unit (code : Nat)
  | stray
deriving Repr, DecidableEq

/-- The character that a backslash and this character stand for. -/
def escaped? : Char → Option Char
  | '"' => some '"'
  | '\\' => some '\\'
  | '/' => some '/'
  | 'b' => some '\x08'
  | 'f' => some '\x0c'
  | 'n' => some '\n'
  | 'r' => some '\r'
  | 't' => some '\t'
  | _ => none

/-- The number written by four hexadecimal digits. -/
def unit? (a b c d : Char) : Option Nat := do
  let a ← hexDigit? a
  let b ← hexDigit? b
  let c ← hexDigit? c
  let d ← hexDigit? d
  return ((a * 16 + b) * 16 + c) * 16 + d

/-- Reads the rest of a string, up to its closing quote. -/
def readString : List Symbol → Option (List Piece × List Symbol)
  | [] => none
  | some '"' :: rest => some ([], rest)
  | some '\\' :: some 'u' :: some a :: some b :: some c :: some d :: rest =>
    match unit? a b c d with
    | some code => (readString rest).map fun r => (.unit code :: r.1, r.2)
    | none => none
  | some '\\' :: some e :: rest =>
    match escaped? e with
    | some c => (readString rest).map fun r => (.char c :: r.1, r.2)
    | none => none
  | some c :: rest =>
    if c = '\\' || c.toNat < 0x20 then none
    else (readString rest).map fun r => (.char c :: r.1, r.2)
  | none :: rest => (readString rest).map fun r => (.stray :: r.1, r.2)

/-- The text of a string in parts.  A code unit of the first half of a surrogate pair needs one of
the second half after it. -/
def contentOf? : List Piece → Option (List Char)
  | [] => some []
  | .char c :: rest => (contentOf? rest).map (c :: ·)
  | .stray :: _ => none
  | .unit hi :: .unit lo :: rest =>
    if 0xD800 ≤ hi && hi < 0xDC00 then
      if 0xDC00 ≤ lo && lo < 0xE000 then
        (contentOf? rest).map (Char.ofNat (0x10000 + (hi - 0xD800) * 0x400 + (lo - 0xDC00)) :: ·)
      else none
    else if 0xDC00 ≤ hi && hi < 0xE000 then none
    else (contentOf? (.unit lo :: rest)).map (Char.ofNat hi :: ·)
  | .unit code :: rest =>
    if 0xD800 ≤ code && code < 0xE000 then none
    else (contentOf? rest).map (Char.ofNat code :: ·)

/-! ## Numbers and words -/

/-- May the character stand in a number? -/
def isNumberChar (c : Char) : Bool :=
  c.isDigit || c == '-' || c == '+' || c == '.' || c == 'e' || c == 'E'

/-- Is the text an exponent, or nothing? -/
def isExponent : List Char → Bool
  | [] => true
  | c :: rest =>
    (c == 'e' || c == 'E') &&
      (let digits := match rest with
        | '+' :: digits => digits
        | '-' :: digits => digits
        | digits => digits
      !digits.isEmpty && digits.all Char.isDigit)

/-- Is the text a fraction, an exponent, both or nothing? -/
def isFraction : List Char → Bool
  | '.' :: rest =>
    !(rest.takeWhile Char.isDigit).isEmpty && isExponent (rest.dropWhile Char.isDigit)
  | rest => isExponent rest

/-- Is the text a number without a sign?  A leading zero stands alone. -/
def isUnsigned : List Char → Bool
  | '0' :: rest => isFraction rest
  | c :: rest => c.isDigit && isFraction (rest.dropWhile Char.isDigit)
  | [] => false

/-- Is the text a number? -/
def isNumber : List Char → Bool
  | '-' :: rest => isUnsigned rest
  | cs => isUnsigned cs

/-- The characters at the start that meet `p`, and the rest. -/
def spanChars (p : Char → Bool) : List Symbol → List Char × List Symbol
  | some c :: rest =>
    if p c then
      let (cs, rest) := spanChars p rest
      (c :: cs, rest)
    else ([], some c :: rest)
  | rest => ([], rest)

/-- The token of a word. -/
def wordToken? : List Char → Option Token
  | ['n', 'u', 'l', 'l'] => some .null
  | ['t', 'r', 'u', 'e'] => some (.bool true)
  | ['f', 'a', 'l', 's', 'e'] => some (.bool false)
  | _ => none

/-! ## The text -/

/-- Is the character white space between tokens? -/
def isSpace (c : Char) : Bool :=
  c == ' ' || c == '\n' || c == '\t' || c == '\r'

/-- The token that begins with `c`, and the rest. -/
def Token.read (c : Char) (rest : List Symbol) : Option (Token × List Symbol) :=
  match c with
  | '[' => some (.beginArray, rest)
  | ']' => some (.endArray, rest)
  | '\x7b' => some (.beginObject, rest)
  | '\x7d' => some (.endObject, rest)
  | ',' => some (.comma, rest)
  | ':' => some (.colon, rest)
  | '"' => (readString rest).map fun r => (.string ((contentOf? r.1).map String.ofList), r.2)
  | c =>
    if c.isAlpha then
      let (word, rest) := spanChars Char.isAlpha rest
      (wordToken? (c :: word)).map fun t => (t, rest)
    else
      let (lexeme, rest) := spanChars isNumberChar rest
      if isNumber (c :: lexeme) then some (.number (String.ofList (c :: lexeme)), rest) else none

/-- The tokens of a text.  Every token takes at least one symbol. -/
def Token.scan : (fuel : Nat) → List Symbol → Option (List Token)
  | _, [] => some []
  | 0, _ => none
  | _, none :: _ => none
  | fuel + 1, some c :: rest =>
    if isSpace c then Token.scan fuel rest
    else
      match Token.read c rest with
      | some (t, rest) => (Token.scan fuel rest).map (t :: ·)
      | none => none

/-- The tokens of a text, if it can be cut into tokens. -/
def tokens? (text : List Symbol) : Option (List Token) :=
  Token.scan text.length text

end PullTriage.Json
