import PullTriage.Toml.Basic
import PullTriage.Unicode.CodeSet

/-!
# Reading TOML

A document is read line by line.  A line is blank or a comment, a header, or a key with a value;
values in brackets may go on over several lines.  `Toml.ofText?` is `none` if the text is not a
document, and also if a value in it is of a kind that no setting has.
-/

namespace PullTriage

namespace Toml

open Unicode

/-! ## Space, comments and ends of lines -/

def isSpace (c : Char) : Bool :=
  c == ' ' || c == '\t'

/-- May the character stand in a comment or, quotes apart, in a string on one line? -/
def isLineChar (c : Char) : Bool :=
  c == '\t' || (0x20 ≤ c.toNat && c.toNat != 0x7F)

def skipSpace (cs : List Char) : List Char :=
  cs.dropWhile isSpace

/-- The text after the end of a line, which may be the end of the document. -/
def lineEnd? : List Char → Option (List Char)
  | [] => some []
  | '\n' :: rest => some rest
  | '\r' :: '\n' :: rest => some rest
  | _ => none

/-- The text after the end of a line on which only a comment may still stand. -/
def restOfLine? (cs : List Char) : Option (List Char) :=
  match skipSpace cs with
  | '#' :: rest => lineEnd? (rest.dropWhile isLineChar)
  | cs => lineEnd? cs

/-- Skips space, ends of lines and comments. -/
def skipLines? : (inComment : Bool) → List Char → Option (List Char)
  | _, [] => some []
  | _, '\r' :: '\n' :: rest => skipLines? false rest
  | _, '\n' :: rest => skipLines? false rest
  | true, c :: rest => if isLineChar c then skipLines? true rest else none
  | false, c :: rest =>
    if isSpace c then skipLines? false rest
    else if c == '#' then skipLines? true rest
    else some (c :: rest)

/-! ## Strings -/

/-- The character with the code point that these digits write. -/
def charOf? (digits : List Char) : Option Char :=
  if digits.all fun c => (hexDigit? c).isSome then
    let code := hexValue digits
    if h : code.isValidChar then some (Char.ofNatAux code h) else none
  else none

/-- The character that a backslash and this character stand for. -/
def escaped? : Char → Option Char
  | 'b' => some '\x08'
  | 't' => some '\t'
  | 'n' => some '\n'
  | 'f' => some '\x0c'
  | 'r' => some '\r'
  | '"' => some '"'
  | '\\' => some '\\'
  | _ => none

/-- A character and the rest of a string, if the character is one. -/
def consChar (c : Option Char) (rest : Option (List Char × List Char)) :
    Option (List Char × List Char) := do
  let c ← c
  let (cs, rest) ← rest
  return (c :: cs, rest)

/-- The rest of a string in double quotes on one line. -/
def readBasic : List Char → Option (List Char × List Char)
  | [] => none
  | '"' :: rest => some ([], rest)
  | '\\' :: 'u' :: a :: b :: c :: d :: rest => consChar (charOf? [a, b, c, d]) (readBasic rest)
  | '\\' :: 'U' :: a :: b :: c :: d :: e :: f :: g :: h :: rest =>
    consChar (charOf? [a, b, c, d, e, f, g, h]) (readBasic rest)
  | '\\' :: e :: rest => consChar (escaped? e) (readBasic rest)
  | c :: rest => if c != '\\' && isLineChar c then consChar (some c) (readBasic rest) else none

/-- The rest of a string in single quotes on one line. -/
def readLiteral : List Char → Option (List Char × List Char)
  | [] => none
  | '\'' :: rest => some ([], rest)
  | c :: rest => if isLineChar c then consChar (some c) (readLiteral rest) else none

/-- The quotes after three of them that end a string: one or two belong to the string. -/
def finalQuotes (quote : Char) : List Char → List Char × List Char
  | a :: b :: rest =>
    if a == quote then
      if b == quote then ([a, b], rest) else ([a], b :: rest)
    else ([], a :: b :: rest)
  | [a] => if a == quote then ([a], []) else ([], [a])
  | [] => ([], [])

/-- Is there nothing but space before the end of the line? -/
def isLineOver (cs : List Char) : Bool :=
  match skipSpace cs with
  | '\n' :: _ => true
  | '\r' :: '\n' :: _ => true
  | _ => false

/-- The rest of a string in three double quotes.  `skipping` says that a backslash at the end of a
line was the last thing before, so that space and ends of lines do not count. -/
def readLongBasic (skipping : Bool) : List Char → Option (List Char × List Char)
  | [] => none
  | '\r' :: '\n' :: rest =>
    if skipping then readLongBasic true rest else consChar (some '\n') (readLongBasic false rest)
  | '"' :: '"' :: '"' :: rest => some (finalQuotes '"' rest)
  | '\\' :: 'u' :: a :: b :: c :: d :: rest =>
    consChar (charOf? [a, b, c, d]) (readLongBasic false rest)
  | '\\' :: 'U' :: a :: b :: c :: d :: e :: f :: g :: h :: rest =>
    consChar (charOf? [a, b, c, d, e, f, g, h]) (readLongBasic false rest)
  | '\\' :: e :: rest =>
    if isLineOver (e :: rest) then readLongBasic true rest
    else consChar (escaped? e) (readLongBasic false rest)
  | c :: rest =>
    if skipping && (isSpace c || c == '\n') then readLongBasic true rest
    else if c == '\n' || (c != '\\' && isLineChar c) then
      consChar (some c) (readLongBasic false rest)
    else none

/-- The rest of a string in three single quotes. -/
def readLongLiteral : List Char → Option (List Char × List Char)
  | [] => none
  | '\r' :: '\n' :: rest => consChar (some '\n') (readLongLiteral rest)
  | '\'' :: '\'' :: '\'' :: rest => some (finalQuotes '\'' rest)
  | c :: rest =>
    if c == '\n' || isLineChar c then consChar (some c) (readLongLiteral rest) else none

/-- The text without an end of a line at its start, which does not count in a long string. -/
def dropLineEnd : List Char → List Char
  | '\n' :: rest => rest
  | '\r' :: '\n' :: rest => rest
  | cs => cs

/-! ## Keys -/

/-- May the character stand in a key without quotes? -/
def isKeyChar (c : Char) : Bool :=
  c.isAlphanum || c == '-' || c == '_'

/-- A single key. -/
def readKey : List Char → Option (String × List Char)
  | '"' :: rest => (readBasic rest).map fun r => (String.ofList r.1, r.2)
  | '\'' :: rest => (readLiteral rest).map fun r => (String.ofList r.1, r.2)
  | cs =>
    let key := cs.takeWhile isKeyChar
    if key.isEmpty then none else some (String.ofList key, cs.dropWhile isKeyChar)

/-- Keys with dots between them, and space around them. -/
def readPath : (fuel : Nat) → List Char → Option (List String × List Char)
  | 0, _ => none
  | fuel + 1, cs => do
    let (key, rest) ← readKey (skipSpace cs)
    match skipSpace rest with
    | '.' :: rest =>
      let (path, rest) ← readPath fuel rest
      return (key :: path, rest)
    | rest => return ([key], rest)

/-! ## Numbers -/

/-- The value of a digit in a base up to 16. -/
def digitBelow? (base : Nat) (c : Char) : Option Nat :=
  (hexDigit? c).filter (· < base)

/-- A number in a base; single underscores may stand between digits. -/
def digits? (base : Nat) (cs : List Char) : Option Nat :=
  let groups := cs.splitOn '_'
  if groups.any List.isEmpty then none
  else groups.flatten.foldlM (fun n c => (digitBelow? base c).map (base * n + ·)) 0

/-- A decimal number; a leading zero stands alone. -/
def decimal? (cs : List Char) : Option Nat :=
  match cs with
  | '0' :: _ :: _ => none
  | cs => digits? 10 cs

/-- An integer of 64 bits. -/
def integer? (lexeme : List Char) : Option Int := do
  let n ← match lexeme with
    | '0' :: 'x' :: cs => (digits? 16 cs).map Int.ofNat
    | '0' :: 'o' :: cs => (digits? 8 cs).map Int.ofNat
    | '0' :: 'b' :: cs => (digits? 2 cs).map Int.ofNat
    | '+' :: cs => (decimal? cs).map Int.ofNat
    | '-' :: cs => (decimal? cs).map fun n => -Int.ofNat n
    | cs => (decimal? cs).map Int.ofNat
  if Int64.minValue.toInt ≤ n ∧ n ≤ Int64.maxValue.toInt then return n else none

/-- May the character stand in a number or a date? -/
def isNumberChar (c : Char) : Bool :=
  c.isAlphanum || c == '_' || c == '+' || c == '-' || c == '.' || c == ':'

/-! ## Values -/

/-- A string value. -/
def asString (r : List Char × List Char) : Value × List Char :=
  (.string (String.ofList r.1), r.2)

mutual

/-- A value. -/
def readValue : (fuel : Nat) → List Char → Option (Value × List Char)
  | 0, _ => none
  | fuel + 1, cs =>
    match cs with
    | '"' :: '"' :: '"' :: rest => (readLongBasic false (dropLineEnd rest)).map asString
    | '"' :: rest => (readBasic rest).map asString
    | '\'' :: '\'' :: '\'' :: rest => (readLongLiteral (dropLineEnd rest)).map asString
    | '\'' :: rest => (readLiteral rest).map asString
    | '[' :: rest => (readItems fuel rest).map fun r => (.array r.1, r.2)
    | '\x7b' :: rest =>
      match skipSpace rest with
      | '\x7d' :: rest => some (.table .braces [], rest)
      | rest => readMembers fuel (.table .braces []) rest
    | cs =>
      (integer? (cs.takeWhile isNumberChar)).map fun n => (.integer n, cs.dropWhile isNumberChar)

/-- The rest of an array. -/
def readItems : (fuel : Nat) → List Char → Option (List Value × List Char)
  | 0, _ => none
  | fuel + 1, cs => do
    match ← skipLines? false cs with
    | ']' :: rest => return ([], rest)
    | cs =>
      let (v, rest) ← readValue fuel cs
      match ← skipLines? false rest with
      | ']' :: rest => return ([v], rest)
      | ',' :: rest =>
        let (items, rest) ← readItems fuel rest
        return (v :: items, rest)
      | _ => none

/-- The rest of a table in braces, of which `table` is there so far.  At least one member comes. -/
def readMembers : (fuel : Nat) → (table : Value) → List Char → Option (Value × List Char)
  | 0, _, _ => none
  | fuel + 1, table, cs => do
    let (path, rest) ← readPath (cs.length + 1) cs
    match rest with
    | '=' :: rest =>
      let (v, rest) ← readValue fuel (skipSpace rest)
      let table ← assign? path v table
      match skipSpace rest with
      | '\x7d' :: rest => return (table, rest)
      | ',' :: rest => readMembers fuel table rest
      | _ => none
    | _ => none

end

/-! ## Documents -/

/-- A document as far as it is read: its root table, and the path of the header in force. -/
structure Reading where
  root : Value := .table .header []
  place : List String := []

/-- The table of a header, or the last one of a header in double brackets, changed. -/
def changeSection? (change : Value → Option Value) (path : List String) (root : Value) :
    Option Value :=
  match path.getLast? with
  | none => change root
  | some key =>
    changeAt? false (fun
      | .table origin members =>
        match members.lookup key with
        | some (.tables items) =>
          (changeLast? change items).map
            fun items => .table origin (replace key (.tables items) members)
        | some v => (change v).map fun v => .table origin (replace key v members)
        | none => none
      | _ => none) path.dropLast root

/-- Reads a line that begins with neither space nor a comment. -/
def readLine? (st : Reading) (cs : List Char) : Option (Reading × List Char) :=
  match cs with
  | '[' :: '[' :: rest => do
    let (path, rest) ← readPath (rest.length + 1) rest
    match rest with
    | ']' :: ']' :: rest =>
      return (⟨← beginItem? path st.root, path⟩, ← restOfLine? rest)
    | _ => none
  | '[' :: rest => do
    let (path, rest) ← readPath (rest.length + 1) rest
    match rest with
    | ']' :: rest => return (⟨← beginTable? path st.root, path⟩, ← restOfLine? rest)
    | _ => none
  | cs => do
    let (path, rest) ← readPath (cs.length + 1) cs
    match rest with
    | '=' :: rest =>
      let (v, rest) ← readValue (2 * rest.length + 2) (skipSpace rest)
      return (⟨← changeSection? (assign? path v) st.place st.root, st.place⟩,
        ← restOfLine? rest)
    | _ => none

/-- Reads the rest of a document.  Every line takes at least one character. -/
def readLines? : (fuel : Nat) → Reading → List Char → Option Value
  | 0, _, _ => none
  | fuel + 1, st, cs => do
    match ← skipLines? false cs with
    | [] => return st.root
    | cs =>
      let (st, rest) ← readLine? st cs
      readLines? fuel st rest

/-- The table of a document.  A byte order mark before it does not count. -/
def ofText? (text : String) : Option Value :=
  let cs := match text.toList with
    | '\ufeff' :: rest => rest
    | cs => cs
  readLines? (cs.length + 1) {} cs

end Toml

end PullTriage
