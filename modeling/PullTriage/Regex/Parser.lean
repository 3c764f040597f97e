import PullTriage.Regex.Node
import PullTriage.Regex.Property
import PullTriage.Text.Decimal

/-!
# Reading an expression

The reader goes through a pattern from left to right with a stack of open groups.  Flags hold from
where they are set to the end of the group that they are set in, so they are part of the state, and
the tree that comes out has them applied: case folding is in the classes, the meaning of a dot and
of the anchors in the leaves.

The result is `none` exactly when the pattern is no expression.  Look-around and back-references
are not part of the language.
-/

namespace PullTriage.Regex

open Unicode

/-! ## Flags -/

/-- The flags that are in force at a place of the pattern. -/
structure Flags where
  ignoreCase : Bool := false
  /-- The anchors `^` and `$` hold at every line. -/
  multiLine : Bool := false
  /-- The dot matches a line feed too. -/
  dotNewline : Bool := false
  /-- Quantifiers are lazy, and greedy with a question mark. -/
  swapGreed : Bool := false
  /-- Classes and case go beyond ASCII. -/
  wide : Bool := true
  /-- A carriage return ends a line as a line feed does. -/
  anyLineEnd : Bool := false
  /-- Blanks and comments in the pattern mean nothing. -/
  spaced : Bool := false
deriving Repr, DecidableEq

/-- Sets the flag with this letter. -/
def Flags.set? (flags : Flags) (letter : Char) (value : Bool) : Option Flags :=
  match letter with
  | 'i' => some { flags with ignoreCase := value }
  | 'm' => some { flags with multiLine := value }
  | 's' => some { flags with dotNewline := value }
  | 'U' => some { flags with swapGreed := value }
  | 'u' => some { flags with wide := value }
  | 'R' => some { flags with anyLineEnd := value }
  | 'x' => some { flags with spaced := value }
  | _ => none

/-- The letters of a flag setting, up to the closing `)` or `:`.  `seen` are the letters before,
and `off` says whether a hyphen was among them. -/
def Flags.read (flags : Flags) (seen : List Char) (off : Bool) :
    List Char → Option (Flags × List Char × Char × List Char)
  | [] => none
  | c :: rest =>
    if c == ':' || c == ')' then
      if seen.head? == some '-' then none else some (flags, seen, c, rest)
    else if seen.contains c then none
    else if c == '-' then flags.read ('-' :: seen) true rest
    else
      match flags.set? c (!off) with
      | some flags => flags.read (c :: seen) off rest
      | none => none

/-! ## Blanks -/

/-- Drops blanks and comments; `inComment` says whether the text begins inside a comment. -/
def dropBlanks : (inComment : Bool) → List Char → List Char
  | _, [] => []
  | true, c :: rest => dropBlanks (c != '\n') rest
  | false, c :: rest =>
    if isBlank c then dropBlanks false rest
    else if c == '#' then dropBlanks true rest
    else c :: rest

/-- Drops blanks and comments if they mean nothing. -/
def Flags.skip (flags : Flags) (cs : List Char) : List Char :=
  if flags.spaced then dropBlanks false cs else cs

/-- The text up to the character `stop`, less blanks and comments if they mean nothing, and the
text after it. -/
def Flags.upTo (flags : Flags) (stop : Char) :
    (inComment : Bool) → List Char → Option (List Char × List Char)
  | _, [] => none
  | true, c :: rest => flags.upTo stop (c != '\n') rest
  | false, c :: rest =>
    if flags.spaced && isBlank c then flags.upTo stop false rest
    else if flags.spaced && c == '#' then flags.upTo stop true rest
    else if c == stop then some ([], rest)
    else (flags.upTo stop false rest).map fun parts => (c :: parts.1, parts.2)

/-! ## Single characters and classes -/

/-- What a single character or an escape stands for. -/
inductive Primitive where
  /-- A character; `byte` says that it was written as two hexadecimal digits. -/
  | literal (c : Char) (byte : Bool)
  | cls (set : CharClass)
  | look (cond : Look)
deriving Repr

/-- The characters with a meaning of their own, which an escape takes away. -/
def isMeta (c : Char) : Bool :=
  ['\\', '.', '+', '*', '?', '(', ')', '|', '[', ']', '\x7b', '\x7d', '^', '$', '#', '&', '-',
    '~'].contains c

/-- The characters that may be escaped without need. -/
def isEscapable (c : Char) : Bool :=
  c.toNat < 128 && !c.isAlphanum && c != '<' && c != '>'

/-- The character with this code point. -/
def charOf? (code : Nat) : Option Char :=
  if h : code.isValidChar then some (Char.ofNatAux code h) else none

/-- Exactly `n` hexadecimal digits. -/
def Flags.hexDigits (flags : Flags) : (n : Nat) → List Char → Option (List Char × List Char)
  | 0, cs => some ([], cs)
  | _ + 1, [] => none
  | n + 1, c :: rest =>
    match hexDigit? c with
    | some _ => (flags.hexDigits n (flags.skip rest)).map fun parts => (c :: parts.1, parts.2)
    | none => none

/-- A character by its code point: `n` digits, or any number of them in braces. -/
def Flags.readHex (flags : Flags) (n : Nat) (cs : List Char) : Option (Primitive × List Char) :=
  match flags.skip cs with
  | '\x7b' :: rest =>
    match flags.upTo '\x7d' false rest with
    | some (digits, rest) =>
      if digits.isEmpty || digits.any (fun c => (hexDigit? c).isNone) then none
      else (charOf? (hexValue digits)).map fun c => (.literal c false, flags.skip rest)
    | none => none
  | cs =>
    match flags.hexDigits n cs with
    | some (digits, rest) => (charOf? (hexValue digits)).map fun c => (.literal c (n == 2), rest)
    | none => none

/-- A class by property name: one letter, or a name in braces. -/
def Flags.readProperty (flags : Flags) (negated : Bool) (cs : List Char) :
    Option (Primitive × List Char) :=
  if !flags.wide then none
  else
    match flags.skip cs with
    | '\x7b' :: rest =>
      match flags.upTo '\x7d' false rest with
      | some (content, rest) =>
        (bracedClass? content).map fun cls =>
          (.cls ((cls.foldIf flags.ignoreCase true).negateIf negated), rest)
      | none => none
    | c :: rest =>
      if c == '\\' then none
      else
        (namedClass? [c]).map fun cls =>
          (.cls ((cls.foldIf flags.ignoreCase true).negateIf negated), flags.skip rest)
    | [] => none

/-- The boundary conditions that are named in braces. -/
def Flags.namedBoundary? (flags : Flags) : List Char → Option Look
  | ['s', 't', 'a', 'r', 't'] => some (.wordStart flags.wide)
  | ['e', 'n', 'd'] => some (.wordEnd flags.wide)
  | ['s', 't', 'a', 'r', 't', '-', 'h', 'a', 'l', 'f'] => some (.wordStartHalf flags.wide)
  | ['e', 'n', 'd', '-', 'h', 'a', 'l', 'f'] => some (.wordEndHalf flags.wide)
  | _ => none

/-- What follows `\b`: the name of a boundary in braces, or else nothing.  Braces that begin with
neither a letter nor a hyphen are a quantifier. -/
def Flags.readBoundary (flags : Flags) (cs : List Char) : Option (Primitive × List Char) :=
  match cs with
  | '\x7b' :: rest =>
    match flags.skip rest with
    | [] => none
    | c :: _ =>
      if c.isAlpha || c == '-' then
        match flags.upTo '\x7d' false rest with
        | some (name, rest) => (flags.namedBoundary? name).map fun look => (.look look, rest)
        | none => none
      else some (.look (.wordBoundary flags.wide), cs)
  | _ => some (.look (.wordBoundary flags.wide), cs)

/-- What an escape stands for; `cs` is the text after the backslash. -/
def Flags.readEscape (flags : Flags) : List Char → Option (Primitive × List Char)
  | [] => none
  | c :: rest =>
    if isMeta c || isEscapable c then some (.literal c false, rest)
    else
      match c with
      | 'x' => flags.readHex 2 rest
      | 'u' => flags.readHex 4 rest
      | 'U' => flags.readHex 8 rest
      | 'p' => flags.readProperty false rest
      | 'P' => flags.readProperty true rest
      | 'd' => some (.cls (.digit flags.wide), rest)
      | 'D' => some (.cls (.compl (.digit flags.wide)), rest)
      | 's' => some (.cls (.space flags.wide), rest)
      | 'S' => some (.cls (.compl (.space flags.wide)), rest)
      | 'w' => some (.cls (.word flags.wide), rest)
      | 'W' => some (.cls (.compl (.word flags.wide)), rest)
      | 'a' => some (.literal '\x07' false, rest)
      | 'f' => some (.literal '\x0c' false, rest)
      | 't' => some (.literal '\t' false, rest)
      | 'n' => some (.literal '\n' false, rest)
      | 'r' => some (.literal '\r' false, rest)
      | 'v' => some (.literal '\x0b' false, rest)
      | 'A' => some (.look .textStart, rest)
      | 'z' => some (.look .textEnd, rest)
      | 'b' => flags.readBoundary rest
      | 'B' => some (.look (.notWordBoundary flags.wide), rest)
      | '<' => some (.look (.wordStart flags.wide), rest)
      | '>' => some (.look (.wordEnd flags.wide), rest)
      | _ => none

/-- A class as a leaf.  A class that does not go beyond ASCII must hold ASCII characters only. -/
def Flags.classNode? (flags : Flags) (cls : CharClass) : Option (Node Leaf) :=
  if flags.wide then some (.leaf (.one cls))
  else if cls.asciiOnly then some (.leaf (.one (.inter (.codes [(0x00, 0x7F)]) cls)))
  else none

/-- A primitive as a leaf. -/
def Flags.primitiveNode? (flags : Flags) : Primitive → Option (Node Leaf)
  | .literal c byte =>
    if !flags.wide && byte && 128 ≤ c.toNat then none
    else some (.leaf (.one ((CharClass.single c).foldIf flags.ignoreCase flags.wide)))
  | .cls cls => flags.classNode? cls
  | .look cond => some (.leaf (.look cond))

/-- The leaf of the dot. -/
def Flags.dotNode? (flags : Flags) : Option (Node Leaf) :=
  if !flags.wide then none
  else
    some (.leaf (.one
      (if flags.dotNewline then .any
      else if flags.anyLineEnd then .notLineEnd
      else .notNewline)))

/-- The leaf of `^`. -/
def Flags.startLook (flags : Flags) : Look :=
  if flags.multiLine then (if flags.anyLineEnd then .anyLineStart else .lineStart) else .textStart

/-- The leaf of `$`. -/
def Flags.endLook (flags : Flags) : Look :=
  if flags.multiLine then (if flags.anyLineEnd then .anyLineEnd else .lineEnd) else .textEnd

/-! ## Classes in brackets -/

/-- The operations between the parts of a bracketed class. -/
inductive SetOp where
  | inter
  | diff
  | symmDiff
deriving Repr, DecidableEq

/-- A bracketed class that is being read: whether it is a complement, the operation that waits for
its right side, and the union of the items since. -/
structure OpenSet where
  negated : Bool
  waiting : Option (SetOp × CharClass)
  items : CharClass
deriving Repr

/-- The class read so far, with the waiting operation carried out. -/
def OpenSet.value (flags : Flags) (s : OpenSet) : CharClass :=
  match s.waiting with
  | none => s.items
  | some (op, lhs) =>
    let lhs := lhs.foldIf flags.ignoreCase flags.wide
    let rhs := s.items.foldIf flags.ignoreCase flags.wide
    match op with
    | .inter => .inter lhs rhs
    | .diff => lhs.diff rhs
    | .symmDiff => .symmDiff lhs rhs

/-- Adds an item. -/
def OpenSet.add (s : OpenSet) (cls : CharClass) : OpenSet :=
  { s with items := .union s.items cls }

/-- Carries out the waiting operation and makes another one wait. -/
def OpenSet.operate (flags : Flags) (s : OpenSet) (op : SetOp) : OpenSet :=
  { s with waiting := some (op, s.value flags), items := .empty }

/-- The class when its bracket closes. -/
def OpenSet.close (flags : Flags) (s : OpenSet) : CharClass :=
  ((s.value flags).foldIf flags.ignoreCase flags.wide).negateIf s.negated

/-- The hyphens at the start of a bracketed class: whether there is one, and the text after. -/
def Flags.leadingHyphens (flags : Flags) (found : Bool) : (inComment : Bool) → List Char →
    Bool × List Char
  | _, [] => (found, [])
  | true, c :: rest => flags.leadingHyphens found (c != '\n') rest
  | false, c :: rest =>
    if c == '-' then flags.leadingHyphens true false rest
    else if flags.spaced && isBlank c then flags.leadingHyphens found false rest
    else if flags.spaced && c == '#' then flags.leadingHyphens found true rest
    else (found, c :: rest)

/-- The start of a bracketed class; `cs` is the text after the bracket.  A caret first makes it a
complement; hyphens, or else a closing bracket, that come next stand for themselves. -/
def Flags.openSet (flags : Flags) (cs : List Char) : OpenSet × List Char :=
  let (negated, cs) := match flags.skip cs with
    | '^' :: rest => (true, rest)
    | cs => (false, cs)
  let (hyphens, cs) := flags.leadingHyphens false false (flags.skip cs)
  if hyphens then (⟨negated, none, .single '-'⟩, cs)
  else
    match cs with
    | ']' :: rest => (⟨negated, none, .single ']'⟩, flags.skip rest)
    | cs => (⟨negated, none, .empty⟩, cs)

/-- A class such as `[:alpha:]`; `cs` is the text after the first bracket.  Anything that is not
the name of such a class is left to be read in another way. -/
def Flags.readPosix? (flags : Flags) (cs : List Char) : Option (CharClass × List Char) :=
  match cs with
  | ':' :: rest =>
    let (negated, rest) := match rest with
      | '^' :: rest => (true, rest)
      | rest => (false, rest)
    match splitAtFirst? [':'] rest with
    | some (name, ']' :: rest) =>
      (CharClass.posix? (String.ofList name)).map fun cls =>
        ((cls.foldIf flags.ignoreCase flags.wide).negateIf negated, rest)
    | _ => none
  | _ => none

/-- One item of a bracketed class. -/
def Flags.readItem (flags : Flags) : List Char → Option (Primitive × List Char)
  | [] => none
  | '\\' :: rest => flags.readEscape rest
  | c :: rest => some (.literal c false, rest)

/-- A single item as a class.  Conditions have no place in a class, and a class that does not go
beyond ASCII takes other characters only as bytes. -/
def Flags.itemClass? (flags : Flags) : Primitive → Option CharClass
  | .literal c byte =>
    if !flags.wide && !byte && 128 ≤ c.toNat then none else some (.single c)
  | .cls cls => some cls
  | .look _ => none

/-- A range of characters. -/
def Flags.rangeClass? (flags : Flags) : Primitive → Primitive → Option CharClass
  | .literal lo loByte, .literal hi hiByte =>
    if !flags.wide && ((!loByte && 128 ≤ lo.toNat) || (!hiByte && 128 ≤ hi.toNat)) then none
    else if lo ≤ hi then some (.range lo hi)
    else none
  | _, _ => none

/-- An item or a range of a bracketed class.  A hyphen before the closing bracket stands for
itself, and two hyphens are an operation. -/
def Flags.readRange (flags : Flags) (cs : List Char) : Option (CharClass × List Char) :=
  match flags.readItem cs with
  | none => none
  | some (first, rest) =>
    match flags.skip rest with
    | [] => none
    | '-' :: rest =>
      match flags.skip rest with
      | [] => none
      | ']' :: _ => (flags.itemClass? first).map fun cls => (cls, '-' :: rest)
      | '-' :: _ => (flags.itemClass? first).map fun cls => (cls, '-' :: rest)
      | cs =>
        match flags.readItem cs with
        | none => none
        | some (second, rest) => (flags.rangeClass? first second).map fun cls => (cls, rest)
    | rest => (flags.itemClass? first).map fun cls => (cls, rest)

/-- The rest of a bracketed class, with the classes around it that are still open. -/
def Flags.readSet (flags : Flags) : (fuel : Nat) → OpenSet → List OpenSet → List Char →
    Option (CharClass × List Char)
  | 0, _, _, _ => none
  | fuel + 1, s, outer, cs =>
    match flags.skip cs with
    | [] => none
    | '[' :: rest =>
      match flags.readPosix? rest with
      | some (cls, rest) => flags.readSet fuel (s.add cls) outer rest
      | none =>
        let (inner, rest) := flags.openSet rest
        flags.readSet fuel inner (s :: outer) rest
    | ']' :: rest =>
      match outer with
      | [] => some (s.close flags, rest)
      | around :: outer => flags.readSet fuel (around.add (s.close flags)) outer rest
    | '&' :: '&' :: rest => flags.readSet fuel (s.operate flags .inter) outer rest
    | '-' :: '-' :: rest => flags.readSet fuel (s.operate flags .diff) outer rest
    | '~' :: '~' :: rest => flags.readSet fuel (s.operate flags .symmDiff) outer rest
    | cs =>
      match flags.readRange cs with
      | some (cls, rest) => flags.readSet fuel (s.add cls) outer rest
      | none => none

/-! ## Quantifiers -/

/-- The digits of a number, with blanks and comments among them if those mean nothing. -/
def Flags.digits (flags : Flags) : (inComment : Bool) → List Char → List Char × List Char
  | _, [] => ([], [])
  | true, c :: rest => flags.digits (c != '\n') rest
  | false, c :: rest =>
    if c.isDigit then
      let (ds, rest) := flags.digits false rest
      (c :: ds, rest)
    else if flags.spaced && isBlank c then flags.digits false rest
    else if flags.spaced && c == '#' then flags.digits true rest
    else ([], c :: rest)

/-- A number below 2 to the 32nd, with blanks around it. -/
def Flags.readCount (flags : Flags) (cs : List Char) : Option (Nat × List Char) :=
  let (ds, rest) := flags.digits false (cs.dropWhile isBlank)
  (Text.decimalBelow? UInt32.size ds).map fun n => (n, flags.skip (rest.dropWhile isBlank))

/-- The bounds of a counted repetition; `cs` is the text after the brace. -/
def Flags.readBounds (flags : Flags) (cs : List Char) : Option (Nat × Option Nat × List Char) :=
  match flags.readCount (flags.skip cs) with
  | none => none
  | some (lo, rest) =>
    match rest with
    | '\x7d' :: rest => some (lo, some lo, rest)
    | ',' :: rest =>
      match flags.skip rest with
      | '\x7d' :: rest => some (lo, none, rest)
      | cs =>
        match flags.readCount cs with
        | some (hi, '\x7d' :: rest) => if lo ≤ hi then some (lo, some hi, rest) else none
        | _ => none
    | _ => none

/-! ## The expression -/

/-- A group that is open, with what was read before it in the group around. -/
structure OpenGroup where
  /-- The number of the group, if it captures. -/
  index : Option Nat
  /-- The flags to return to. -/
  flags : Flags
  branches : List (Node Leaf)
  items : List (Option (Node Leaf))
deriving Repr

/-- The state of the reader: the flags in force, the number of groups opened so far and their
names, the groups that are open, and the finished branches and the items of the current branch of
the innermost one, both the latest first.  An item is `none` where flags were set: such a place
cannot be repeated. -/
structure Reading where
  flags : Flags := {}
  groups : Nat := 0
  names : List (List Char) := []
  outer : List OpenGroup := []
  branches : List (Node Leaf) := []
  items : List (Option (Node Leaf)) := []
deriving Repr

namespace Reading

/-- Adds an item to the current branch. -/
def push (st : Reading) (node : Node Leaf) : Reading :=
  { st with items := some node :: st.items }

/-- The current branch. -/
def branch (st : Reading) : Node Leaf :=
  Node.sequence (st.items.reverse.filterMap id)

/-- The expression of the innermost group. -/
def expression (st : Reading) : Node Leaf :=
  Node.choice (st.branch :: st.branches).reverse

/-- Begins another branch. -/
def nextBranch (st : Reading) : Reading :=
  { st with branches := st.branch :: st.branches, items := [] }

/-- Opens a group. -/
def enter (st : Reading) (index : Option Nat) (flags : Flags) : Reading :=
  { st with
    flags := flags
    groups := match index with | some i => i | none => st.groups
    outer := ⟨index, st.flags, st.branches, st.items⟩ :: st.outer
    branches := []
    items := [] }

/-- Closes the innermost group. -/
def leave? (st : Reading) : Option Reading :=
  match st.outer with
  | [] => none
  | around :: outer =>
    let node := match around.index with
      | some i => Node.group i st.expression
      | none => st.expression
    some { st with
      flags := around.flags
      outer := outer
      branches := around.branches
      items := some node :: around.items }

/-- Repeats the last item. -/
def repeatLast? (st : Reading) (lazy : Bool) (lo : Nat) (hi : Option Nat) : Option Reading :=
  match st.items with
  | some node :: items =>
    let greedy := st.flags.swapGreed == lazy
    some { st with items := some (node.repeated greedy lo hi) :: items }
  | _ => none

/-- A quantifier of one character, with the question mark that may follow at once. -/
def quantify? (st : Reading) (lo : Nat) (hi : Option Nat) (cs : List Char) :
    Option (Reading × List Char) :=
  match cs with
  | '?' :: rest => (st.repeatLast? true lo hi).map fun st => (st, rest)
  | cs => (st.repeatLast? false lo hi).map fun st => (st, cs)

/-- A counted repetition; `cs` is the text after the brace. -/
def count? (st : Reading) (cs : List Char) : Option (Reading × List Char) :=
  match st.flags.readBounds cs with
  | some (lo, hi, rest) => st.quantify? lo hi (st.flags.skip rest)
  | none => none

/-- May this character stand in the name of a group? -/
def isNameChar (first : Bool) (c : Char) : Bool :=
  let alphabetic := match namedClass? "Alphabetic".toList with
    | some cls => cls.has c.toNat
    | none => false
  let numeric := match namedClass? ['N'] with
    | some cls => cls.has c.toNat
    | none => false
  if first then c == '_' || alphabetic
  else c == '_' || c == '.' || c == '[' || c == ']' || alphabetic || numeric

/-- Opens a group with a name; `cs` is the text after the angle bracket. -/
def enterNamed? (st : Reading) (cs : List Char) : Option (Reading × List Char) :=
  match splitAtFirst? ['>'] cs with
  | some (first :: others, rest) =>
    let name := first :: others
    if isNameChar true first && others.all (isNameChar false) && !st.names.contains name then
      some ({ st.enter (some (st.groups + 1)) st.flags with names := name :: st.names }, rest)
    else none
  | _ => none

/-- What begins with a parenthesis; `cs` is the text after it: a group that captures, with or
without a name, a group that does not, or a flag setting. -/
def enter? (st : Reading) (cs : List Char) : Option (Reading × List Char) :=
  match st.flags.skip cs with
  | '?' :: 'P' :: '<' :: rest => st.enterNamed? rest
  | '?' :: '<' :: rest => st.enterNamed? rest
  | '?' :: rest =>
    match st.flags.read [] false rest with
    | some (flags, seen, stop, rest) =>
      if stop == ':' then some (st.enter none flags, rest)
      else if seen.isEmpty then none
      else some ({ st with flags := flags, items := none :: st.items }, rest)
    | none => none
  | rest => some (st.enter (some (st.groups + 1)) st.flags, rest)

/-- Reads the next part of the pattern, which begins with `c`. -/
def step? (st : Reading) (c : Char) (rest : List Char) : Option (Reading × List Char) :=
  match c with
  | '(' => st.enter? rest
  | ')' => st.leave?.map fun st => (st, rest)
  | '|' => some (st.nextBranch, rest)
  | '[' =>
    let (s, rest) := st.flags.openSet rest
    match st.flags.readSet (rest.length + 1) s [] rest with
    | some (cls, rest) => (st.flags.classNode? cls).map fun node => (st.push node, rest)
    | none => none
  | '?' => st.quantify? 0 (some 1) rest
  | '*' => st.quantify? 0 none rest
  | '+' => st.quantify? 1 none rest
  | '\x7b' => st.count? rest
  | '\\' =>
    match st.flags.readEscape rest with
    | some (prim, rest) => (st.flags.primitiveNode? prim).map fun node => (st.push node, rest)
    | none => none
  | '.' => st.flags.dotNode?.map fun node => (st.push node, rest)
  | '^' => some (st.push (.leaf (.look st.flags.startLook)), rest)
  | '$' => some (st.push (.leaf (.look st.flags.endLook)), rest)
  | c => (st.flags.primitiveNode? (.literal c false)).map fun node => (st.push node, rest)

/-- Reads the rest of the pattern.  Every part takes at least one character. -/
def run : (fuel : Nat) → Reading → List Char → Option (Node Leaf)
  | 0, _, _ => none
  | fuel + 1, st, cs =>
    match st.flags.skip cs with
    | [] => if st.outer.isEmpty then some st.expression else none
    | c :: rest =>
      match st.step? c rest with
      | some (st, rest) => run fuel st rest
      | none => none

end Reading

/-- The tree of a pattern. -/
def Node.ofPattern? (pattern : List Char) : Option (Node Leaf) :=
  Reading.run (pattern.length + 1) {} pattern

end PullTriage.Regex
