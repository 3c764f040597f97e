import PullTriage.Http.Host

/-!
# Addresses

The parts of an `http` or `https` URL that a client needs: where to connect, and the target of the
request line.  Reading follows the URL standard.  White space around the text and line breaks within
it do not count, a backslash is as good as a slash, user names are passed over, and dot segments are
resolved before anything is sent.  Characters that may not stand in a path or a query are percent
encoded; what is encoded already stays as it is.
-/

namespace PullTriage

/-- A URL: where to connect, and what to ask for.  The path is a list of encoded segments, which a
slash precedes each.  The fragment is not sent. -/
structure Url where
  scheme : List Char
  host : List Char
  port : Option Nat
  path : List (List Char)
  query : Option (List Char)
  fragment : Option (List Char)
deriving Repr, DecidableEq

namespace Url

/-! ## Characters -/

/-- Is the character printable ASCII, and not a space? -/
def isGraphic (c : Char) : Bool :=
  0x20 < c.toNat && c.toNat < 0x7F

/-- May the character stand in a path? -/
def isPathChar (c : Char) : Bool :=
  isGraphic c && !(['"', '#', '<', '>', '?', '^', '\x60', '\x7b', '\x7d'].contains c)

/-- May the character stand in a query? -/
def isQueryChar (c : Char) : Bool :=
  isGraphic c && !(['"', '#', '<', '>', '\''].contains c)

/-- May the character stand in a fragment? -/
def isFragmentChar (c : Char) : Bool :=
  isGraphic c && !(['"', '<', '>', '\x60'].contains c)

/-! ## Paths -/

/-- Is the character a slash of either kind? -/
def isSlash (c : Char) : Bool :=
  c == '/' || c == '\\'

/-- The dots of a segment: each written as a dot or as `%2e`.  `none` if there is anything else. -/
def dots? : List Char → Option Nat
  | [] => some 0
  | '.' :: rest => (dots? rest).map (· + 1)
  | '%' :: '2' :: e :: rest => if e == 'e' || e == 'E' then (dots? rest).map (· + 1) else none
  | _ => none

/-- Resolves the segments that stand for this place and for the one above.  `done` are the segments
before, the latest first. -/
def resolve (done : List (List Char)) : List (List Char) → List (List Char)
  | [] => done.reverse
  | s :: rest =>
    let here := match dots? s with
      | some 1 => if rest.isEmpty then [] :: done else done
      | some 2 => if rest.isEmpty then [] :: done.tail else done.tail
      | _ => s :: done
    resolve here rest

/-- The segments of a path as it is written after the host. -/
def segments (path : List Char) : List (List Char) :=
  let rest := match path with
    | c :: rest => if isSlash c then rest else path
    | [] => []
  resolve [] ((rest.splitOnP isSlash).map (encodeWith isPathChar))

/-! ## Reading -/

/-- Is the character a control or a space? -/
def isControlOrSpace (c : Char) : Bool :=
  c.toNat ≤ 0x20

/-- The text without white space and controls around it and without line breaks and tabs in it. -/
def strip (text : List Char) : List Char :=
  ((text.dropWhile isControlOrSpace).reverse.dropWhile isControlOrSpace).reverse.filter
    fun c => c != '\t' && c != '\n' && c != '\r'

/-- Does the character end the host and what stands with it? -/
def endsAuthority (c : Char) : Bool :=
  isSlash c || c == '?' || c == '#'

/-- The host and the text after it; a host in brackets may have colons in it. -/
def splitHost (inBrackets : Bool) : List Char → List Char × List Char
  | [] => ([], [])
  | c :: rest =>
    if c == ':' && !inBrackets then ([], c :: rest)
    else
      let (host, tail) := splitHost (if c == '[' then true else if c == ']' then false
        else inBrackets) rest
      (c :: host, tail)

/-- The port after a host: nothing, or a colon and a number below 65536. -/
def port? : List Char → Option (Option Nat)
  | [] => some none
  | c :: digits =>
    if c != ':' then none
    else if digits.isEmpty then some none
    else (Text.decimalBelow? 65536 digits).map some

/-- The URL with this text for its path, its query and its fragment. -/
def withTarget (url : Url) (text : List Char) : Url :=
  let visible := text.takeWhile (· != '#')
  { url with
    path := segments (visible.takeWhile (· != '?'))
    query := match visible.dropWhile (· != '?') with
      | _ :: query => some (encodeWith isQueryChar query)
      | [] => none
    fragment := match text.dropWhile (· != '#') with
      | _ :: fragment => some (encodeWith isFragmentChar fragment)
      | [] => none }

section Reading

variable (asciiName? : List Char → Option (List Char))

/-- Reads the text after the scheme. -/
def afterScheme? (scheme text : List Char) : Option Url := do
  let rest := text.dropWhile isSlash
  let authority := rest.takeWhile fun c => !endsAuthority c
  let (hostText, portText) := splitHost false ((authority.splitOn '@').getLastD [])
  let port ← port? portText
  let host ← readHost? asciiName? hostText
  let site : Url :=
    { scheme := scheme, host := host, port := port, path := [], query := none, fragment := none }
  return site.withTarget (rest.dropWhile fun c => !endsAuthority c)

/-- Reads a URL with one of the two schemes. -/
def parse? (text : String) : Option Url :=
  let cs := strip text.toList
  let scheme := (cs.takeWhile (· != ':')).map Char.toLower
  match cs.dropWhile (· != ':') with
  | _ :: rest =>
    if scheme = "http".toList ∨ scheme = "https".toList then afterScheme? asciiName? scheme rest
    else none
  | [] => none

end Reading

/-! ## Writing -/

/-- The path as one text. -/
def pathText (url : Url) : List Char :=
  url.path.flatMap ('/' :: ·)

/-- What a request asks for: the path and the query. -/
def target (url : Url) : String :=
  String.ofList (url.pathText ++ match url.query with
    | some query => '?' :: query
    | none => [])

/-- The port that a scheme stands for. -/
def defaultPort (scheme : List Char) : Nat :=
  if scheme = "https".toList then 443 else 80

/-- The whole URL, without a port that its scheme stands for. -/
def text (url : Url) : List Char :=
  let port := match url.port with
    | some port => if port = defaultPort url.scheme then [] else ':' :: Nat.toDigits 10 port
    | none => []
  let fragment := match url.fragment with
    | some fragment => '#' :: fragment
    | none => []
  url.scheme ++ "://".toList ++ url.host ++ port ++ url.target.toList ++ fragment

end Url

end PullTriage
