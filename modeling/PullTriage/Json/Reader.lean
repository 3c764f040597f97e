import PullTriage.Json.Token

/-!
# Reading a JSON text

The tokens are read from left to right with a stack of the arrays and objects that are open, so the
depth of a text has no limit.  `Json.ofBytes?` is `none` exactly when the bytes are not one value
with white space around it.
-/

namespace PullTriage

namespace Json

/-- An array or object that is open: what it holds so far, the latest first, and for an object the
key of the member that is being read. -/
inductive Open where
  | array (items : List Json)
  | object (members : List (Option String × Json)) (key : Option String)

/-- What may come next. -/
inductive Expected where
  | value
  /-- A value, or the end of an array that has just begun. -/
  | firstItem
  /-- A key, or the end of an object that has just begun. -/
  | firstKey
  /-- A key, after the comma that follows some members. -/
  | key (members : List (Option String × Json))
  /-- The colon after a key. -/
  | colon (members : List (Option String × Json)) (key : Option String)
  /-- What follows a value that is complete. -/
  | after (done : Json)

/-- The state of the reader. -/
abbrev Reading := List Open × Expected

/-- The scalar that a token is. -/
def Token.scalar? : Token → Option Json
  | null => some .null
  | bool value => some (.bool value)
  | number lexeme => some (.number lexeme)
  | string content => some (.string content)
  | _ => none

/-- A value begins with a token. -/
def beginValue? (stack : List Open) : Token → Option Reading
  | .beginArray => some (.array [] :: stack, .firstItem)
  | .beginObject => some (stack, .firstKey)
  | t => t.scalar?.map fun v => (stack, .after v)

/-- Reads one token. -/
def step? : Reading → Token → Option Reading
  | (stack, .value), t => beginValue? stack t
  | (.array items :: stack, .firstItem), .endArray => some (stack, .after (.array items))
  | (stack, .firstItem), t => beginValue? stack t
  | (stack, .firstKey), .endObject => some (stack, .after (.object []))
  | (stack, .firstKey), .string key => some (stack, .colon [] key)
  | (stack, .key members), .string key => some (stack, .colon members key)
  | (stack, .colon members key), .colon => some (.object members key :: stack, .value)
  | (.array items :: stack, .after done), .comma => some (.array (done :: items) :: stack, .value)
  | (.array items :: stack, .after done), .endArray =>
    some (stack, .after (.array (done :: items).reverse))
  | (.object members key :: stack, .after done), .comma =>
    some (stack, .key ((key, done) :: members))
  | (.object members key :: stack, .after done), .endObject =>
    some (stack, .after (.object ((key, done) :: members).reverse))
  | _, _ => none

/-- The value that some tokens write. -/
def ofTokens? (tokens : List Token) : Option Json :=
  match tokens.foldlM step? ([], .value) with
  | some ([], .after done) => some done
  | _ => none

/-- The value that a text writes. -/
def ofString? (text : String) : Option Json :=
  (tokens? (text.toList.map some)).bind ofTokens?

/-- The value that the bytes of a text write. -/
def ofBytes? (bytes : ByteArray) : Option Json :=
  (tokens? (Text.symbols bytes)).bind ofTokens?

end Json

end PullTriage
