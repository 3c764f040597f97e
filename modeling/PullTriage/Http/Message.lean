import PullTriage.Http.Url

/-!
# Requests and responses

What a client sends and what it gets back.  The transport between the two is not part of the
library: it is a function that answers a request, or says why the connection failed.
-/

namespace PullTriage.Http

/-- The methods that are used. -/
inductive Method where
  | get
  | post
deriving Repr, DecidableEq

/-- The name of a method. -/
def Method.name : Method → String
  | get => "GET"
  | post => "POST"

/-- A header: its name in lower case, and its value. -/
structure Header where
  name : String
  value : String
deriving Repr, DecidableEq

/-- A request. -/
structure Request where
  method : Method
  url : Url
  headers : List Header
  body : Option String
deriving Repr, DecidableEq

/-- A response.  Whoever reads the body may find a fault with it; which words there are for that is
not laid down here, so they come with the response. -/
structure Response where
  status : Nat
  headers : List Header
  body : ByteArray
  fault : String

/-- The value of the first header with this name, which is in lower case. -/
def Response.header? (response : Response) (name : String) : Option String :=
  (response.headers.find? fun h => h.name.map Char.toLower == name).map (·.value)

/-- Does the status say that all went well? -/
def Response.isSuccess (response : Response) : Bool :=
  200 ≤ response.status && response.status < 300

/-- May the text be the value of a header?  Controls may not, the tab apart. -/
def isHeaderValue (text : String) : Bool :=
  text.toList.all fun c => c == '\t' || (0x20 ≤ c.toNat && c.toNat != 0x7F)

/-- Is the text printable ASCII? -/
def isVisible (text : String) : Bool :=
  text.toList.all fun c => c == '\t' || (0x20 ≤ c.toNat && c.toNat < 0x7F)

end PullTriage.Http
