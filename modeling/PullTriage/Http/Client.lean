import PullTriage.Http.Message

/-!
# Clients

A client is a library that speaks HTTP for a program.  It reads addresses, it refuses to send what
cannot stand in a request line, and it follows redirects, ten of them at most.  Which response
redirects a request, and what the next request is, is the client's own affair, and so are its words
for what goes wrong.
-/

namespace PullTriage.Http

/-- What a program relies on its client for. -/
structure Client where
  /-- The name of a host in ASCII, if the name has other characters or stands for them. -/
  asciiName? : List Char → Option (List Char)
  /-- The request that a response redirects a request to. -/
  redirected? : Request → Response → Option Request
  /-- What is said of an address that is no URL. -/
  notUrl : String → String
  /-- What is said of a request that cannot be sent. -/
  notSendable : Request → String
  /-- What is said of a request whose response is one redirect too many. -/
  tooManyRedirects : Request → String

/-- The length of the longest URL that is sent.  A URL is ASCII, so this is in bytes. -/
def longestUrl : Nat := 65534

/-- Can the request be sent?  Its URL must not be too long, and there are hosts by the URL standard
that cannot stand in a request. -/
def Request.isSendable (request : Request) : Bool :=
  (request.url.scheme == "http".toList || request.url.scheme == "https".toList)
    && request.url.text.length ≤ longestUrl
    && request.url.host.all fun c => !(['"', '\x60', '\x7b', '\x7d'].contains c)

namespace Client

variable {m : Type → Type} [Monad m]

/-- Sends a request and goes on with the one that it is redirected to, if it is. -/
def attempt (client : Client) (send : Request → m (Except String Response)) (request : Request)
    (goOn : Request → m (Except String Response)) : m (Except String Response) :=
  if request.isSendable then do
    match ← send request with
    | .error fault => return .error fault
    | .ok response =>
      match client.redirected? request response with
      | some next => goOn next
      | none => return .ok response
  else return .error (client.notSendable request)

/-- Sends a request and follows so many redirects. -/
def follow (client : Client) (send : Request → m (Except String Response)) :
    (redirects : Nat) → Request → m (Except String Response)
  | 0, request =>
    client.attempt send request fun _ => return .error (client.tooManyRedirects request)
  | redirects + 1, request => client.attempt send request (client.follow send redirects)

/-- How many redirects are followed. -/
def mostRedirects : Nat := 10

/-- Sends a request and follows the redirects. -/
def send (client : Client) (send : Request → m (Except String Response)) (request : Request) :
    m (Except String Response) :=
  client.follow send mostRedirects request

end Client

/-! ## A plain client -/

/-- The request for another place that a redirect with this status asks for.  What authorizes a
request is not shown to another host. -/
def Request.redirectedTo (request : Request) (status : Nat) (url : Url) : Request :=
  let sameHost := url.host = request.url.host ∧
    url.port.getD (Url.defaultPort url.scheme) =
      request.url.port.getD (Url.defaultPort request.url.scheme)
  let headers := request.headers.filter fun header => header.name ≠ "authorization" ∨ sameHost
  if status = 307 ∨ status = 308 then { request with url := url, headers := headers }
  else
    { method := .get
      url := url
      headers := headers.filter fun header => header.name ≠ "content-type"
      body := none }

/-- A client that knows names in ASCII, and follows a response to a whole address. -/
def Client.plain : Client where
  asciiName? _ := none
  redirected? request response :=
    if response.status ∈ [301, 302, 303, 307, 308] then do
      let location ← response.header? "location"
      let url ← Url.parse? (fun _ => none) location
      return request.redirectedTo response.status url
    else none
  notUrl _ := "builder error"
  notSendable _ := "builder error"
  tooManyRedirects _ := "error following redirect"

end PullTriage.Http
