import PullTriage.Forge.Basic
import PullTriage.Http.Client
import PullTriage.Json.Printer
import PullTriage.Json.Reader
import PullTriage.RepoSlug
import PullTriage.Text.Base64
import PullTriage.Text.Utf8

/-!
# GitHub as a forge

Each call is one request to the REST interface and the decoding of its response.

| call                              | request                                            |
|-----------------------------------|----------------------------------------------------|
| `getPullRequest n`                | `GET /repos/{owner}/{name}/pulls/{n}`               |
| `compare base head`               | `GET /repos/{owner}/{name}/compare/{base}...{head}` |
| `readTextFile path`               | `GET /repos/{owner}/{name}/contents/{path}`         |
| `createComment n body`            | `POST /repos/{owner}/{name}/issues/{n}/comments`    |
| `addLabels n labels`              | `POST /repos/{owner}/{name}/issues/{n}/labels`      |

The token goes into the `authorization` header and nowhere else.  Without a token that can stand
there no request is sent.  Nothing is retried.

What the readers of addresses, of JSON, of Base64 and of UTF-8 say where they fail is part of the
messages, and it is theirs: it comes from the client and with the response.
-/

namespace PullTriage

/-- Access to one repository: the client that it goes through, the token, the repository, and the
address of the interface. -/
structure GitHubForge where
  client : Http.Client
  token : String
  slug : RepoSlug
  apiBase : String

namespace GitHubForge

def name : String := "github"

/-- The address of the public interface. -/
def defaultApiBase : String :=
  "https://api.github.com"

/-- The text without the slashes at its end. -/
def trimSlashes (text : String) : String :=
  String.ofList (text.toList.reverse.dropWhile (· == '/')).reverse

/-- Access at an address; slashes at its end do not count. -/
def withApiBase (client : Http.Client) (token : String) (slug : RepoSlug) (apiBase : String) :
    GitHubForge :=
  ⟨client, token, slug, trimSlashes apiBase⟩

/-- Access at the public address. -/
def new (client : Http.Client) (token : String) (slug : RepoSlug) : GitHubForge :=
  withApiBase client token slug defaultApiBase

/-- A description for diagnostics, which does not show the token. -/
def describe (forge : GitHubForge) : String :=
  "GitHubForge \x7b has_token: " ++ (if forge.token.isEmpty then "false" else "true") ++ ", slug: "
    ++ forge.slug.describe ++ ", api_base: " ++ Text.quoted forge.apiBase ++ " \x7d"

/-! ## Requests -/

/-- The value of the header that carries the token. -/
def authorization (forge : GitHubForge) : Except ForgeError String :=
  let value := "Bearer " ++ forge.token
  if forge.token.isEmpty then .error .authRequired
  else if Http.isHeaderValue value then .ok value
  else .error (.authFailed "token contains invalid characters")

/-- The path of a call below that of the repository. -/
def endpoint : ForgeCall → String
  | .getPullRequest number => "pulls/" ++ toString number
  | .compare base head => "compare/" ++ base ++ "..." ++ head
  | .readTextFile path => "contents/" ++ String.ofList (path.toList.dropWhile (· == '/'))
  | .createComment number _ => "issues/" ++ toString number ++ "/comments"
  | .addLabels number _ => "issues/" ++ toString number ++ "/labels"

/-- The body of the request for a call, if it has one. -/
def payload? : ForgeCall → Option Json
  | .createComment _ body => some (Json.ofMembers [("body", .text body)])
  | .addLabels _ labels => some (Json.ofMembers [("labels", Json.ofTexts labels)])
  | _ => none

/-- The address of a call. -/
def address (forge : GitHubForge) (call : ForgeCall) : String :=
  forge.apiBase ++ "/repos/" ++ forge.slug.owner ++ "/" ++ forge.slug.name ++ "/" ++ endpoint call

/-- The headers of a request. -/
def headers (authorization : String) (hasBody : Bool) : List Http.Header :=
  [⟨"authorization", authorization⟩, ⟨"accept", "application/vnd.github+json"⟩,
    ⟨"user-agent", "prsieve"⟩, ⟨"x-github-api-version", "2022-11-28"⟩]
    ++ (if hasBody then [⟨"content-type", "application/json"⟩] else [])

/-- The request for a call. -/
def request (forge : GitHubForge) (call : ForgeCall) : Except ForgeError Http.Request := do
  let authorization ← forge.authorization
  match Url.parse? forge.client.asciiName? (forge.address call) with
  | none => throw (.networkError (forge.client.notUrl (forge.address call)))
  | some url =>
    let payload := payload? call
    return {
      method := if payload.isSome then .post else .get
      url := url
      headers := headers authorization payload.isSome
      body := payload.map Json.print }

/-! ## Responses -/

/-- The message of an error response, if its body has one. -/
def errorMessage (body : ByteArray) : String :=
  let message : Option String := do
    let v ← Json.ofBytes? body
    let members ← Json.members? { fields := [⟨"message", false⟩] } v
    members.required "message" Json.text?
  message.getD "Unknown error"

/-- Does the text occur in the other one? -/
def occursIn (part : List Char) : List Char → Bool
  | [] => part.isEmpty
  | c :: rest => part.isPrefixOf (c :: rest) || occursIn part rest

/-- Does a message speak of the rate limit?  Case does not matter. -/
def speaksOfRateLimit (message : String) : Bool :=
  occursIn "rate limit".toList (message.toList.map Char.toLower)

/-- The permissions that an error response says are missing. -/
def requiredPermissions (response : Http.Response) : String :=
  match response.header? "x-accepted-github-permissions" with
  | some value =>
    if value.isEmpty || !Http.isVisible value then "" else " [required: " ++ value ++ "]"
  | none => ""

/-- The error that a response reports. -/
def errorOf (response : Http.Response) : ForgeError :=
  let message := errorMessage response.body
  match response.status with
  | 401 => .authFailed "Invalid or expired token"
  | 403 =>
    if speaksOfRateLimit message then .rateLimited
    else .authFailed ("Permission denied: " ++ message ++ requiredPermissions response)
  | 404 => .notFound message
  | 429 => .rateLimited
  | status =>
    if 500 ≤ status ∧ status < 600 then .apiError status ("GitHub server error: " ++ message)
    else .apiError status message

/-- The name and revision of a branch of a pull request. -/
def branch? (v : Json) : Option (String × String) := do
  let members ← Json.members? { fields := [⟨"ref", false⟩, ⟨"sha", false⟩] } v
  let name ← members.required "ref" Json.text?
  let sha ← members.required "sha" Json.text?
  return (name, sha)

/-- A pull request. -/
def pullRequest? (v : Json) : Option PullRequest := do
  let form : Json.Form :=
    { fields := [⟨"number", false⟩, ⟨"body", false⟩, ⟨"base", false⟩, ⟨"head", false⟩] }
  let members ← Json.members? form v
  let number ← members.required "number" Json.natural?
  let body ← members.optional "body" Json.text?
  let base ← members.required "base" branch?
  let head ← members.required "head" branch?
  return { number := number, body := body, baseRef := base.1, baseSha := base.2, headSha := head.2 }

/-- The files of a comparison. -/
def files? (v : Json) : Option (List ChangedFile) := do
  let members ← Json.members? { fields := [⟨"files", true⟩] } v
  members.getD "files" (Json.list? ChangedFile.ofJson?) []

/-- The content of a file and its encoding. -/
def contents? (v : Json) : Option (Option String × Option String) := do
  let members ← Json.members? { fields := [⟨"content", false⟩, ⟨"encoding", false⟩] } v
  let content ← members.optional "content" Json.text?
  let encoding ← members.optional "encoding" Json.text?
  return (content, encoding)

/-- The text that encoded content stands for.  White space in the content does not count.  If there
is none, then `fault` is what the decoder says. -/
def decodeContent (fault content : String) : Except ForgeError String :=
  match Base64.decode? (content.toList.filter fun c => !Unicode.isBlank c) with
  | none => .error (.decode ("invalid base64 content: " ++ fault))
  | some bytes =>
    match Text.decode? (ByteArray.mk bytes.toArray) with
    | none => .error (.decode ("file is not UTF-8: " ++ fault))
    | some text => .ok text

/-- The text of a file by its content and encoding. -/
def decodeFile (fault : String) : Option String × Option String → Except ForgeError String
  | (none, _) => .error (.decode "path is not a file")
  | (some content, none) => decodeContent fault content
  | (some content, some encoding) =>
    if encoding = "base64" then decodeContent fault content
    else .error (.decode ("unsupported content encoding '" ++ encoding ++ "'"))

/-- A value that could not be decoded is an error. -/
def orUnparsable {α : Type} (fault : String) : Option α → Except ForgeError α
  | some a => .ok a
  | none => .error (.decode ("failed to parse response: " ++ fault))

/-- The answer in the body of a response. -/
def answer (response : Http.Response) : (call : ForgeCall) → call.Reply
  | .getPullRequest _ =>
    orUnparsable response.fault ((Json.ofBytes? response.body).bind pullRequest?)
  | .compare .. => orUnparsable response.fault ((Json.ofBytes? response.body).bind files?)
  | .readTextFile _ =>
    (orUnparsable response.fault ((Json.ofBytes? response.body).bind contents?)).bind
      (decodeFile response.fault)
  | .createComment .. => orUnparsable response.fault ((Json.ofBytes? response.body).map fun _ => ())
  | .addLabels .. => orUnparsable response.fault ((Json.ofBytes? response.body).map fun _ => ())

/-- The reply that a response gives to a call. -/
def reply (call : ForgeCall) (response : Http.Response) : call.Reply :=
  if response.isSuccess then answer response call else .error (errorOf response)

/-- Performs a call.  Sending a request gives a response, or what is said of the connection that
failed. -/
def perform {m : Type → Type} [Monad m] (send : Http.Request → m (Except String Http.Response))
    (forge : GitHubForge) (call : ForgeCall) : m call.Reply :=
  match forge.request call with
  | .error e => return .error e
  | .ok request => do
    match ← send request with
    | .ok response => return reply call response
    | .error fault => return .error (.networkError fault)

end GitHubForge

end PullTriage
