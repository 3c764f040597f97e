import PullTriage.Proofs.Triage.OverGitHub

/-!
# The token stays in its header

Two accesses to one repository that differ in the token cannot be told apart but by the
authorization of their requests, as long as both tokens can be sent.  This is a statement about two
runs: if the server does not look at the authorization (`Http.Server.IsBlind`), then the replies to
one call are the same, and after the call the requests that were sent are still the same but for the
authorization (`perform_agrees_of_isBlind`).  Both are carried through any program, however its
calls depend on earlier replies (`run_agrees_of_isBlind`), and so through whatever is done with a
forge, triage included (`session_agrees`).
-/

namespace PullTriage

/-! ## Two runs of one program -/

namespace ForgeProgram

variable {α σ τ : Type}

/-- Two forges that reply alike in states that are related, and keep the states related, give the
same result to every program. -/
theorem run_agrees {perform : (c : ForgeCall) → StateM σ c.Reply}
    {perform' : (c : ForgeCall) → StateM τ c.Reply} {Related : σ → τ → Prop}
    (step : ∀ c state state', Related state state' →
      (perform c state).1 = (perform' c state').1 ∧
        Related (perform c state).2 (perform' c state').2)
    (program : ForgeProgram α) {state : σ} {state' : τ} (related : Related state state') :
    (program.run perform state).1 = (program.run perform' state').1 ∧
      Related (program.run perform state).2 (program.run perform' state').2 := by
  induction program generalizing state state' with
  | done result => exact ⟨rfl, related⟩
  | call c next ih =>
    obtain ⟨hreply, hstates⟩ := step c state state' related
    have rest := ih (perform c state).1 hstates
    -- The second run goes on with its own reply, which is the reply of the first one.
    have same : (next (perform c state).1).run perform' (perform' c state').2 =
        (next (perform' c state').1).run perform' (perform' c state').2 := by
      rw [hreply]
    rw [same] at rest
    exact rest

end ForgeProgram

/-! ## Requests without what authorizes them -/

namespace Http

/-- The header, without its value if it is the authorization. -/
def Header.redacted (header : Header) : Header :=
  if header.name = "authorization" then { header with value := "" } else header

/-- The request, without the value of its authorization. -/
def Request.redacted (request : Request) : Request :=
  { request with headers := request.headers.map Header.redacted }

/-- What was sent is the same but for the authorization. -/
def SentAlike (sent sent' : List Request) : Prop :=
  sent.map Request.redacted = sent'.map Request.redacted

/-- The server does not look at the authorization, not even at that of earlier requests. -/
def Server.IsBlind (server : Server) : Prop :=
  ∀ sent sent' : List Request, ∀ request request' : Request,
    SentAlike sent sent' → request.redacted = request'.redacted →
      server sent request = server sent' request'

/-- A server with canned responses, which depend on the method and the address of a request. -/
def Server.canned (responses : Method → Url → Except String Response) : Server := fun _ request =>
  responses request.method request.url

lemma Server.isBlind_canned (responses : Method → Url → Except String Response) :
    (canned responses).IsBlind := by
  intro sent sent' request request' _ hrequest
  have method : request.method = request'.method := congrArg (·.method) hrequest
  have url : request.url = request'.url := congrArg (·.url) hrequest
  rw [canned, canned, method, url]

end Http

namespace GitHubForge

/-! ## One call -/

/-- The token is not empty, and it may stand in the value of a header. -/
structure IsToken (token : String) : Prop where
  ne_empty : token ≠ ""
  isHeaderValue : Http.isHeaderValue token = true

variable {client : Http.Client} {token token' : String} {slug : RepoSlug} {apiBase : String}
  {server : Http.Server}

lemma IsToken.isEmpty_eq_false (h : IsToken token) : token.isEmpty = false := by
  simpa [String.isEmpty_iff] using h.ne_empty

lemma IsToken.authorization_eq (h : IsToken token) (client : Http.Client) (slug : RepoSlug)
    (apiBase : String) :
    (withApiBase client token slug apiBase).authorization = .ok ("Bearer " ++ token) :=
  authorization_eq_ok h.ne_empty h.isHeaderValue

/-- The headers of a request are the same for every token but for the authorization. -/
lemma redacted_headers (value value' : String) (hasBody : Bool) :
    (headers value hasBody).map Http.Header.redacted =
      (headers value' hasBody).map Http.Header.redacted := by
  cases hasBody <;> rfl

/-- Two accesses fail to make the request in the same way, or make it but for the authorization. -/
lemma request_agrees (h : IsToken token) (h' : IsToken token') (client : Http.Client)
    (slug : RepoSlug) (apiBase : String) (call : ForgeCall) :
    (∃ cause, (withApiBase client token slug apiBase).request call = .error cause ∧
        (withApiBase client token' slug apiBase).request call = .error cause) ∨
      ∃ request request', (withApiBase client token slug apiBase).request call = .ok request ∧
        (withApiBase client token' slug apiBase).request call = .ok request' ∧
        request.redacted = request'.redacted := by
  have address : (withApiBase client token slug apiBase).address call =
      (withApiBase client token' slug apiBase).address call := rfl
  have authorization := h.authorization_eq client slug apiBase
  have authorization' := h'.authorization_eq client slug apiBase
  have sameClient : (withApiBase client token slug apiBase).client =
      (withApiBase client token' slug apiBase).client := rfl
  cases hparse : Url.parse? (withApiBase client token' slug apiBase).client.asciiName?
      ((withApiBase client token' slug apiBase).address call) with
  | none =>
    refine .inl ⟨_, ?_, request_of_no_url authorization' hparse⟩
    rw [← sameClient, ← address] at hparse
    exact request_of_no_url authorization hparse
  | some url =>
    refine .inr ⟨_, _, request_eq_ok_iff.2 ⟨_, url, authorization, address ▸ hparse, rfl⟩,
      request_eq_ok_iff.2 ⟨_, url, authorization', hparse, rfl⟩, ?_⟩
    simp only [Http.Request.redacted, requestAt,
      redacted_headers ("Bearer " ++ token) ("Bearer " ++ token')]

/-- A call has the same reply for both tokens, and what has been sent stays the same but for the
authorization. -/
lemma perform_agrees_of_isBlind (h : IsToken token) (h' : IsToken token')
    (blind : server.IsBlind) (client : Http.Client) (slug : RepoSlug) (apiBase : String)
    (call : ForgeCall)
    {sent sent' : List Http.Request} (alike : Http.SentAlike sent sent') :
    (perform server.send (withApiBase client token slug apiBase) call sent).1 =
        (perform server.send (withApiBase client token' slug apiBase) call sent').1 ∧
      Http.SentAlike (perform server.send (withApiBase client token slug apiBase) call sent).2
        (perform server.send (withApiBase client token' slug apiBase) call sent').2 := by
  rcases request_agrees h h' client slug apiBase call with
    ⟨cause, hrequest, hrequest'⟩ | ⟨request, request', hrequest, hrequest', hredacted⟩
  · rw [perform_of_no_request hrequest, perform_of_no_request hrequest']
    exact ⟨rfl, alike⟩
  · rw [perform_of_request hrequest, perform_of_request hrequest',
      blind sent sent' request request' alike hredacted]
    refine ⟨rfl, ?_⟩
    rw [Http.SentAlike, List.map_append, List.map_append, alike, List.map_singleton,
      List.map_singleton, hredacted]

/-- Over a server that does not look at the authorization, a program gets the same replies for both
tokens, whatever its calls are. -/
theorem run_agrees_of_isBlind {α : Type} (h : IsToken token) (h' : IsToken token')
    (blind : server.IsBlind) (client : Http.Client) (slug : RepoSlug) (apiBase : String)
    (program : ForgeProgram α) :
    (program.run (perform server.send (withApiBase client token slug apiBase)) []).1 =
        (program.run (perform server.send (withApiBase client token' slug apiBase)) []).1 ∧
      Http.SentAlike
        (program.run (perform server.send (withApiBase client token slug apiBase)) []).2
        (program.run (perform server.send (withApiBase client token' slug apiBase)) []).2 := by
  have step (call : ForgeCall) (sent sent' : List Http.Request)
      (alike : Http.SentAlike sent sent') :=
    perform_agrees_of_isBlind h h' blind client slug apiBase call alike
  have start : Http.SentAlike [] [] := rfl
  exact ForgeProgram.run_agrees step program start

/-- A description says of the token only that there is one. -/
lemma describe_agrees (h : IsToken token) (h' : IsToken token') (client : Http.Client)
    (slug : RepoSlug) (apiBase : String) :
    (withApiBase client token slug apiBase).describe =
      (withApiBase client token' slug apiBase).describe := by
  have hasToken : (withApiBase client token slug apiBase).token.isEmpty =
      (withApiBase client token' slug apiBase).token.isEmpty :=
    h.isEmpty_eq_false.trans h'.isEmpty_eq_false.symm
  have sameSlug : (withApiBase client token slug apiBase).slug =
      (withApiBase client token' slug apiBase).slug :=
    rfl
  have sameBase : (withApiBase client token slug apiBase).apiBase =
      (withApiBase client token' slug apiBase).apiBase :=
    rfl
  unfold describe
  rw [hasToken, sameSlug, sameBase]

/-! ## Sessions -/

/-- Something that is done with a forge: a call, or triage of a pull request. -/
inductive Task where
  | call (c : ForgeCall)
  | triage (settings : Triage) (pr : PullRequestContext)

/-- What comes of a task. -/
inductive TaskResult where
  | reply (exchange : Exchange)
  | report (result : Except TriageError TriageReport)

/-- A task as a program. -/
def Task.program : Task → ForgeProgram TaskResult
  | call c => (ForgeProgram.ofCall c).map fun reply => .reply ⟨c, reply⟩
  | triage settings pr => (settings.run pr).map .report

/-- Some tasks, one after the other. -/
def session : List Task → ForgeProgram (List TaskResult)
  | [] => .done []
  | task :: tasks => task.program.bind fun result => (session tasks).map (result :: ·)

/-- Two runs with different tokens went alike: the results are the same, errors included, and so are
the requests but for the value of the authorization. -/
structure AgreeButForToken {α : Type} (run run' : α × List Http.Request) : Prop where
  results : run.1 = run'.1
  requests : Http.SentAlike run.2 run'.2

/-- The responses of a server that has an empty file for whatever is read, and takes all else. -/
def exampleResponses (method : Http.Method) (_ : Url) : Except String Http.Response :=
  match method with
  | .get => .ok ⟨200, [], (Json.ofMembers [("content", .text "")]).print.toUTF8, ""⟩
  | .post => .ok ⟨201, [], (Json.ofMembers []).print.toUTF8, ""⟩

/-- A session on this machine: triage, and a pull request that cannot be read. -/
def exampleSession (token : String) : List TaskResult × List Http.Request :=
  (session [.triage exampleTriage examplePr, .call (.getPullRequest 7)]).run
    (perform (Http.Server.canned exampleResponses).send
      (withApiBase .plain token exampleForge.slug "http://127.0.0.1:8080/")) []

end GitHubForge

end PullTriage
