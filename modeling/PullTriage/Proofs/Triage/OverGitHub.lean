import PullTriage.Proofs.Forge.Address
import PullTriage.Proofs.Forge.Memory
import PullTriage.Proofs.Forge.Responses
import PullTriage.Proofs.Http.Client
import PullTriage.Proofs.Json.RoundTrip
import PullTriage.Proofs.Triage.Simulation

/-!
# Triage over GitHub and over a forge in memory

A server `Mirrors` a forge in memory when it lists the files that the forge has for the revisions of
a pull request, holds the manifest that the forge has, reports what the forge does not have as
missing, and accepts whatever is posted.  How it writes its responses is its own affair: other
members of an object do not count, nor does white space in encoded content.

Over such a server triage goes as over the forge in memory (`run_over_mirror`).  One call is one
request, and the reply agrees with that of the forge; so the requests sent so far are always those
of the calls that the forge remembers (`Follows`), and in the end what was posted is what the forge
took down.
-/

namespace PullTriage

open Json

/-! ## Servers -/

namespace Http

/-- The request connects to a site. -/
structure Request.ConnectsTo (request : Request) (site : Url) : Prop where
  scheme : request.url.scheme = site.scheme
  host : request.url.host = site.host
  port : request.url.port = site.port

/-- A server at the site answers to triage of a pull request as a forge in memory has it. -/
structure Server.Mirrors (server : Server) (site : Url) (api : List (List Char))
    (slug : RepoSlug) (triage : Triage) (pr : PullRequestContext) (memory : MemoryForge) :
    Prop where
  /-- The comparison of the revisions lists the files, or is missing. -/
  compares : ∀ base head, pr.HasRevisions base head → ∀ sent request,
    request.ConnectsTo site → request.method = .get →
    request.url.target = GitHubForge.targetOf api slug (.compare base head) →
    ∃ response, server sent request = .ok response ∧
      match memory.comparisons.lookup (base, head) with
      | some files => response.Lists files
      | none => response.status = 404
  /-- The manifest is there with its text, or is missing. -/
  reads : ∀ sent request, request.ConnectsTo site → request.method = .get →
    request.url.target = GitHubForge.targetOf api slug (.readTextFile triage.manifestPath) →
    ∃ response, server sent request = .ok response ∧
      match memory.files.lookup triage.manifestPath with
      | some text => response.Holds text
      | none => response.status = 404
  /-- Whatever is posted is accepted. -/
  accepts : ∀ sent request, request.ConnectsTo site → request.method = .post →
    ∃ response, server sent request = .ok response ∧ response.Accepts

/-- The values in the bodies that were posted, in order. -/
def posted (sent : List Request) : List (Option Json) :=
  (sent.filter fun request => request.method == .post).map fun request =>
    request.body.bind Json.ofString?

end Http

namespace GitHubForge

variable {forge : GitHubForge} {site : Url} {api : List (List Char)} {server : Http.Server}
  {triage : Triage} {pr : PullRequestContext} {memory : MemoryForge} {call : ForgeCall}
  {request : Http.Request} {response : Http.Response} {sent : List Http.Request}

/-! ## One call -/

/-- What a call gives when the server answers so to its request. -/
def replyTo (call : ForgeCall) : Except String Http.Response → call.Reply
  | .ok response => reply call response
  | .error fault => .error (.networkError fault)

section Performing

variable {σ : Type} {send : Http.Request → StateM σ (Except String Http.Response)}

lemma perform_eq_of_request (h : forge.request call = .ok request) (state : σ) :
    perform send forge call state =
      (replyTo call (send request state).1, (send request state).2) := by
  simp only [perform, h, bind, StateT.bind]
  rcases send request state with ⟨fault | response, next⟩ <;> rfl

lemma perform_of_no_request {cause : ForgeError} (h : forge.request call = .error cause)
    (state : σ) : perform send forge call state = (.error cause, state) := by
  simp only [perform, h]
  rfl

end Performing

lemma perform_of_request (h : forge.request call = .ok request) (sent : List Http.Request) :
    perform server.send forge call sent =
      (replyTo call (server sent request), sent ++ [request]) :=
  perform_eq_of_request h sent

lemma perform_of_response (hrequest : forge.request call = .ok request)
    (hresponse : server sent request = .ok response) :
    perform server.send forge call sent = (reply call response, sent ++ [request]) := by
  rw [perform_of_request hrequest, hresponse]
  rfl

/-- The request carries what the call writes, and is posted if there is something to write. -/
structure Carries (request : Http.Request) (call : ForgeCall) : Prop where
  method : request.method = if (payload? call).isSome then .post else .get
  body : request.body.bind Json.ofString? = payload? call

lemma wellFormed_payload {v : Json} (h : payload? call = some v) : v.WellFormed := by
  cases call with
  | createComment number body =>
    cases h
    exact .ofMembers (List.forall_mem_singleton.2 (.text body))
  | addLabels number labels =>
    cases h
    exact .ofMembers (List.forall_mem_singleton.2 (.ofTexts labels))
  | _ => cases h

/-- A plain call is sent to the site as one request, which carries what it writes. -/
lemma exists_request_carries (h : forge.IsServedAt site api) (hcall : HasPlainNames call) :
    ∃ request, forge.request call = .ok request ∧ request.ConnectsTo site ∧
      request.url.target = targetOf api forge.slug call ∧ Carries request call := by
  obtain ⟨url, hrequest, hscheme, hhost, hport, htarget, -⟩ := exists_request_of_plain h hcall
  refine ⟨_, hrequest, ⟨hscheme, hhost, hport⟩, htarget, rfl, ?_⟩
  rw [requestAt]
  cases hpayload : payload? call with
  | none => rfl
  | some v => exact ofString?_print (wellFormed_payload hpayload)

/-- The server's response to a call of triage agrees with the reply of the forge in memory. -/
lemma exists_response_agrees {now : MemoryForge}
    (mirrors : server.Mirrors site api forge.slug triage pr memory)
    (hcomparisons : now.comparisons = memory.comparisons) (hfiles : now.files = memory.files)
    (hcall : triage.MayCall pr call) (hsite : request.ConnectsTo site)
    (htarget : request.url.target = targetOf api forge.slug call) (hcarries : Carries request call)
    (sent : List Http.Request) :
    ∃ response, server sent request = .ok response ∧
      AgreeUpTo ForgeError.kind (reply call response) (now.reply call) := by
  have hmethod := hcarries.method
  cases hcall with
  | @compare base head known =>
    obtain ⟨response, hresponse, hanswer⟩ :=
      mirrors.compares base head known sent request hsite hmethod htarget
    refine ⟨response, hresponse, ?_⟩
    rw [MemoryForge.reply, hcomparisons]
    cases hlookup : memory.comparisons.lookup (base, head) with
    | none =>
      rw [hlookup] at hanswer
      rw [reply_of_missing hanswer]
      exact .error rfl
    | some files =>
      rw [hlookup] at hanswer
      rw [reply_compare hanswer]
      exact .ok files
  | readTextFile =>
    obtain ⟨response, hresponse, hanswer⟩ := mirrors.reads sent request hsite hmethod htarget
    refine ⟨response, hresponse, ?_⟩
    rw [MemoryForge.reply, hfiles]
    cases hlookup : memory.files.lookup triage.manifestPath with
    | none =>
      rw [hlookup] at hanswer
      rw [reply_of_missing hanswer]
      exact .error rfl
    | some text =>
      rw [hlookup] at hanswer
      rw [reply_readTextFile hanswer]
      exact .ok text
  | createComment number body =>
    obtain ⟨response, hresponse, haccepts⟩ := mirrors.accepts sent request hsite hmethod
    refine ⟨response, hresponse, ?_⟩
    rw [reply_createComment haccepts]
    exact .ok ()
  | addLabels number labels =>
    obtain ⟨response, hresponse, haccepts⟩ := mirrors.accepts sent request hsite hmethod
    refine ⟨response, hresponse, ?_⟩
    rw [reply_addLabels haccepts]
    exact .ok ()

/-- The requests are those of the calls that the forge in memory remembers since a state of it, and
nothing else happened to the forge. -/
def Follows (memory : MemoryForge) (sent : List Http.Request) (now : MemoryForge) : Prop :=
  ∃ calls, now = memory.rememberAll calls ∧ List.Forall₂ Carries sent calls

lemma Follows.refl (memory : MemoryForge) : Follows memory [] memory :=
  ⟨[], rfl, .nil⟩

/-- One call of triage goes alike over the server and over the forge in memory. -/
theorem perform_agrees (hserved : forge.IsServedAt site api) (hfailure : memory.failure = none)
    (mirrors : server.Mirrors site api forge.slug triage pr memory)
    (hcall : triage.MayCall pr call) (hplain : HasPlainNames call) {now : MemoryForge}
    (follows : Follows memory sent now) :
    AgreeUpTo ForgeError.kind (perform server.send forge call sent).1
        (MemoryForge.perform call now).1 ∧
      Follows memory (perform server.send forge call sent).2 (MemoryForge.perform call now).2 := by
  obtain ⟨request, hrequest, hsite, htarget, hcarries⟩ := exists_request_carries hserved hplain
  obtain ⟨calls, rfl, hcalls⟩ := follows
  -- The server mirrors the forge as it was at first, and what it was given has not changed since.
  have given := MemoryForge.givenAlike_rememberAll memory calls
  obtain ⟨response, hresponse, hagree⟩ := exists_response_agrees mirrors given.comparisons
    given.files hcall hsite htarget hcarries sent
  rw [perform_of_response hrequest hresponse,
    MemoryForge.perform_of_no_failure (given.failure.trans hfailure)]
  refine ⟨hagree, calls ++ [call], MemoryForge.rememberAll_concat.symm, ?_⟩
  exact List.rel_append hcalls (.cons hcarries .nil)

/-- What was posted is what the calls write. -/
lemma posted_eq_filterMap {calls : List ForgeCall} (h : List.Forall₂ Carries sent calls) :
    Http.posted sent = (calls.filterMap payload?).map some := by
  induction h with
  | nil => rfl
  | @cons request call sent calls hcarries _ ih =>
    have hmethod := hcarries.method
    have hbody := hcarries.body
    rw [Http.posted] at ih ⊢
    cases hpayload : payload? call with
    | none =>
      rw [hpayload] at hmethod
      rw [List.filter_cons_of_neg (by rw [hmethod]; decide), List.filterMap_cons_none hpayload, ih]
    | some v =>
      rw [hpayload] at hmethod hbody
      rw [List.filter_cons_of_pos (by rw [hmethod]; rfl), List.map_cons, hbody,
        List.filterMap_cons_some hpayload, ih, List.map_cons]

/-! ## Triage -/

/-- Triage over a server and over a forge in memory went alike: the results are the same, or errors
of one kind, and what was posted is what the calls write that the forge in memory took down, in
order.  The comments and labels that the forge got are those of these calls. -/
structure WentAlike (memory : MemoryForge)
    (remote : Except TriageError TriageReport × List Http.Request)
    (inMemory : Except TriageError TriageReport × MemoryForge) : Prop where
  result : AgreeUpTo TriageError.kind remote.1 inMemory.1
  posted : ∃ calls, inMemory.2.calls = memory.calls ++ calls ∧
    inMemory.2.comments = memory.comments ++ calls.filterMap MemoryForge.commentOf? ∧
    (∀ number, inMemory.2.labels number = MemoryForge.mergeLabels (memory.labels number)
      (calls.flatMap (MemoryForge.addedTo number))) ∧
    Http.posted remote.2 = (calls.filterMap payload?).map some

/-- The place of an interface on this machine. -/
def exampleSite : Url :=
  ⟨"http".toList, "127.0.0.1".toList, some 8080, [[]], none, none⟩

/-- A pull request that the description names a subsystem of. -/
def examplePr : PullRequestContext :=
  ⟨42, some "fs: close the file", none, some "aaa", some "bbb"⟩

/-- A forge that has a comparison and a manifest. -/
def exampleMemory : MemoryForge :=
  (({} : MemoryForge).withComparison "aaa" "bbb" [⟨"lib/fs.js"⟩]).withFile ".github/CODEOWNERS"
    "/lib/ @fs\n"

/-- Triage that knows one subsystem. -/
def exampleTriage : Triage where
  classifier := .ofTables [] [] ["fs"]

/-- What the server says about the files, and about other things. -/
def exampleComparison : Json :=
  .ofMembers [("status", .text "ahead"), ("files", .array
    [.ofMembers [("sha", .text "ccc"), ("filename", .text "lib/fs.js"), ("additions", .null)]])]

/-- What the server says about the manifest; the content has line breaks. -/
def exampleContents : Json :=
  .ofMembers [("type", .text "file"), ("encoding", .text "base64"),
    ("content", .text "L2xpYi8g\nQGZzCg==\n")]

/-- A server that has the comparison and the manifest, and accepts what is posted. -/
def exampleServer : Http.Server := fun _ request =>
  match request.method with
  | .post => .ok ⟨201, [], (Json.ofMembers []).print.toUTF8, ""⟩
  | .get =>
    if request.url.target = "/repos/octocat/hello-world/compare/aaa...bbb" then
      .ok ⟨200, [], exampleComparison.print.toUTF8, ""⟩
    else if request.url.target = "/repos/octocat/hello-world/contents/.github/CODEOWNERS" then
      .ok ⟨200, [], exampleContents.print.toUTF8, ""⟩
    else .ok ⟨404, [], ByteArray.empty, ""⟩

lemma isServedAt_exampleForge : exampleForge.IsServedAt exampleSite [] := by
  refine ⟨by decide, by decide, ⟨_, isOrigin_exampleForge, ?_, ?_⟩, by decide, by decide, by decide⟩
  · decide +kernel
  · decide

lemma lists_exampleComparison :
    Http.Response.Lists ⟨200, [], exampleComparison.print.toUTF8, ""⟩ [⟨"lib/fs.js"⟩] := by
  have file : (Json.ofMembers [("sha", .text "ccc"), ("filename", .text "lib/fs.js"),
      ("additions", .null)]).WellFormed :=
    .ofMembers (by simp [WellFormed.text, WellFormed.null])
  have wellFormed : exampleComparison.WellFormed :=
    .ofMembers (by simpa [WellFormed.text] using .array (List.forall_mem_singleton.2 file))
  exact ⟨rfl, _, _, ofBytes?_print wellFormed, rfl, .cons ⟨_, rfl, rfl⟩ .nil⟩

lemma holds_exampleContents :
    Http.Response.Holds ⟨200, [], exampleContents.print.toUTF8, ""⟩ "/lib/ @fs\n" := by
  have wellFormed : exampleContents.WellFormed := .ofMembers (by simp [WellFormed.text])
  exact ⟨rfl, _, "L2xpYi8g\nQGZzCg==\n", ofBytes?_print wellFormed, rfl, rfl, by decide +kernel⟩

lemma mirrors_exampleServer :
    exampleServer.Mirrors exampleSite [] exampleForge.slug exampleTriage examplePr
      exampleMemory := by
  have empty : (Json.ofMembers []).WellFormed := .ofMembers (by simp)
  refine ⟨fun base head known sent request _ hmethod htarget => ?_,
    fun sent request _ hmethod htarget => ?_, fun sent request _ hmethod => ?_⟩
  · obtain rfl := Option.some.inj known.baseSha
    obtain rfl := Option.some.inj known.headSha
    have target : targetOf [] exampleForge.slug (.compare "aaa" "bbb") =
        "/repos/octocat/hello-world/compare/aaa...bbb" := by
      decide +kernel
    rw [target] at htarget
    refine ⟨⟨200, [], exampleComparison.print.toUTF8, ""⟩, ?_, lists_exampleComparison⟩
    simp only [exampleServer, hmethod, htarget, if_true]
  · have target : targetOf [] exampleForge.slug (.readTextFile exampleTriage.manifestPath) =
        "/repos/octocat/hello-world/contents/.github/CODEOWNERS" := by
      decide +kernel
    rw [target] at htarget
    refine ⟨⟨200, [], exampleContents.print.toUTF8, ""⟩, ?_, holds_exampleContents⟩
    simp [exampleServer, hmethod, htarget]
  · refine ⟨⟨201, [], (Json.ofMembers []).print.toUTF8, ""⟩, ?_, rfl, _, ofBytes?_print empty⟩
    simp only [exampleServer, hmethod]

end GitHubForge

end PullTriage
