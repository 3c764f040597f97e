import PullTriage.Forge.GitHub
import PullTriage.Proofs.Except
import PullTriage.Proofs.Http.Url
import PullTriage.Proofs.Text.Decimal

/-!
# Where the requests go

The address of a call is the address of the interface with `/repos/`, the repository and the call
behind it, all of them as they are given.  Read as a URL it connects to the interface, whatever
stands behind (`request_connects`), and the segments of its path are those of the repository with
those of the call resolved from there (`request_path`).

So an access is bound to its repository as far as two things go: owner and name have to be read as
one segment each (`RepoSlug.IsReadable`), and the call must not lead away by dot segments
(`LeadsAway`).  Under both the target begins with the directory of the repository
(`request_below_directory`).  Neither is checked, and a path can lead to another repository
(`exists_request_elsewhere`).  A call with plain names does not lead away
(`not_leadsAway_of_plain`), and it is asked for as it is written (`exists_request_of_plain`).  With
names of any other characters it is asked for in their encoding, as long as none of them means
something in a URL (`exists_request_of_readAsWritten`).
-/

namespace PullTriage

/-! ## Repositories as paths -/

/-- Owner and name are each read as one segment of a path, which is a name. -/
structure RepoSlug.IsReadable (slug : RepoSlug) : Prop where
  inert : ∀ part ∈ [slug.owner, slug.name], ∀ c ∈ part.toList, c ≠ '\\' ∧ c ≠ '#' ∧ c ≠ '?'
  names : ∀ part ∈ [slug.owner, slug.name], Url.IsName part.toList

instance (slug : RepoSlug) : Decidable slug.IsReadable :=
  decidable_of_iff
    (∀ part ∈ [slug.owner, slug.name],
      (part.toList.all fun c => c ≠ '\\' ∧ c ≠ '#' ∧ c ≠ '?') = true ∧ Url.IsName part.toList)
    ⟨fun h => ⟨fun part hpart => List.all_iff_forall_prop.1 (h part hpart).1,
      fun part hpart => (h part hpart).2⟩,
    fun h part hpart => ⟨List.all_iff_forall_prop.2 (h.inert part hpart), h.names part hpart⟩⟩

namespace RepoSlug

variable {slug : RepoSlug}

/-- The segments of the repository, as they are written. -/
def segments (slug : RepoSlug) : List (List Char) :=
  ["repos".toList, slug.owner.toList, slug.name.toList]

/-- The segments of the repository, encoded. -/
def encodedSegments (slug : RepoSlug) : List (List Char) :=
  slug.segments.map (Url.encodeWith Url.isPathChar)

/-- The path of the repository, with a slash at its end. -/
def directory (slug : RepoSlug) : List Char :=
  Url.slashed slug.encodedSegments ++ ['/']

lemma not_break_of_isSlugPart {part : String} (h : isSlugPart part = true) :
    ∀ c ∈ part.toList, c ≠ '/' ∧ Url.isBreak c = false := by
  have blank : Unicode.isBlank '\t' = true ∧ Unicode.isBlank '\n' = true ∧
      Unicode.isBlank '\r' = true := by
    decide +kernel
  intro c hc
  rw [isSlugPart, Bool.and_eq_true, List.all_eq_true] at h
  have hpart := h.2 c hc
  simp only [Bool.and_eq_true, bne_iff_ne, Bool.not_eq_true'] at hpart
  refine ⟨hpart.1, Bool.eq_false_iff.2 fun hbreak => ?_⟩
  simp only [Url.isBreak, Bool.or_eq_true, beq_iff_eq] at hbreak
  rcases hbreak with (rfl | rfl) | rfl
  · exact absurd hpart.2 (by simp [blank])
  · exact absurd hpart.2 (by simp [blank])
  · exact absurd hpart.2 (by simp [blank])

lemma IsReadable.isInert (h : slug.IsReadable) :
    ∀ name ∈ slug.segments, ∀ c ∈ name, Url.IsInert c := by
  have part {part : String} (hmem : part ∈ [slug.owner, slug.name])
      (hslug : isSlugPart part = true) : ∀ c ∈ part.toList, Url.IsInert c := by
    intro c hc
    obtain ⟨hslash, hbreak⟩ := not_break_of_isSlugPart hslug c hc
    obtain ⟨hback, hhash, hquery⟩ := h.inert part hmem c hc
    exact ⟨by simp [Url.isSlash, hslash, hback], hhash, hquery, hbreak⟩
  intro name hname
  simp only [segments, List.mem_cons, List.not_mem_nil, or_false] at hname
  rcases hname with rfl | rfl | rfl
  · exact List.all_iff_forall_prop.1 (by decide)
  · exact part (by simp) slug.isSlugPart_owner
  · exact part (by simp) slug.isSlugPart_name

lemma IsReadable.isName (h : slug.IsReadable) : ∀ name ∈ slug.encodedSegments, Url.IsName name := by
  intro name hname
  simp only [encodedSegments, segments, List.map_cons, List.map_nil, List.mem_cons,
    List.not_mem_nil, or_false] at hname
  rcases hname with rfl | rfl | rfl
  · decide
  · exact Url.isName_encodeWith.2 (h.names _ (by simp))
  · exact Url.isName_encodeWith.2 (h.names _ (by simp))

end RepoSlug

namespace GitHubForge

variable {forge : GitHubForge} {call : ForgeCall} {request : Http.Request}

/-! ## Requests -/

/-- The request for a call at a URL. -/
def requestAt (authorization : String) (call : ForgeCall) (url : Url) : Http.Request where
  method := if (payload? call).isSome then .post else .get
  url := url
  headers := headers authorization (payload? call).isSome
  body := (payload? call).map Json.print

lemma request_eq_ok_iff : forge.request call = .ok request ↔
    ∃ authorization url, forge.authorization = .ok authorization ∧
      Url.parse? forge.client.asciiName? (forge.address call) = some url ∧
      request = requestAt authorization call url := by
  rw [GitHubForge.request, Except.bind_eq_ok_iff]
  refine exists_congr fun authorization => ?_
  cases hparse : Url.parse? forge.client.asciiName? (forge.address call) with
  | none =>
    constructor
    · rintro ⟨-, ⟨⟩⟩
    · rintro ⟨url, -, ⟨⟩, -⟩
  | some url =>
    constructor
    · rintro ⟨hauth, hrequest⟩
      exact ⟨url, hauth, rfl, (Except.ok.inj hrequest).symm⟩
    · rintro ⟨_, hauth, hurl, rfl⟩
      exact ⟨hauth, Option.some.inj hurl ▸ rfl⟩

/-- Where the address of a call is no URL, there is no request, and the client says why. -/
lemma request_of_no_url {authorization : String} (hauth : forge.authorization = .ok authorization)
    (h : Url.parse? forge.client.asciiName? (forge.address call) = none) :
    forge.request call =
      .error (.networkError (forge.client.notUrl (forge.address call))) := by
  rw [GitHubForge.request, hauth, h]
  rfl

/-- What stands behind the address of the interface in the address of a call, a slash apart. -/
def behind (slug : RepoSlug) (call : ForgeCall) : List Char :=
  (Url.slashed slug.segments).tail ++ '/' :: (endpoint call).toList

lemma address_eq (forge : GitHubForge) (call : ForgeCall) :
    forge.address call = String.ofList (forge.apiBase.toList ++ '/' :: behind forge.slug call) := by
  refine String.toList_inj.1 ?_
  simp [address, behind, Url.slashed, RepoSlug.segments]

/-- The URL of a request is that of the interface with another path and query. -/
lemma exists_url_eq_withTarget (horigin : Url.IsOrigin forge.apiBase.toList)
    (h : forge.request call = .ok request) :
    ∃ base, Url.parse? forge.client.asciiName? forge.apiBase = some base ∧
      request.url = base.withTarget (Url.strip ('/' :: behind forge.slug call)) := by
  obtain ⟨authorization, url, -, hurl, rfl⟩ := request_eq_ok_iff.1 h
  rw [address_eq, Url.parse?_append horigin, String.ofList_toList] at hurl
  obtain ⟨base, hbase, heq⟩ := Option.map_eq_some_iff.1 hurl
  exact ⟨base, hbase, heq.symm⟩

/-- Whatever is asked for, it is the interface that is asked. -/
theorem request_connects (horigin : Url.IsOrigin forge.apiBase.toList)
    (h : forge.request call = .ok request) :
    ∃ base, Url.parse? forge.client.asciiName? forge.apiBase = some base ∧
      request.url.scheme = base.scheme ∧ request.url.host = base.host ∧
      request.url.port = base.port := by
  obtain ⟨base, hbase, hurl⟩ := exists_url_eq_withTarget horigin h
  refine ⟨base, hbase, ?_⟩
  simp only [hurl, Url.scheme_withTarget, Url.host_withTarget, Url.port_withTarget, and_self]

/-! ## Paths -/

/-- The segments of a call, as they are read behind those of the repository. -/
def callSegments (call : ForgeCall) : List (List Char) :=
  Url.segmentsBehind (endpoint call).toList

/-- The path of a request is that of the repository, and the call is resolved from there. -/
theorem request_path (horigin : Url.IsOrigin forge.apiBase.toList)
    (hslug : forge.slug.IsReadable) (h : forge.request call = .ok request) :
    request.url.path = Url.resolve forge.slug.encodedSegments.reverse (callSegments call) := by
  obtain ⟨base, -, hurl⟩ := exists_url_eq_withTarget horigin h
  have read : Url.segmentsBehind (behind forge.slug call) =
      forge.slug.encodedSegments ++ callSegments call :=
    Url.segmentsBehind_slashed rfl hslug.isInert
  rw [hurl, Url.path_withTarget, read, Url.resolve_append_of_names hslug.isName [] _,
    List.append_nil]

/-- The call leads above the repository on its way, if not in the end. -/
def LeadsAway (call : ForgeCall) : Prop :=
  Url.staysBelow 0 (callSegments call) = false

instance (call : ForgeCall) : Decidable (LeadsAway call) :=
  inferInstanceAs (Decidable (_ = false))

/-- Below the path of the repository stands what a call asks for, unless it leads away. -/
theorem request_below_directory (horigin : Url.IsOrigin forge.apiBase.toList)
    (hslug : forge.slug.IsReadable) (hcall : ¬ LeadsAway call)
    (h : forge.request call = .ok request) :
    forge.slug.directory <+: request.url.pathText := by
  have hstays : Url.staysBelow 0 (callSegments call) = true := by
    simpa [LeadsAway] using hcall
  obtain ⟨more, hmore, hpath⟩ := Url.exists_resolve_append [] forge.slug.encodedSegments.reverse
    (Url.segmentsBehind_ne_nil _) hstays
  rw [List.nil_append, List.reverse_reverse] at hpath
  obtain ⟨first, rest, rfl⟩ := List.exists_cons_of_ne_nil hmore
  have written : request.url.pathText =
      Url.slashed (forge.slug.encodedSegments ++ first :: rest) := by
    rw [Url.pathText, request_path horigin hslug h]
    exact congrArg Url.slashed hpath
  rw [written, RepoSlug.directory, Url.slashed, Url.slashed, List.flatMap_append,
    List.flatMap_cons]
  exact (List.prefix_append_right_inj _).2 ⟨_, rfl⟩

/-- An access to a repository through an interface on this machine. -/
def exampleForge : GitHubForge where
  client := .plain
  token := "t"
  slug := ⟨"octocat", "hello-world", by decide +kernel, by decide +kernel⟩
  apiBase := "http://127.0.0.1:8080"

lemma isOrigin_exampleForge : Url.IsOrigin exampleForge.apiBase.toList :=
  ⟨"http".toList, "127.0.0.1:8080".toList, by decide, .inl rfl, by decide,
    List.all_iff_forall_prop.1 (by decide)⟩

lemma exampleForge_request {path : String} {url : Url}
    (h : Url.parse? exampleForge.client.asciiName? (exampleForge.address (.readTextFile path)) =
      some url) :
    exampleForge.request (.readTextFile path) =
      .ok ⟨.get, url, headers "Bearer t" false, none⟩ := by
  have token : exampleForge.authorization = .ok "Bearer t" := by decide +kernel
  exact request_eq_ok_iff.2 ⟨"Bearer t", url, token, h, rfl⟩

/-- A path may go up and down within the repository. -/
theorem request_below_directory_dotted :
    Url.IsOrigin exampleForge.apiBase.toList ∧ exampleForge.slug.IsReadable ∧
      ¬ LeadsAway (.readTextFile "docs/../.github/CODEOWNERS") ∧
      ∃ request, exampleForge.request (.readTextFile "docs/../.github/CODEOWNERS") = .ok request ∧
        "/repos/octocat/hello-world/".toList <+: request.url.pathText := by
  have readable : exampleForge.slug.IsReadable := by decide
  have stays : ¬ LeadsAway (.readTextFile "docs/../.github/CODEOWNERS") := by decide +kernel
  have directory : exampleForge.slug.directory = "/repos/octocat/hello-world/".toList := by
    decide +kernel
  have url : Url.parse? exampleForge.client.asciiName?
      (exampleForge.address (.readTextFile "docs/../.github/CODEOWNERS")) =
      some ⟨"http".toList, "127.0.0.1".toList, some 8080,
        ["repos".toList, "octocat".toList, "hello-world".toList, "contents".toList,
          ".github".toList, "CODEOWNERS".toList], none, none⟩ := by
    decide +kernel
  have request := exampleForge_request url
  refine ⟨isOrigin_exampleForge, readable, stays, _, request, ?_⟩
  rw [← directory]
  exact request_below_directory isOrigin_exampleForge readable stays request

/-- The repository can be left by a path, although it is read from its text and the interface is a
host and a port. -/
theorem exists_request_elsewhere :
    Url.IsOrigin exampleForge.apiBase.toList ∧
      RepoSlug.parse? "octocat/hello-world" = some exampleForge.slug ∧
      ∃ request, exampleForge.request
          (.readTextFile "../../../octocat/other/contents/README") = .ok request ∧
        request.url.target = "/repos/octocat/other/contents/README" ∧
        ¬ exampleForge.slug.directory <+: request.url.pathText := by
  have url : Url.parse? exampleForge.client.asciiName?
      (exampleForge.address (.readTextFile "../../../octocat/other/contents/README")) =
      some ⟨"http".toList, "127.0.0.1".toList, some 8080,
        ["repos".toList, "octocat".toList, "other".toList, "contents".toList, "README".toList],
        none, none⟩ := by
    decide +kernel
  exact ⟨isOrigin_exampleForge, by decide +kernel, _, exampleForge_request url, by decide +kernel,
    by decide +kernel⟩

/-! ## Plain calls -/

/-- The segments of a call, as they are written. -/
def callNames : ForgeCall → List (List Char)
  | .getPullRequest number => ["pulls".toList, (toString number).toList]
  | .compare base head => ["compare".toList, base.toList ++ "...".toList ++ head.toList]
  | .readTextFile path => "contents".toList :: (path.toList.dropWhile (· == '/')).splitOn '/'
  | .createComment number _ => ["issues".toList, (toString number).toList, "comments".toList]
  | .addLabels number _ => ["issues".toList, (toString number).toList, "labels".toList]

/-- What stands in the address for the sake of the call is plain. -/
def HasPlainNames (call : ForgeCall) : Prop :=
  ∀ name ∈ callNames call, Url.IsPlain name

lemma slashed_callNames (call : ForgeCall) :
    Url.slashed (callNames call) = '/' :: (endpoint call).toList := by
  cases call with
  | readTextFile path =>
    rw [callNames, Url.slashed_cons, Url.slashed_splitOn]
    simp [endpoint]
  | _ => simp [callNames, endpoint, Url.slashed]

lemma isPlain_toString (number : Nat) : Url.IsPlain (toString number).toList := by
  have digits : ∀ c ∈ (toString number).toList, c.isDigit = true := fun c =>
    Text.isDigit_of_mem_toString
  have noDot : '.' ∉ (toString number).toList := fun hmem => absurd (digits '.' hmem) (by decide)
  refine ⟨fun c hc => ?_, fun h => noDot (h ▸ by decide), fun h => noDot (h ▸ by decide)⟩
  simp [Url.isUnreserved, Char.isAlphanum, digits c hc]

/-- A call that names nothing but a number is plain. -/
lemma hasPlainNames_of_number (number : Nat) (body : String) (labels : List String) :
    HasPlainNames (.getPullRequest number) ∧ HasPlainNames (.createComment number body) ∧
      HasPlainNames (.addLabels number labels) := by
  have hnumber := isPlain_toString number
  refine ⟨?_, ?_, ?_⟩
  · exact List.forall_mem_cons.2 ⟨by decide, by simpa using hnumber⟩
  · exact List.forall_mem_cons.2 ⟨by decide, List.forall_mem_cons.2 ⟨hnumber, by decide⟩⟩
  · exact List.forall_mem_cons.2 ⟨by decide, List.forall_mem_cons.2 ⟨hnumber, by decide⟩⟩

/-- Three dots between two revisions are part of a name. -/
lemma isPlain_dotted {base head : List Char}
    (h : ∀ c ∈ base ++ head, Url.isUnreserved c = true) :
    Url.IsPlain (base ++ "...".toList ++ head) := by
  have chars : ∀ c ∈ base ++ "...".toList ++ head, Url.isUnreserved c = true := by
    intro c hc
    simp only [List.mem_append] at hc
    rcases hc with (hc | hc) | hc
    · exact h c (List.mem_append_left _ hc)
    · exact List.all_eq_true.1 (show "...".toList.all Url.isUnreserved = true by decide) c hc
    · exact h c (List.mem_append_right _ hc)
  have long : 3 ≤ (base ++ "...".toList ++ head).length := by
    have dots : "...".toList.length = 3 := rfl
    rw [List.length_append, List.length_append]
    omega
  refine ⟨chars, fun hone => ?_, fun htwo => ?_⟩
  · rw [hone] at long
    exact absurd long (by decide)
  · rw [htwo] at long
    exact absurd long (by decide)

lemma hasPlainNames_compare {base head : String}
    (h : ∀ c ∈ base.toList ++ head.toList, Url.isUnreserved c = true) :
    HasPlainNames (.compare base head) :=
  List.forall_mem_cons.2 ⟨by decide, List.forall_mem_singleton.2 (isPlain_dotted h)⟩

lemma hasPlainNames_readTextFile {path : String}
    (h : ∀ name ∈ (path.toList.dropWhile (· == '/')).splitOn '/', Url.IsPlain name) :
    HasPlainNames (.readTextFile path) :=
  List.forall_mem_cons.2 ⟨by decide, h⟩

/-- The segments of a call, encoded. -/
def encodedNames (call : ForgeCall) : List (List Char) :=
  (callNames call).map (Url.encodeWith Url.isPathChar)

/-- What stands in the address for the sake of the call is read as it is written: no character means
anything else, no segment stands for another place, and nothing is taken away at the end. -/
structure IsReadAsWritten (call : ForgeCall) : Prop where
  inert : ∀ name ∈ callNames call, ∀ c ∈ name, Url.IsInert c
  names : ∀ name ∈ callNames call, Url.IsName name
  ends : Url.EndsVisibly (endpoint call).toList

lemma callSegments_of_plain (h : HasPlainNames call) : callSegments call = callNames call :=
  Url.segmentsBehind_of_plain (slashed_callNames call) h

/-- A plain call does not lead away. -/
theorem not_leadsAway_of_plain (h : HasPlainNames call) : ¬ LeadsAway call := by
  have stays := Url.staysBelow_of_names 0 fun name hname => (h name hname).isName
  rw [LeadsAway, callSegments_of_plain h, stays]
  decide

/-- What a call asks for at an interface whose address ends with some segments. -/
def targetOf (api : List (List Char)) (slug : RepoSlug) (call : ForgeCall) : String :=
  String.ofList (Url.slashed (api ++ slug.segments)) ++ "/" ++ endpoint call

/-- The token can be sent, and the address of the interface is an origin with plain segments behind
it. -/
structure IsServedAt (forge : GitHubForge) (base : Url) (api : List (List Char)) : Prop where
  token_ne : forge.token ≠ ""
  isHeaderValue_token : Http.isHeaderValue forge.token = true
  apiBase : ∃ origin, Url.IsOrigin origin ∧
    Url.parse? forge.client.asciiName? (String.ofList origin) = some base ∧
    forge.apiBase.toList = origin ++ Url.slashed api
  plain_api : ∀ name ∈ api, Url.IsPlain name
  plain_owner : Url.IsPlain forge.slug.owner.toList
  plain_name : Url.IsPlain forge.slug.name.toList

variable {base : Url} {api : List (List Char)}

lemma authorization_eq_ok (hne : forge.token ≠ "")
    (hvalue : Http.isHeaderValue forge.token = true) :
    forge.authorization = .ok ("Bearer " ++ forge.token) := by
  have value : Http.isHeaderValue ("Bearer " ++ forge.token) = true := by
    rw [Http.isHeaderValue] at hvalue ⊢
    rw [String.toList_append, List.all_append, hvalue, Bool.and_true]
    decide
  have notEmpty : forge.token.isEmpty = false := by
    simpa [String.isEmpty_iff] using hne
  rw [authorization, notEmpty, value]
  rfl

lemma IsServedAt.authorization_eq (h : forge.IsServedAt base api) :
    forge.authorization = .ok ("Bearer " ++ forge.token) :=
  authorization_eq_ok h.token_ne h.isHeaderValue_token

lemma IsServedAt.plain_segments (h : forge.IsServedAt base api) :
    ∀ name ∈ api ++ forge.slug.segments, Url.IsPlain name := by
  intro name hname
  rcases List.mem_append.1 hname with hname | hname
  · exact h.plain_api name hname
  · simp only [RepoSlug.segments, List.mem_cons, List.not_mem_nil, or_false] at hname
    rcases hname with rfl | rfl | rfl
    · decide
    · exact h.plain_owner
    · exact h.plain_name

variable {names : List (List Char)}

lemma slashed_behind (api : List (List Char)) (slug : RepoSlug)
    (hnames : Url.slashed names = '/' :: (endpoint call).toList) :
    Url.slashed (api ++ slug.segments ++ names) = Url.slashed api ++ '/' :: behind slug call := by
  rw [Url.slashed_append, Url.slashed_append, hnames, List.append_assoc]
  rfl

/-- A call that stands in the address as names, which are read as they are written, is one request,
for the path of the call. -/
lemma exists_request_of_names (h : forge.IsServedAt base api)
    (hnames : Url.slashed names = '/' :: (endpoint call).toList)
    (hinert : ∀ name ∈ names, ∀ c ∈ name, Url.IsInert c) (hname : ∀ name ∈ names, Url.IsName name)
    (hends : Url.EndsVisibly (endpoint call).toList) :
    ∃ url, forge.request call = .ok (requestAt ("Bearer " ++ forge.token) call url) ∧
      url.scheme = base.scheme ∧ url.host = base.host ∧ url.port = base.port ∧
      url.path = api ++ forge.slug.segments ++ names.map (Url.encodeWith Url.isPathChar) ∧
      url.query = none ∧ url.fragment = none := by
  obtain ⟨origin, horigin, hparse, hbase⟩ := h.apiBase
  have written := slashed_behind api forge.slug hnames
  obtain ⟨text, htext⟩ := Url.exists_slashed_append_eq_cons api (behind forge.slug call)
  have address : forge.address call = String.ofList (origin ++ '/' :: text) := by
    rw [address_eq, hbase, List.append_assoc, htext]
  have url : Url.parse? forge.client.asciiName? (forge.address call) =
      some (base.withTarget (Url.strip ('/' :: text))) := by
    rw [address, Url.parse?_append horigin, hparse, Option.map_some]
  have inert : ∀ name ∈ api ++ forge.slug.segments ++ names, ∀ c ∈ name, Url.IsInert c := by
    intro name hmem
    rcases List.mem_append.1 hmem with hmem | hmem
    · exact (h.plain_segments name hmem).isInert
    · exact hinert name hmem
  have resolved : ∀ name ∈ api ++ forge.slug.segments ++
      names.map (Url.encodeWith Url.isPathChar), Url.IsName name := by
    intro name hmem
    rcases List.mem_append.1 hmem with hmem | hmem
    · exact (h.plain_segments name hmem).isName
    · obtain ⟨part, hpart, rfl⟩ := List.mem_map.1 hmem
      exact Url.isName_encodeWith.2 (hname part hpart)
  have ends : Url.EndsVisibly text := by
    refine hends.of_slash_append (Url.slashed (api ++ forge.slug.segments)) ?_
    rw [← hnames, ← Url.slashed_append, written, htext]
  have path : (base.withTarget (Url.strip ('/' :: text))).path =
      api ++ forge.slug.segments ++ names.map (Url.encodeWith Url.isPathChar) := by
    rw [Url.path_withTarget, Url.segmentsBehind_of_inert (written.trans htext) inert ends,
      List.map_append, Url.map_encodeWith_of_plain h.plain_segments]
    exact Url.resolve_eq_of_names resolved
  refine ⟨_, request_eq_ok_iff.2 ⟨_, _, h.authorization_eq, url, rfl⟩, rfl, rfl, rfl, path, ?_⟩
  exact Url.query_and_fragment_of_inert base (written.trans htext) inert ends

/-- A call that is read as it is written is one request, for the path of the call. -/
theorem exists_request_of_readAsWritten (h : forge.IsServedAt base api)
    (hcall : IsReadAsWritten call) :
    ∃ url, forge.request call = .ok (requestAt ("Bearer " ++ forge.token) call url) ∧
      url.scheme = base.scheme ∧ url.host = base.host ∧ url.port = base.port ∧
      url.path = api ++ forge.slug.segments ++ encodedNames call ∧
      url.query = none ∧ url.fragment = none :=
  exists_request_of_names h (slashed_callNames call) hcall.inert hcall.names hcall.ends

/-- A call that stands in the address as plain names is one request, for the target of the call. -/
lemma exists_request_of_plainNames (h : forge.IsServedAt base api)
    (hnames : Url.slashed names = '/' :: (endpoint call).toList)
    (hplain : ∀ name ∈ names, Url.IsPlain name) :
    ∃ url, forge.request call = .ok (requestAt ("Bearer " ++ forge.token) call url) ∧
      url.scheme = base.scheme ∧ url.host = base.host ∧ url.port = base.port ∧
      url.target = targetOf api forge.slug call ∧ url.fragment = none := by
  obtain ⟨url, hrequest, hscheme, hhost, hport, hpath, hquery, hfragment⟩ :=
    exists_request_of_names h hnames (fun name hname => (hplain name hname).isInert)
      (fun name hname => (hplain name hname).isName) (Url.endsVisibly_of_plain hnames hplain)
  refine ⟨url, hrequest, hscheme, hhost, hport, ?_, hfragment⟩
  rw [Url.target, Url.pathText, hpath, hquery, Url.map_encodeWith_of_plain hplain, List.append_nil,
    targetOf]
  change String.ofList (Url.slashed _) = _
  rw [Url.slashed_append, hnames]
  refine String.toList_inj.1 ?_
  simp

/-- A plain call is one request, for the target of the call. -/
theorem exists_request_of_plain (h : forge.IsServedAt base api) (hcall : HasPlainNames call) :
    ∃ url, forge.request call = .ok (requestAt ("Bearer " ++ forge.token) call url) ∧
      url.scheme = base.scheme ∧ url.host = base.host ∧ url.port = base.port ∧
      url.target = targetOf api forge.slug call ∧ url.fragment = none :=
  exists_request_of_plainNames h (slashed_callNames call) hcall

end GitHubForge

end PullTriage
