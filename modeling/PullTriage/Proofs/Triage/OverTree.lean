import PullTriage.Proofs.Files.Tree
import PullTriage.Proofs.Http.Decoding
import PullTriage.Proofs.Triage.OverGitHub

/-!
# Reading from a server that has a tree of files

A server `Serves` a directory of a tree as a repository when it shows, for every request that asks
for the file at some names, what there is at these names in the tree.  Which names a request asks
for is read off its URL the way a server does it, by decoding the segments; nothing is assumed about
the client.  There is such a server for every tree (`serves_ofTree`).

A text is read from such a server by a path exactly if it is the text of the file at the names of
the path (`perform_readTextFile_eq_ok_iff`).  Slashes in front of the path do not count, and what is
left of it has to be `IsPortable`: its names mean no other place, and no character of it means
anything in a URL.
-/

namespace PullTriage

open FileTree

variable {tree : FileTree} {top names : List String} {path : String} {site : Url}
  {api : List (List Char)} {slug : RepoSlug}

/-! ## Portable paths -/

/-- The path is read as a part of a URL as it is read by the system: it leads through names only,
and no character of it means anything but itself. -/
structure IsPortable (path : String) : Prop where
  names : ∀ name ∈ pathNames path, IsEntryName name
  chars : ∀ c ∈ path.toList, Url.IsInert c ∨ c = '/'
  noPercent : '%' ∉ path.toList
  ends : Url.EndsVisibly path.toList

instance (path : String) : Decidable (IsPortable path) :=
  decidable_of_iff ((∀ name ∈ pathNames path, IsEntryName name) ∧
      (path.toList.all fun c => Url.IsInert c ∨ c = '/') = true ∧ '%' ∉ path.toList ∧
      Url.EndsVisibly path.toList)
    ⟨fun ⟨names, chars, noPercent, ends⟩ =>
      ⟨names, List.all_iff_forall_prop.1 chars, noPercent, ends⟩,
    fun ⟨names, chars, noPercent, ends⟩ =>
      ⟨names, List.all_iff_forall_prop.2 chars, noPercent, ends⟩⟩

lemma map_toList_pathNames (path : String) :
    (pathNames path).map String.toList = path.toList.splitOn '/' := by
  rw [pathNames, List.map_map]
  simp [Function.comp_def]

lemma callNames_readTextFile (path : String) : GitHubForge.callNames (.readTextFile path) =
    "contents".toList :: (pathNames (relativePath path)).map String.toList := by
  have text : (relativePath path).toList = path.toList.dropWhile (· == '/') := String.toList_ofList
  rw [map_toList_pathNames, text]
  rfl

namespace IsPortable

lemma mem_toList_of_mem_pathNames {name : String} (hname : name ∈ pathNames path) :
    ∀ c ∈ name.toList, c ∈ path.toList ∧ c ≠ '/' := by
  intro c hc
  obtain ⟨piece, hpiece, rfl⟩ := List.mem_map.1 hname
  rw [String.toList_ofList] at hc
  have slash : c ≠ '/' := fun heq => Text.not_mem_of_mem_splitOn hpiece (heq ▸ hc)
  have whole : c ∈ Url.slashed (path.toList.splitOn '/') :=
    List.mem_flatMap.2 ⟨piece, hpiece, List.mem_cons_of_mem _ hc⟩
  rw [Url.slashed_splitOn] at whole
  exact ⟨(List.mem_cons.1 whole).resolve_left slash, slash⟩

lemma isName (h : IsPortable path) {name : String} (hname : name ∈ pathNames path) :
    Url.IsName name.toList := by
  have hpercent : '%' ∉ name.toList := fun hmem =>
    h.noPercent (mem_toList_of_mem_pathNames hname _ hmem).1
  refine ⟨fun hone => (h.names name hname).ne_dot ?_, fun htwo => (h.names name hname).ne_dots ?_⟩
  · exact String.toList_inj.1 (Url.eq_replicate_of_dots? hpercent hone)
  · exact String.toList_inj.1 (Url.eq_replicate_of_dots? hpercent htwo)

lemma isReadAsWritten (h : IsPortable (relativePath path)) :
    GitHubForge.IsReadAsWritten (.readTextFile path) := by
  have contents : Url.IsPlain "contents".toList := by decide
  refine ⟨?_, ?_, ?_⟩
  · rw [callNames_readTextFile]
    refine List.forall_mem_cons.2 ⟨contents.isInert, fun segment hsegment c hc => ?_⟩
    obtain ⟨name, hname, rfl⟩ := List.mem_map.1 hsegment
    obtain ⟨hmem, hslash⟩ := mem_toList_of_mem_pathNames hname c hc
    exact (h.chars c hmem).resolve_right hslash
  · rw [callNames_readTextFile]
    refine List.forall_mem_cons.2 ⟨contents.isName, fun segment hsegment => ?_⟩
    obtain ⟨name, hname, rfl⟩ := List.mem_map.1 hsegment
    exact h.isName hname
  · refine h.ends.of_slash_append (Url.slashed ["contents".toList]) ?_
    rw [← GitHubForge.slashed_callNames, callNames_readTextFile, map_toList_pathNames,
      ← Url.slashed_splitOn, ← Url.slashed_append, List.singleton_append]

end IsPortable

/-! ## Servers -/

namespace Http

/-- The request asks for the file at some names in a repository. -/
structure Request.AsksForFile (request : Request) (site : Url) (api : List (List Char))
    (slug : RepoSlug) (names : List String) : Prop where
  connects : request.ConnectsTo site
  method : request.method = .get
  path : List.Forall₂ Url.StandsFor request.url.path
    (api ++ slug.segments ++ "contents".toList :: names.map String.toList)
  query : request.url.query = none

/-- The server at the site shows a directory of the tree as the repository. -/
def Server.Serves (server : Server) (site : Url) (api : List (List Char)) (slug : RepoSlug)
    (tree : FileTree) (top : List String) : Prop :=
  ∀ sent request names, request.AsksForFile site api slug names →
    ∃ response, server sent request = .ok response ∧
      response.Shows (tree.entryAt? (top ++ names))

/-- The content of a file as a server says it. -/
def contentsOf (content : ByteArray) : Json :=
  .ofMembers [("content", .text (String.ofList (Base64.encode content.data.toList))),
    ("encoding", .text "base64")]

/-- A response that shows what there is at a place. -/
def Response.showing : Option FileEntry → Response
  | some (.file content) => ⟨200, [], (contentsOf content).print.toUTF8, ""⟩
  | some .directory => ⟨200, [], (Json.array []).print.toUTF8, ""⟩
  | none => ⟨404, [], ByteArray.empty, ""⟩

lemma Response.isObject_print {members : List (String × Json)}
    (h : (Json.ofMembers members).WellFormed) (status : Nat) (headers : List Header)
    (fault : String) :
    IsObject ⟨status, headers, (Json.ofMembers members).print.toUTF8, fault⟩ members :=
  Json.ofBytes?_print h

lemma Response.holdsBytes_contentsOf (content : ByteArray) :
    HoldsBytes ⟨200, [], (contentsOf content).print.toUTF8, ""⟩ content := by
  have wellFormed : (contentsOf content).WellFormed := .ofMembers (by simp [Json.WellFormed.text])
  have unwrapped : (String.ofList (Base64.encode content.data.toList)).toList.filter
      (fun c => !Unicode.isBlank c) = Base64.encode content.data.toList := by
    rw [String.toList_ofList, List.filter_eq_self]
    intro c hc
    rw [Base64.isBlank_of_mem_encode _ c hc]
    rfl
  exact ⟨rfl, _, _, isObject_print wellFormed 200 [] "", rfl, rfl, unwrapped⟩

lemma Response.shows_showing (entry : Option FileEntry) : (showing entry).Shows entry := by
  match entry with
  | none => rfl
  | some .directory =>
    have empty : (Json.array []).WellFormed := .array (by simp)
    exact ⟨rfl, [], Json.ofBytes?_print empty, nofun⟩
  | some (.file content) => exact holdsBytes_contentsOf content

/-- A server that has a directory of a tree as its only repository, below so many segments.  To
everything else that is asked for it answers with one and the same value, and it accepts whatever is
posted. -/
def Server.ofTree (tree : FileTree) (top : List String) (depth : Nat) (other : Json) : Server :=
  fun _ request =>
    match request.method, request.url.path.drop depth with
    | .post, _ => .ok ⟨201, [], (Json.ofMembers []).print.toUTF8, ""⟩
    | .get, [] => .ok (.showing none)
    | .get, kind :: rest =>
      if Url.nameOf kind = "contents" then
        .ok (.showing (tree.entryAt? (top ++ rest.map Url.nameOf)))
      else .ok ⟨200, [], other.print.toUTF8, ""⟩

/-- There is a server for every tree. -/
lemma Server.serves_ofTree (tree : FileTree) (top : List String) (site : Url)
    (api : List (List Char)) (slug : RepoSlug) (other : Json) :
    (ofTree tree top (api ++ slug.segments).length other).Serves site api slug tree top := by
  intro sent request names asks
  obtain ⟨kind, rest, hkind, hrest, hdrop⟩ :=
    List.forall₂_cons_right_iff.1 (List.forall₂_drop_append _ _ _ asks.path)
  have contents : Url.nameOf kind = "contents" := Url.StandsFor.nameOf_eq hkind
  have read : rest.map Url.nameOf = names := by
    rw [List.forall₂_map_right_iff] at hrest
    rw [← List.forall₂_eq_eq_eq, List.forall₂_map_left_iff]
    exact hrest.imp fun _ _ => Url.StandsFor.nameOf_eq
  refine ⟨_, ?_, Response.shows_showing _⟩
  simp only [ofTree, asks.method, hdrop, contents, read, if_true]

end Http

/-! ## Reading a file -/

namespace GitHubForge

variable {forge : GitHubForge} {server : Http.Server}

/-- What is asked for is the file at the names of the path. -/
lemma exists_asksForFile (hserved : forge.IsServedAt site api)
    (hpath : IsPortable (relativePath path)) :
    ∃ request, forge.request (.readTextFile path) = .ok request ∧
      request.AsksForFile site api forge.slug (pathNames (relativePath path)) := by
  obtain ⟨url, hrequest, hscheme, hhost, hport, hurl, hquery, -⟩ :=
    exists_request_of_readAsWritten hserved hpath.isReadAsWritten
  refine ⟨_, hrequest, ⟨hscheme, hhost, hport⟩, rfl, ?_, hquery⟩
  have noPercent : ∀ name ∈ callNames (.readTextFile path), '%' ∉ name := by
    rw [callNames_readTextFile]
    refine List.forall_mem_cons.2 ⟨by decide, fun segment hsegment hmem => ?_⟩
    obtain ⟨name, hname, rfl⟩ := List.mem_map.1 hsegment
    exact hpath.noPercent (IsPortable.mem_toList_of_mem_pathNames hname _ hmem).1
  have repository : List.Forall₂ Url.StandsFor (api ++ forge.slug.segments)
      (api ++ forge.slug.segments) :=
    List.forall₂_same.2 fun name hname => (hserved.plain_segments name hname).standsFor_self
  rw [requestAt, hurl, ← callNames_readTextFile]
  exact List.rel_append repository (Url.forall₂_standsFor_map _ noPercent)

/-- A text is read by a path exactly if the file at its names holds it. -/
theorem perform_readTextFile_eq_ok_iff (hserved : forge.IsServedAt site api)
    (serves : server.Serves site api forge.slug tree top) (hpath : IsPortable (relativePath path))
    (sent : List Http.Request) {text : String} :
    (perform server.send forge (.readTextFile path) sent).1 = .ok text ↔
      ∃ content, tree.entryAt? (top ++ pathNames (relativePath path)) = some (.file content) ∧
        Text.decode? content = some text := by
  obtain ⟨request, hrequest, asks⟩ := exists_asksForFile hserved hpath
  obtain ⟨response, hresponse, shows⟩ := serves sent request _ asks
  rw [perform_of_response hrequest hresponse]
  exact reply_readTextFile_eq_ok_iff shows

end GitHubForge

end PullTriage
