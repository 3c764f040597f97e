import PullTriage.Cli.Run
import PullTriage.Proofs.Except
import PullTriage.Proofs.RepoSlug

/-!
# Remotes of other hosts

A text that is no remote URL of the hosting service is read as `owner/name`, by a reader that does
not know what a URL is.  So it is the slashes that decide what the remote of another host is taken
for.  Over HTTP it has four of them, and no repository has more than one.  Over SSH it has one,
between the owner and the name, and what stands in front of that slash is the owner: the user, the
host and the colon are part of it.

`otherHost_read` says so for every host, owner and name, and for every place where a repository can
be named.  `exists_otherHost_accepted` has a remote of another host that is not refused.
-/

namespace PullTriage.RepoSlug

open Text Unicode

variable {host owner name text : String} {slug : RepoSlug}

/-- A host as it stands in a remote: a text that is not empty, without white space and without the
characters that end the parts of a remote. -/
structure IsHost (host : String) : Prop where
  ne_empty : host ≠ ""
  free : ∀ c ∈ host.toList, c ≠ '/' ∧ c ≠ ':' ∧ c ≠ '@' ∧ isBlank c = false

lemma isHost_of_isPart (h : IsPart host) (hcolon : ':' ∉ host.toList) (hat : '@' ∉ host.toList) :
    IsHost host where
  ne_empty := h.ne_empty
  free c hc := ⟨(h.free c hc).1, fun heq => hcolon (heq ▸ hc), fun heq => hat (heq ▸ hc),
    (h.free c hc).2⟩

lemma isHost_gitlab : IsHost "gitlab.com" :=
  isHost_of_isPart (isSlugPart_iff.1 (by decide)) (by decide) (by decide)

/-! ## Every place reads alike -/

/-- The text names no repository: to the reader, in a configuration, and as an option of triage. -/
structure IsRefused (text : String) : Prop where
  read : parseOrRemote text = .error ⟨text⟩
  configured : ∀ config : RepoConfig, config.repo = some text →
    config.validate = .error (.invalidValue (SlugError.message ⟨text⟩))
  option : ∀ (options : Cli.TriageOptions) (client : Http.Client)
    (environment : String → Option String) (config : Config), options.repo = some text →
      options.prepare client environment config = .error [SlugError.message ⟨text⟩]

/-- The text names this repository, in each of these places. -/
structure IsTakenFor (text : String) (slug : RepoSlug) : Prop where
  read : parseOrRemote text = .ok slug
  configured : ∀ config : Config, config.repo.bind (·.repo) = some text →
    config.repoSlug? = some slug
  option : ∀ (options : Cli.TriageOptions) (config : Config), options.repo = some text →
    options.slug config = .ok slug

lemma isRefused_of_error (h : parseOrRemote text = .error ⟨text⟩) : IsRefused text where
  read := h
  configured config hrepo := by
    have refused : (parseOrRemote text).mapError (fun e => ValueError.invalidValue e.message) =
        .error (.invalidValue (SlugError.message ⟨text⟩)) := by
      rw [h]
      rfl
    rw [RepoConfig.validate, hrepo]
    refine Except.bind_eq_error_iff.2 (.inl ?_)
    change discard ((parseOrRemote text).mapError _) = _
    rw [refused]
    rfl
  option options client environment config hrepo := by
    have hslug : options.slug config = .error [SlugError.message ⟨text⟩] := by
      unfold Cli.TriageOptions.slug
      rw [hrepo]
      dsimp only
      rw [h]
      rfl
    rw [Cli.TriageOptions.prepare, hslug]
    rfl

lemma isTakenFor_of_ok (h : parseOrRemote text = .ok slug) : IsTakenFor text slug where
  read := h
  configured config hrepo := by
    rw [Config.repoSlug?, hrepo, Option.bind_some, h]
    rfl
  option options config hrepo := by
    unfold Cli.TriageOptions.slug
    rw [hrepo]
    dsimp only
    rw [h]
    rfl

/-! ## The head of a remote names its host -/

/-- What a remote can begin with, and the character that ends its host. -/
def remoteForms : List (String × Char) :=
  [("git@", ':'), ("https://", '/'), ("http://", '/')]

lemma remoteHeads_eq_map : remoteHeads =
    remoteForms.map fun form => form.1 ++ "github.com" ++ String.singleton form.2 := by
  decide

/-- None of the beginnings is the beginning of another one. -/
lemma form_eq_of_begins {form other : String × Char} (h : form ∈ remoteForms)
    (hother : other ∈ remoteForms) (hbegins : form.1.toList <+: other.1.toList) : form = other := by
  have apart : ∀ form ∈ remoteForms, ∀ other ∈ remoteForms,
      form.1.toList <+: other.1.toList → form = other := by
    decide
  exact apart form h other hother hbegins

/-- The part in front of a character that does not occur in it can be read off the text. -/
lemma eq_of_prefix_append {separator : Char} {front other rest : List Char}
    (hfront : separator ∉ front) (hother : separator ∉ other)
    (hbegins : front ++ [separator] <+: other ++ separator :: rest) : front = other := by
  obtain ⟨more, hmore⟩ := hbegins
  rw [List.append_assoc] at hmore
  have before : (other ++ separator :: rest).takeWhile (· != separator) = front :=
    takeWhile_ne_eq_iff.2 ⟨hfront, .inr ⟨more, hmore.symm⟩⟩
  rw [← before]
  exact takeWhile_ne_eq_iff.2 ⟨hother, .inr ⟨rest, rfl⟩⟩

/-- A text that begins like a remote of the hosting service is a remote of it. -/
lemma eq_github_of_begins {form : String × Char} (hform : form ∈ remoteForms) (hhost : IsHost host)
    {head : String} (hhead : head ∈ remoteHeads) {rest : List Char}
    (hbegins : head.toList <+: form.1.toList ++ (host.toList ++ form.2 :: rest)) :
    host = "github.com" := by
  rw [remoteHeads_eq_map] at hhead
  obtain ⟨other, hother, rfl⟩ := List.mem_map.1 hhead
  simp only [String.toList_append, String.toList_singleton, List.append_assoc] at hbegins
  have same : other = form := by
    have front : other.1.toList <+: form.1.toList ++ (host.toList ++ form.2 :: rest) :=
      (List.prefix_append _ _).trans hbegins
    rcases List.prefix_or_prefix_of_prefix front (List.prefix_append _ _) with h | h
    · exact form_eq_of_begins hother hform h
    · exact (form_eq_of_begins hform hother h).symm
  subst same
  have free : other.2 ∉ "github.com".toList ∧ other.2 ∉ host.toList := by
    have separators : ∀ form ∈ remoteForms, form.2 = '/' ∨ form.2 = ':' := by decide
    rcases separators other hother with heq | heq
    · exact ⟨heq ▸ by decide, fun h => (hhost.free _ h).1 heq⟩
    · exact ⟨heq ▸ by decide, fun h => (hhost.free _ h).2.1 heq⟩
  have named : "github.com".toList = host.toList :=
    eq_of_prefix_append free.1 free.2 ((List.prefix_append_right_inj _).1 hbegins)
  exact (String.toList_inj.1 named).symm

/-! ## Over HTTP -/

lemma parse_eq_error_of_count (h : text.toList.count '/' ≠ 1) : parse text = .error ⟨text⟩ := by
  have none : parse? text = none := by
    rw [Option.eq_none_iff_forall_ne_some]
    intro slug hslug
    exact h (parse?_eq_some_iff.1 hslug ▸ slug.count_toText)
  rw [parse, none]

/-- The remote over HTTP has two slashes more than its head shows. -/
lemma isRefused_http {scheme : String} (hscheme : scheme ∈ ["https://", "http://"])
    (hhost : IsHost host) (hother : host ≠ "github.com") :
    IsRefused (scheme ++ host ++ "/" ++ owner ++ "/" ++ name) := by
  have hform : (scheme, '/') ∈ remoteForms := by
    rcases List.mem_pair.1 hscheme with rfl | rfl <;> decide
  have foreign : ofRemoteUrl? (scheme ++ host ++ "/" ++ owner ++ "/" ++ name) = none := by
    rw [Option.eq_none_iff_forall_ne_some]
    intro slug hslug
    obtain ⟨head, hhead, hurl⟩ := ofRemoteUrl?_eq_some_iff.1 hslug
    have begins : head.toList <+: (scheme ++ host ++ "/" ++ owner ++ "/" ++ name).toList := by
      rcases hurl with hurl | ⟨hurl, -⟩
      · simp [hurl]
      · simp [hurl]
    have parted : (scheme ++ host ++ "/" ++ owner ++ "/" ++ name).toList =
        scheme.toList ++ (host.toList ++ '/' :: (owner.toList ++ '/' :: name.toList)) := by
      simp
    exact hother (eq_github_of_begins hform hhost hhead (parted ▸ begins))
  have slashes : 1 < (scheme ++ host ++ "/" ++ owner ++ "/" ++ name).toList.count '/' := by
    have two : 2 ≤ scheme.toList.count '/' := by
      rcases List.mem_pair.1 hscheme with rfl | rfl <;> decide
    simp only [String.toList_append, List.count_append]
    omega
  refine isRefused_of_error ?_
  rw [parseOrRemote, foreign]
  exact parse_eq_error_of_count slashes.ne'

/-! ## Over SSH -/

lemma IsPart.append {part more : String} (h : IsPart part)
    (hmore : ∀ c ∈ more.toList, c ≠ '/' ∧ isBlank c = false) : IsPart (part ++ more) where
  ne_empty hempty := h.ne_empty (String.append_eq_empty_iff.1 hempty).1
  free c hc := by
    rw [String.toList_append, List.mem_append] at hc
    exact hc.elim (h.free c) (hmore c)

lemma isPart_sshOwner (hhost : IsHost host) (howner : IsPart owner) :
    IsPart ("git@" ++ host ++ ":" ++ owner) := by
  have user : IsPart "git@" := isSlugPart_iff.1 (by decide)
  have address : IsPart ("git@" ++ host) :=
    user.append fun c hc => ⟨(hhost.free c hc).1, (hhost.free c hc).2.2.2⟩
  have colon : IsPart ":" := isSlugPart_iff.1 (by decide)
  exact (address.append colon.free).append howner.free

/-- The remote over SSH is the text of a repository. -/
lemma isTakenFor_ssh (hhost : IsHost host) (hother : host ≠ "github.com") (howner : IsPart owner)
    (hname : IsPart name) : ∃ slug : RepoSlug, slug.owner = "git@" ++ host ++ ":" ++ owner ∧
      slug.name = name ∧ IsTakenFor ("git@" ++ host ++ ":" ++ owner ++ "/" ++ name) slug := by
  have foreign : ¬ "git@github.com:".toList <+: ("git@" ++ host ++ ":" ++ owner).toList := by
    intro begins
    have parted : ("git@" ++ host ++ ":" ++ owner).toList =
        "git@".toList ++ (host.toList ++ ':' :: owner.toList) := by
      simp
    have hform : ("git@", ':') ∈ remoteForms := by decide
    have hhead : "git@github.com:" ∈ remoteHeads := by decide
    exact hother (eq_github_of_begins hform hhost hhead (parted ▸ begins))
  let slug : RepoSlug := ⟨"git@" ++ host ++ ":" ++ owner, name,
    isSlugPart_iff.2 (isPart_sshOwner hhost howner), isSlugPart_iff.2 hname⟩
  have written : "git@" ++ host ++ ":" ++ owner ++ "/" ++ name = slug.toText := rfl
  rw [written]
  exact ⟨slug, rfl, rfl, isTakenFor_of_ok (parseOrRemote_toText foreign)⟩

/-! ## Both -/

/-- The remotes of another host are no repositories over HTTP, and over SSH they are the repository
whose owner is the remote up to its slash, and whose name is all that is behind it. -/
theorem otherHost_read (hhost : IsHost host) (hother : host ≠ "github.com")
    (howner : IsPart owner) (hname : IsPart name) :
    (∀ scheme ∈ ["https://", "http://"],
        IsRefused (scheme ++ host ++ "/" ++ owner ++ "/" ++ name)) ∧
      ∀ ending ∈ ["", ".git"], ∃ slug : RepoSlug,
        slug.owner = "git@" ++ host ++ ":" ++ owner ∧ slug.name = name ++ ending ∧
          IsTakenFor ("git@" ++ host ++ ":" ++ owner ++ "/" ++ name ++ ending) slug := by
  refine ⟨fun scheme hscheme => isRefused_http hscheme hhost hother, fun ending hending => ?_⟩
  have hnamed : IsPart (name ++ ending) := by
    rcases List.mem_pair.1 hending with rfl | rfl
    · rwa [String.append_empty]
    · have dotGit : IsPart ".git" := isSlugPart_iff.1 (by decide)
      exact hname.append dotGit.free
  have joined : "git@" ++ host ++ ":" ++ owner ++ "/" ++ name ++ ending =
      "git@" ++ host ++ ":" ++ owner ++ "/" ++ (name ++ ending) := String.append_assoc
  rw [joined]
  exact isTakenFor_ssh hhost hother howner hnamed

theorem otherHost_read_gitlab : IsHost "gitlab.com" ∧ "gitlab.com" ≠ "github.com" ∧ IsPart "o" ∧
    IsPart "r" ∧ IsRefused "https://gitlab.com/o/r" ∧
    ∃ slug : RepoSlug, slug.owner = "git@gitlab.com:o" ∧ slug.name = "r.git" ∧
      IsTakenFor "git@gitlab.com:o/r.git" slug := by
  have hother : "gitlab.com" ≠ "github.com" := by decide
  have howner : IsPart "o" := isSlugPart_iff.1 (by decide)
  have hname : IsPart "r" := isSlugPart_iff.1 (by decide)
  obtain ⟨http, ssh⟩ := otherHost_read isHost_gitlab hother howner hname
  exact ⟨isHost_gitlab, hother, howner, hname, http "https://" (by decide), ssh ".git" (by decide)⟩

/-- A remote of another host is a repository over SSH, and none over HTTP. -/
theorem exists_otherHost_accepted : IsHost "gitlab.com" ∧ "gitlab.com" ≠ "github.com" ∧
    IsPart "o" ∧ IsPart "r" ∧
    (∃ slug : RepoSlug, parseOrRemote "git@gitlab.com:o/r" = .ok slug ∧
      slug.owner = "git@gitlab.com:o" ∧ slug.name = "r") ∧
    parseOrRemote "https://gitlab.com/o/r" = .error ⟨"https://gitlab.com/o/r"⟩ :=
  ⟨isHost_gitlab, by decide, isSlugPart_iff.1 (by decide), isSlugPart_iff.1 (by decide),
    ⟨⟨"git@gitlab.com:o", "r", by decide, by decide⟩, by decide, rfl, rfl⟩, by decide⟩

end PullTriage.RepoSlug
