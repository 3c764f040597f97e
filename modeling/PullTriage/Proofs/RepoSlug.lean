import PullTriage.RepoSlug
import PullTriage.Proofs.Json.RoundTrip
import PullTriage.Proofs.Text.Split
import Mathlib.Data.List.Basic

/-!
# Reading and writing repositories

The text `owner/name` and the repository determine each other (`parse?_eq_some_iff`), because
neither part has a slash in it.  A remote URL is one of three heads with such a text behind it, and
`.git` behind that if one likes (`ofRemoteUrl?_eq_some_iff`); a head is never the beginning of
another one, so there is one way to read it.
-/

namespace PullTriage.RepoSlug

open Text Unicode

variable {slug : RepoSlug} {text part owner name : String}

/-! ## Parts -/

/-- An owner or a name: a text that is not empty and has neither a slash nor white space in it. -/
structure IsPart (part : String) : Prop where
  ne_empty : part ≠ ""
  free : ∀ c ∈ part.toList, c ≠ '/' ∧ isBlank c = false

lemma isSlugPart_iff : isSlugPart part = true ↔ IsPart part := by
  rw [isSlugPart, Bool.and_eq_true, List.all_eq_true]
  constructor
  · rintro ⟨hempty, hfree⟩
    refine ⟨fun h => ?_, fun c hc => ?_⟩
    · rw [String.isEmpty_iff.2 h] at hempty
      cases hempty
    · simpa using hfree c hc
  · rintro ⟨hne, hfree⟩
    refine ⟨?_, fun c hc => ?_⟩
    · rw [Bool.not_eq_true', Bool.eq_false_iff]
      exact fun hempty => hne (String.isEmpty_iff.1 hempty)
    · simpa using hfree c hc

lemma isPart_owner (slug : RepoSlug) : IsPart slug.owner :=
  isSlugPart_iff.1 slug.isSlugPart_owner

lemma isPart_name (slug : RepoSlug) : IsPart slug.name :=
  isSlugPart_iff.1 slug.isSlugPart_name

lemma IsPart.slash_not_mem (h : IsPart part) : '/' ∉ part.toList :=
  fun hmem => (h.free '/' hmem).1 rfl

/-! ## The text `owner/name` -/

lemma toList_toText (slug : RepoSlug) :
    slug.toText.toList = slug.owner.toList ++ '/' :: slug.name.toList := by
  rw [toText, String.toList_append, String.toList_append, List.append_assoc]
  rfl

lemma ofParts?_eq_some_iff :
    ofParts? owner name = some slug ↔ slug.owner = owner ∧ slug.name = name := by
  obtain ⟨owner', name', howner, hname⟩ := slug
  rw [ofParts?]
  constructor
  · intro h
    split at h
    · cases h
      exact ⟨rfl, rfl⟩
    · cases h
  · rintro ⟨rfl, rfl⟩
    rw [dif_pos ⟨howner, hname⟩]

lemma intercalate_pair (before behind : List Char) :
    ['/'].intercalate [before, behind] = before ++ '/' :: behind := by
  simp [List.intercalate]

lemma splitOn_toText (slug : RepoSlug) :
    slug.toText.toList.splitOn '/' = [slug.owner.toList, slug.name.toList] := by
  refine splitOn_eq_iff.2 ⟨List.cons_ne_nil _ _, fun piece hpiece => ?_, ?_⟩
  · rcases List.mem_pair.1 hpiece with rfl | rfl
    · exact slug.isPart_owner.slash_not_mem
    · exact slug.isPart_name.slash_not_mem
  · rw [toList_toText, intercalate_pair]

/-- A repository is read from its text and from no other one. -/
theorem parse?_eq_some_iff : parse? text = some slug ↔ slug.toText = text := by
  constructor
  · intro h
    rw [parse?] at h
    split at h
    · rename_i owner name hsplit
      obtain ⟨howner, hname⟩ := ofParts?_eq_some_iff.1 h
      have joined := (splitOn_eq_iff.1 hsplit).joined
      rw [← String.toList_inj, toList_toText, howner, hname, ← joined, intercalate_pair,
        String.toList_ofList, String.toList_ofList]
    · cases h
  · rintro rfl
    rw [parse?, splitOn_toText]
    exact ofParts?_eq_some_iff.2 ⟨String.ofList_toList.symm, String.ofList_toList.symm⟩

lemma parse_eq_ok_iff : parse text = .ok slug ↔ slug.toText = text := by
  rw [parse, ← parse?_eq_some_iff]
  cases parse? text with
  | none => exact ⟨nofun, nofun⟩
  | some found => rw [Except.ok.injEq, Option.some.injEq]

lemma count_toText (slug : RepoSlug) : slug.toText.toList.count '/' = 1 := by
  rw [toList_toText, List.count_append, List.count_cons_self,
    List.count_eq_zero.2 slug.isPart_owner.slash_not_mem,
    List.count_eq_zero.2 slug.isPart_name.slash_not_mem]

/-- A text is read if it has one slash, and an owner and a name around that. -/
lemma exists_parse_eq_ok_iff : (∃ slug, parse text = .ok slug) ↔
    text.toList.count '/' = 1 ∧
      ∃ owner name, IsPart owner ∧ IsPart name ∧ text = owner ++ "/" ++ name := by
  constructor
  · rintro ⟨slug, h⟩
    obtain rfl := parse_eq_ok_iff.1 h
    exact ⟨slug.count_toText, slug.owner, slug.name, slug.isPart_owner, slug.isPart_name, rfl⟩
  · rintro ⟨-, owner, name, howner, hname, rfl⟩
    exact ⟨⟨owner, name, isSlugPart_iff.2 howner, isSlugPart_iff.2 hname⟩, parse_eq_ok_iff.2 rfl⟩

/-! ## Remote URLs -/

lemma dropDotGit_eq_iff {rest front : List Char} : dropDotGit rest = front ↔
    rest = front ++ ".git".toList ∨ rest = front ∧ ¬ ".git".toList <:+ front := by
  rw [dropDotGit]
  cases hdrop : (".git".toList).isSuffixOf? rest with
  | none =>
    have stays : ¬ ".git".toList <:+ rest := by
      rintro ⟨front, rfl⟩
      rw [List.isSuffixOf?_eq_some_iff_append_eq.2 rfl] at hdrop
      cases hdrop
    constructor
    · rintro rfl
      exact .inr ⟨rfl, stays⟩
    · rintro (rfl | ⟨rfl, -⟩)
      · exact absurd ⟨front, rfl⟩ stays
      · rfl
  | some before =>
    obtain rfl := List.append_eq_of_isSuffixOf?_eq_some hdrop
    constructor
    · rintro rfl
      exact .inl rfl
    · rintro (h | ⟨rfl, h⟩)
      · exact List.append_cancel_right h
      · exact absurd ⟨before, rfl⟩ h

/-- No head is the beginning of another one. -/
lemma eq_of_prefix_head {head head' : String} (h : head ∈ remoteHeads) (h' : head' ∈ remoteHeads)
    (hbegins : head.toList <+: head'.toList) : head = head' := by
  have apart : ∀ head ∈ remoteHeads, ∀ head' ∈ remoteHeads,
      head.toList <+: head'.toList → head = head' := by
    decide
  exact apart head h head' h' hbegins

lemma findSome?_remoteHeads_iff {url rest : List Char} :
    (remoteHeads.findSome? fun head => head.toList.isPrefixOf? url) = some rest ↔
      ∃ head ∈ remoteHeads, head.toList ++ rest = url := by
  have sound {rest : List Char}
      (h : (remoteHeads.findSome? fun head => head.toList.isPrefixOf? url) = some rest) :
      ∃ head ∈ remoteHeads, head.toList ++ rest = url := by
    obtain ⟨head, hmem, hfound⟩ := List.exists_of_findSome?_eq_some h
    exact ⟨head, hmem, List.isPrefixOf?_eq_some_iff_append_eq.1 hfound⟩
  refine ⟨sound, ?_⟩
  rintro ⟨head, hmem, rfl⟩
  cases hfind : remoteHeads.findSome? fun head' =>
      head'.toList.isPrefixOf? (head.toList ++ rest) with
  | none =>
    have misses := List.findSome?_eq_none_iff.1 hfind head hmem
    rw [List.isPrefixOf?_eq_some_iff_append_eq.2 rfl] at misses
    cases misses
  | some rest' =>
    obtain ⟨head', hmem', heq⟩ := sound hfind
    have same : head' = head := by
      rcases List.prefix_or_prefix_of_prefix ⟨rest', heq⟩ ⟨rest, rfl⟩ with hbegins | hbegins
      · exact eq_of_prefix_head hmem' hmem hbegins
      · exact (eq_of_prefix_head hmem hmem' hbegins).symm
    rw [same] at heq
    rw [List.append_cancel_left heq]

lemma dotGit_suffix_toText_iff (slug : RepoSlug) :
    ".git".toList <:+ slug.toText.toList ↔ ".git".toList <:+ slug.name.toList := by
  have noSlash : '/' ∉ ".git".toList := by decide
  rw [toList_toText]
  constructor
  · intro h
    rcases List.suffix_or_suffix_of_suffix h (List.suffix_append _ _) with hshort | hlong
    · rcases List.suffix_cons_iff.1 hshort with heq | hname
      · exact absurd (heq ▸ List.mem_cons_self) noSlash
      · exact hname
    · exact absurd (hlong.subset List.mem_cons_self) noSlash
  · intro h
    exact h.trans ((List.suffix_cons '/' _).trans (List.suffix_append _ _))

/-- A remote URL is a head with the text of the repository behind it, and perhaps `.git`. -/
theorem ofRemoteUrl?_eq_some_iff : ofRemoteUrl? text = some slug ↔ ∃ head ∈ remoteHeads,
    text = head ++ slug.toText ++ ".git" ∨
      text = head ++ slug.toText ∧ ¬ ".git".toList <:+ slug.name.toList := by
  have parses {rest : List Char} : parse? (String.ofList (dropDotGit rest)) = some slug ↔
      dropDotGit rest = slug.toText.toList := by
    rw [parse?_eq_some_iff, ← String.toList_inj, String.toList_ofList, eq_comm]
  rw [ofRemoteUrl?, Option.bind_eq_some_iff]
  constructor
  · rintro ⟨rest, hrest, hparse⟩
    obtain ⟨head, hmem, hurl⟩ := findSome?_remoteHeads_iff.1 hrest
    refine ⟨head, hmem, ?_⟩
    rw [← String.toList_inj, ← String.toList_inj, String.toList_append, String.toList_append,
      ← hurl, List.append_assoc]
    rcases dropDotGit_eq_iff.1 (parses.1 hparse) with rfl | ⟨rfl, hends⟩
    · exact .inl rfl
    · exact .inr ⟨rfl, fun h => hends (slug.dotGit_suffix_toText_iff.2 h)⟩
  · rintro ⟨head, hmem, htext⟩
    rcases htext with rfl | ⟨rfl, hends⟩
    · refine ⟨slug.toText.toList ++ ".git".toList, ?_, parses.2 (dropDotGit_eq_iff.2 (.inl rfl))⟩
      refine findSome?_remoteHeads_iff.2 ⟨head, hmem, ?_⟩
      rw [String.toList_append, String.toList_append, List.append_assoc]
    · refine ⟨slug.toText.toList, findSome?_remoteHeads_iff.2 ⟨head, hmem, ?_⟩, parses.2 ?_⟩
      · rw [String.toList_append]
      · exact dropDotGit_eq_iff.2 (.inr ⟨rfl, fun h => hends (slug.dotGit_suffix_toText_iff.1 h)⟩)

/-! ## Texts and remote URLs -/

/-- The text of a repository does not begin like a remote URL, unless its owner does. -/
lemma not_prefix_toText {head : String} (hmem : head ∈ remoteHeads)
    (howner : ¬ "git@github.com:".toList <+: slug.owner.toList) :
    ¬ head.toList <+: slug.toText.toList := by
  intro hbegins
  have slashes := hbegins.sublist.count_le '/'
  rw [count_toText] at slashes
  simp only [remoteHeads, List.mem_cons, List.not_mem_nil, or_false] at hmem
  -- The other heads have three slashes.
  rcases hmem with rfl | rfl | rfl
  · rw [toList_toText] at hbegins
    obtain ⟨rest, happend⟩ := hbegins
    rcases List.append_eq_append_iff.1 happend with ⟨more, hmore, -⟩ | ⟨more, hhead, hrest⟩
    · exact howner ⟨more, hmore.symm⟩
    · cases more with
      | nil => exact howner ⟨[], by rw [hhead, List.append_nil, List.append_nil]⟩
      | cons c more =>
        have noSlash : '/' ∉ "git@github.com:".toList := by decide
        rw [hhead, ← List.head_eq_of_cons_eq hrest] at noSlash
        exact noSlash (List.mem_append_right _ List.mem_cons_self)
  · exact absurd slashes (by decide)
  · exact absurd slashes (by decide)

lemma parseOrRemote_of_remote (h : ofRemoteUrl? text = some slug) :
    parseOrRemote text = .ok slug := by
  rw [parseOrRemote, h]

lemma parseOrRemote_toText (howner : ¬ "git@github.com:".toList <+: slug.owner.toList) :
    parseOrRemote slug.toText = .ok slug := by
  have plain : ofRemoteUrl? slug.toText = none := by
    rw [Option.eq_none_iff_forall_ne_some]
    intro found hfound
    obtain ⟨head, hmem, htext⟩ := ofRemoteUrl?_eq_some_iff.1 hfound
    refine not_prefix_toText hmem howner ?_
    rcases htext with htext | ⟨htext, -⟩
    · rw [htext, String.toList_append, String.toList_append, List.append_assoc]
      exact List.prefix_append _ _
    · rw [htext, String.toList_append]
      exact List.prefix_append _ _
  rw [parseOrRemote, plain]
  exact parse_eq_ok_iff.2 rfl

/-- The ways to write a repository: its text, and each remote URL with and without `.git`. -/
def spellings (slug : RepoSlug) : List String :=
  slug.toText :: remoteHeads.flatMap fun head =>
    [head ++ slug.toText, head ++ slug.toText ++ ".git"]

lemma parseOrRemote_spelling (howner : ¬ "git@github.com:".toList <+: slug.owner.toList)
    (hname : ¬ ".git".toList <:+ slug.name.toList) :
    ∀ spelling ∈ slug.spellings, parseOrRemote spelling = .ok slug := by
  intro spelling hmem
  rcases List.mem_cons.1 hmem with rfl | hmem
  · exact parseOrRemote_toText howner
  · obtain ⟨head, hhead, hspelling⟩ := List.mem_flatMap.1 hmem
    refine parseOrRemote_of_remote (ofRemoteUrl?_eq_some_iff.2 ⟨head, hhead, ?_⟩)
    rcases List.mem_pair.1 hspelling with rfl | rfl
    · exact .inr ⟨rfl, hname⟩
    · exact .inl rfl

/-! ## All ways together -/

/-- The ways in which a repository is made from a text, which is JSON in the last of them.  The
conversions from a string are `parse`. -/
inductive MadeFrom (text : String) (slug : RepoSlug) : Prop
  | parsed (h : parse text = .ok slug)
  | remote (h : ofRemoteUrl? text = some slug)
  | parsedOrRemote (h : parseOrRemote text = .ok slug)
  | json (h : (Json.ofString? text).bind ofJson? = some slug)

lemma ofJson?_print_toJson (slug : RepoSlug) :
    (Json.ofString? slug.toJson.print).bind ofJson? = some slug := by
  rw [toJson, Json.ofString?_print (Json.WellFormed.text _), Option.bind_some]
  exact parse?_eq_some_iff.2 rfl

/-- Whatever a repository is made from, it has an owner and a name; the text `owner/name`, and no
other one, is read as it; JSON gives it back; its remote URLs are a head, that text and perhaps
`.git`; and all its spellings are read alike, unless the owner begins like a remote URL or the name
ends in `.git`. -/
theorem forms_agree (text : String) (slug : RepoSlug) :
    (MadeFrom text slug → IsPart slug.owner ∧ IsPart slug.name) ∧
      ((∃ found, parse text = .ok found) ↔ text.toList.count '/' = 1 ∧
        ∃ owner name, IsPart owner ∧ IsPart name ∧ text = owner ++ "/" ++ name) ∧
      (parse text = .ok slug ↔ slug.toText = text) ∧
      (Json.ofString? slug.toJson.print).bind ofJson? = some slug ∧
      (ofRemoteUrl? text = some slug ↔ ∃ head ∈ remoteHeads,
        text = head ++ slug.toText ++ ".git" ∨
          text = head ++ slug.toText ∧ ¬ ".git".toList <:+ slug.name.toList) ∧
      (¬ "git@github.com:".toList <+: slug.owner.toList → ¬ ".git".toList <:+ slug.name.toList →
        ∀ spelling ∈ slug.spellings, parseOrRemote spelling = .ok slug) :=
  ⟨fun _ => ⟨slug.isPart_owner, slug.isPart_name⟩, exists_parse_eq_ok_iff, parse_eq_ok_iff,
    slug.ofJson?_print_toJson, ofRemoteUrl?_eq_some_iff, parseOrRemote_spelling⟩

/-- A repository whose owner and name look like pieces of a remote URL. -/
def lookalike : RepoSlug where
  owner := "git@github.com"
  name := "x.git.git-"
  isSlugPart_owner := by decide
  isSlugPart_name := by decide

/-- All its spellings are read alike. -/
theorem forms_agree_lookalike : ¬ "git@github.com:".toList <+: lookalike.owner.toList ∧
    ¬ ".git".toList <:+ lookalike.name.toList ∧ lookalike.spellings.length = 7 ∧
    ∀ spelling ∈ lookalike.spellings, parseOrRemote spelling = .ok lookalike := by
  have howner : ¬ "git@github.com:".toList <+: lookalike.owner.toList := by decide
  have hname : ¬ ".git".toList <:+ lookalike.name.toList := by decide
  obtain ⟨-, -, -, -, -, spelled⟩ := forms_agree lookalike.toText lookalike
  exact ⟨howner, hname, rfl, spelled howner hname⟩

end PullTriage.RepoSlug
