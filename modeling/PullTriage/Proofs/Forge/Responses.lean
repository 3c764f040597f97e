import PullTriage.Files.Basic
import PullTriage.Forge.GitHub
import PullTriage.Proofs.Json.Record
import PullTriage.Proofs.Text.Encoding
import Mathlib.Data.List.Forall2

/-!
# What the responses say

What a response says is a matter of its status and of the JSON value in its body.  The predicates of
this module say so for the responses that matter to triage, without a word on how a body is decoded:
a list of files, the text of a file, and that something was accepted.  The reply to a call is then
the answer that the response gives (`reply_compare`, `reply_readTextFile`, `reply_createComment`,
`reply_addLabels`), whatever else stands in the body, and a missing thing is reported as such
(`reply_of_missing`).

A response that `Shows` what there is at a place, be it a file with any bytes, a directory or
nothing, gives the text that is read from there if it is text (`reply_readTextFile_eq_ok_iff`).
-/

namespace PullTriage

open Json

/-- The body of the response is an object with these members. -/
def Http.Response.IsObject (response : Http.Response) (members : Members) : Prop :=
  Json.ofBytes? response.body = some (.ofMembers members)

/-- The object names the file, and may say more about it. -/
def Json.Describes (item : Json) (file : ChangedFile) : Prop :=
  ∃ members, item = .ofMembers members ∧ HasMember members "filename" (.text file.filename)

/-- The response lists these files, in order, and may say more. -/
structure Http.Response.Lists (response : Http.Response) (files : List ChangedFile) : Prop where
  status : response.status = 200
  body : ∃ members items, response.IsObject members ∧
    HasMember members "files" (.array items) ∧ List.Forall₂ Json.Describes items files

/-- The response holds this text in Base64, with white space anywhere in it, and may say more. -/
structure Http.Response.Holds (response : Http.Response) (text : String) : Prop where
  status : response.status = 200
  body : ∃ members content, response.IsObject members ∧
    HasMember members "content" (.text content) ∧ HasMember members "encoding" (.text "base64") ∧
    content.toList.filter (fun c => !Unicode.isBlank c) = Base64.encode text.toUTF8.data.toList

/-- The response holds these bytes in Base64, with white space anywhere in it, and may say more. -/
structure Http.Response.HoldsBytes (response : Http.Response) (bytes : ByteArray) : Prop where
  status : response.status = 200
  body : ∃ members content, response.IsObject members ∧
    HasMember members "content" (.text content) ∧ HasMember members "encoding" (.text "base64") ∧
    content.toList.filter (fun c => !Unicode.isBlank c) = Base64.encode bytes.data.toList

/-- The response lists objects, one for each entry of a directory. -/
structure Http.Response.ListsEntries (response : Http.Response) : Prop where
  status : response.status = 200
  body : ∃ items, Json.ofBytes? response.body = some (.array items) ∧
    ∀ item ∈ items, ∃ members, item = .object members

/-- The response shows what there is at a place. -/
def Http.Response.Shows (response : Http.Response) : Option FileEntry → Prop
  | some (.file content) => response.HoldsBytes content
  | some .directory => response.ListsEntries
  | none => response.status = 404

/-- The response says that all went well, with some value in its body. -/
structure Http.Response.Accepts (response : Http.Response) : Prop where
  success : response.isSuccess = true
  body : ∃ v, Json.ofBytes? response.body = some v

/-! ## Reading objects -/

namespace Json

variable {form : Form} {members : Members} {name : String} {v : Json}

/-- An object with all fields of an open record writes it, whatever else it has. -/
lemma members?_of_hasMember (hopen : form.closed = false)
    (h : ∀ f ∈ form.fields, ∃ v, HasMember members f.name v) :
    members? form (.ofMembers members) = some (form.known members) := by
  refine members?_ofMembers_eq_some_iff.2 ⟨fun f hf => ?_, by simp [hopen], rfl⟩
  obtain ⟨v, hv⟩ := h f hf
  exact hv.length_le

lemma HasMember.known (h : HasMember members name v) (hknows : form.knows name = true) :
    (form.known members).get? name = some v := by
  rw [get?_known hknows, h.get?]

end Json

lemma ChangedFile.ofJson?_of_describes {item : Json} {file : ChangedFile}
    (h : item.Describes file) : ChangedFile.ofJson? item = some file := by
  obtain ⟨members, rfl, hname⟩ := h
  have record : members? form (.ofMembers members) = some (form.known members) :=
    members?_of_hasMember rfl (by simpa [form] using ⟨_, hname⟩)
  have filename : (form.known members).required "filename" Json.text? = some file.filename := by
    rw [Members.required, hname.known rfl]
    rfl
  rw [ofJson?, record]
  simp only [Option.bind_eq_bind, Option.bind_some, filename, Option.pure_def]

lemma mapM_ofJson?_of_describes {items : List Json} {files : List ChangedFile}
    (h : List.Forall₂ Json.Describes items files) :
    items.mapM ChangedFile.ofJson? = some files := by
  induction h with
  | nil => rfl
  | cons hitem _ ih =>
    rw [List.mapM_cons, ChangedFile.ofJson?_of_describes hitem, ih]
    rfl

namespace GitHubForge

variable {response : Http.Response}

lemma files?_of_describes {members : Members} {items : List Json} {files : List ChangedFile}
    (hfiles : HasMember members "files" (.array items))
    (hitems : List.Forall₂ Json.Describes items files) :
    files? (.ofMembers members) = some files := by
  have record : members? { fields := [⟨"files", true⟩] } (.ofMembers members) = some _ :=
    members?_of_hasMember rfl (by simpa using ⟨_, hfiles⟩)
  rw [files?, record, Option.bind_eq_bind, Option.bind_some, Members.getD, hfiles.known rfl]
  exact mapM_ofJson?_of_describes hitems

lemma contents?_of_hasMember {members : Members} {content encoding : String}
    (hcontent : HasMember members "content" (.text content))
    (hencoding : HasMember members "encoding" (.text encoding)) :
    contents? (.ofMembers members) = some (some content, some encoding) := by
  have record : members? { fields := [⟨"content", false⟩, ⟨"encoding", false⟩] }
      (.ofMembers members) = some _ :=
    members?_of_hasMember rfl (by simpa using ⟨⟨_, hcontent⟩, ⟨_, hencoding⟩⟩)
  rw [contents?, record, Option.bind_eq_bind, Option.bind_some, Members.optional,
    Members.optional, hcontent.known rfl, hencoding.known rfl]
  rfl

/-- A list of objects is not the content of a file. -/
lemma contents?_of_objects {items : List Json}
    (h : ∀ item ∈ items, ∃ members, item = .object members) : contents? (.array items) = none := by
  cases items with
  | nil => rfl
  | cons item rest =>
    obtain ⟨members, rfl⟩ := h item List.mem_cons_self
    cases rest with
    | nil => rfl
    | cons second rest =>
      cases rest with
      | nil => rfl
      | cons third rest => rfl

/-- White space in encoded content does not count. -/
lemma decodeContent_eq_ok_iff {fault content text : String} {bytes : ByteArray}
    (h : content.toList.filter (fun c => !Unicode.isBlank c) =
      Base64.encode bytes.data.toList) :
    decodeContent fault content = .ok text ↔ Text.decode? bytes = some text := by
  rw [decodeContent, h, Base64.decode?_encode]
  simp only [Array.toArray_toList]
  cases Text.decode? bytes with
  | none => exact iff_of_false nofun nofun
  | some other => rw [Except.ok.injEq, Option.some.injEq]

/-! ## Replies -/

lemma reply_of_isSuccess {call : ForgeCall} (h : response.isSuccess = true) :
    reply call response = answer response call := by
  rw [reply, if_pos h]

lemma isSuccess_of_status (h : response.status = 200) : response.isSuccess = true := by
  rw [Http.Response.isSuccess, h]
  rfl

theorem reply_compare {base head : String} {files : List ChangedFile} (h : response.Lists files) :
    reply (.compare base head) response = .ok files := by
  obtain ⟨members, items, hobject, hfiles, hitems⟩ := h.body
  have decoded : (Json.ofBytes? response.body).bind files? = some files := by
    rw [hobject, Option.bind_some, files?_of_describes hfiles hitems]
  rw [reply_of_isSuccess (isSuccess_of_status h.status)]
  exact congrArg (orUnparsable response.fault) decoded

theorem reply_readTextFile_of_bytes {path text : String} {bytes : ByteArray}
    (h : response.HoldsBytes bytes) :
    reply (.readTextFile path) response = .ok text ↔ Text.decode? bytes = some text := by
  obtain ⟨members, content, hobject, hcontent, hencoding, hbase64⟩ := h.body
  rw [reply_of_isSuccess (isSuccess_of_status h.status), answer, hobject, Option.bind_some,
    contents?_of_hasMember hcontent hencoding]
  exact decodeContent_eq_ok_iff hbase64

theorem reply_readTextFile {path text : String} (h : response.Holds text) :
    reply (.readTextFile path) response = .ok text :=
  (reply_readTextFile_of_bytes ⟨h.status, h.body⟩).2 (Text.decode?_toUTF8 text)

theorem reply_createComment {number : Nat} {body : String} (h : response.Accepts) :
    reply (.createComment number body) response = .ok () := by
  obtain ⟨v, hv⟩ := h.body
  rw [reply_of_isSuccess h.success, answer, hv]
  rfl

theorem reply_addLabels {number : Nat} {labels : List String} (h : response.Accepts) :
    reply (.addLabels number labels) response = .ok () := by
  obtain ⟨v, hv⟩ := h.body
  rw [reply_of_isSuccess h.success, answer, hv]
  rfl

theorem reply_of_missing {call : ForgeCall} (h : response.status = 404) :
    reply call response = .error (.notFound (errorMessage response.body)) := by
  have fails : ¬ response.isSuccess = true := by
    rw [Http.Response.isSuccess, h]
    decide
  rw [reply, if_neg fails, errorOf, h]
  rfl

/-- What is shown at a place is read from there as text, if it is text. -/
theorem reply_readTextFile_eq_ok_iff {path text : String} {entry : Option FileEntry}
    (h : response.Shows entry) :
    reply (.readTextFile path) response = .ok text ↔
      ∃ content, entry = some (.file content) ∧ Text.decode? content = some text := by
  match entry with
  | none =>
    rw [reply_of_missing h]
    exact iff_of_false nofun (by rintro ⟨_, ⟨⟩, _⟩)
  | some .directory =>
    have listed : response.ListsEntries := h
    obtain ⟨items, hbody, hitems⟩ := listed.body
    rw [reply_of_isSuccess (isSuccess_of_status listed.status), answer, hbody, Option.bind_some,
      contents?_of_objects hitems]
    exact iff_of_false nofun (by rintro ⟨_, ⟨⟩, _⟩)
  | some (.file content) =>
    rw [reply_readTextFile_of_bytes h]
    constructor
    · exact fun hdecoded => ⟨content, rfl, hdecoded⟩
    · rintro ⟨_, ⟨⟩, hdecoded⟩
      exact hdecoded

end GitHubForge

end PullTriage
