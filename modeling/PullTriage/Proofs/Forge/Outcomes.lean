import PullTriage.Proofs.Except
import PullTriage.Proofs.Forge.Contents
import PullTriage.Proofs.Json.Fields
import PullTriage.Proofs.Json.Grammar
import PullTriage.Proofs.Text.LowerCase
import Mathlib.Data.Bool.AllAny

/-!
# What a response comes to

Every response comes to one outcome, and its status says which kind.  If it says that all went well,
the body decides: either it writes a JSON value that answers the call (`Answers`), or the reply is
that it cannot be decoded.  Otherwise the reply is an error that goes by the status and by the
message in the body (`IsMessage`), and no body can turn it into an answer: `reply_exact`.

The message is read as a record.  So a list that holds just a text has a message as much as an
object does; and what stands in strings that are not read need not even be text
(`reply_of_loose_bodies`).
-/

namespace PullTriage.GitHubForge

open Json

variable {v : Json} {response : Http.Response}

/-! ## Bodies -/

/-- The body writes the value. -/
def BodyWrites (body : ByteArray) (v : Json) : Prop :=
  v.WrittenAs (Text.symbols body)

/-- The members say the name and the revision of a branch. -/
structure InBranch (members : Members) (branch : String × String) : Prop where
  name : StatesOne IsText (valuesOf members "ref") branch.1
  sha : StatesOne IsText (valuesOf members "sha") branch.2

/-- The form of a branch. -/
def branchForm : Form where
  fields := [⟨"ref", false⟩, ⟨"sha", false⟩]

/-- The members say the pull request. -/
structure InPullRequest (members : Members) (pr : PullRequest) : Prop where
  number : StatesOne IsNatural (valuesOf members "number") pr.number
  body : States IsText (valuesOf members "body") pr.body
  base : StatesOne (branchForm.IsRecord InBranch) (valuesOf members "base") (pr.baseRef, pr.baseSha)
  head : ∃ name, StatesOne (branchForm.IsRecord InBranch) (valuesOf members "head")
    (name, pr.headSha)

/-- The form of a pull request. -/
def pullRequestForm : Form where
  fields := [⟨"number", false⟩, ⟨"body", false⟩, ⟨"base", false⟩, ⟨"head", false⟩]

/-- The members say the name of a file. -/
def InFile (members : Members) (file : ChangedFile) : Prop :=
  StatesOne IsText (valuesOf members "filename") file.filename

/-- The members say the files of a comparison; if they do not speak of files, there are none. -/
def InComparison (members : Members) (files : List ChangedFile) : Prop :=
  StatesOr [] (IsList (ChangedFile.form.IsRecord InFile)) (valuesOf members "files") files

/-- The form of a comparison. -/
def comparisonForm : Form where
  fields := [⟨"files", true⟩]

/-- The members say the content of a file and its encoding. -/
structure InContents (members : Members) (contents : Option String × Option String) : Prop where
  content : States IsText (valuesOf members "content") contents.1
  encoding : States IsText (valuesOf members "encoding") contents.2

/-- The form of a file. -/
def contentsForm : Form where
  fields := [⟨"content", false⟩, ⟨"encoding", false⟩]

/-- The value is a file of this text, in Base64 with white space anywhere in it. -/
def IsFile (v : Json) (text : String) : Prop :=
  ∃ (content : String) (encoding : Option String),
    contentsForm.IsRecord InContents v (some content, encoding) ∧
      (encoding = none ∨ encoding = some "base64") ∧
      content.toList.filter (fun c => !Unicode.isBlank c) = base64Of text

/-- The value answers the call. -/
def Answers (v : Json) : (call : ForgeCall) → call.Answer → Prop
  | .getPullRequest _, pr => pullRequestForm.IsRecord InPullRequest v pr
  | .compare .., files => comparisonForm.IsRecord InComparison v files
  | .readTextFile _, text => IsFile v text
  | .createComment .., _ => True
  | .addLabels .., _ => True

/-- The members say the message of an error. -/
def InError (members : Members) (message : String) : Prop :=
  StatesOne IsText (valuesOf members "message") message

/-- The form of an error. -/
def errorForm : Form where
  fields := [⟨"message", false⟩]

/-- The message of a body: what it says as the record of an error, if it is one. -/
inductive IsMessage (body : ByteArray) : String → Prop where
  | stated {v : Json} {message : String} : BodyWrites body v →
      errorForm.IsRecord InError v message → IsMessage body message
  | unknown : (¬ ∃ v message, BodyWrites body v ∧ errorForm.IsRecord InError v message) →
      IsMessage body "Unknown error"

/-! ## Decoding bodies -/

lemma branch?_eq_some_iff (v : Json) (branch : String × String) :
    branch? v = some branch ↔ branchForm.IsRecord InBranch v branch := by
  change (members? branchForm v).bind _ = _ ↔ branchForm.IsRecord InBranch v branch
  refine bind_members?_eq_some_iff (by decide) ?_ fun members honce => ?_
  · intro members h
    simp [Form.HasOnce, branchForm, h.name.length_le, h.sha.length_le]
  · simp only [Option.bind_eq_bind, Option.bind_eq_some_iff, Option.pure_def, Option.some.injEq,
      required_eq_some_iff honce "ref" rfl text?_eq_some_iff,
      required_eq_some_iff honce "sha" rfl text?_eq_some_iff]
    constructor
    · rintro ⟨_, hn, _, hs, rfl⟩
      exact ⟨hn, hs⟩
    · rintro ⟨hn, hs⟩
      exact ⟨_, hn, _, hs, rfl⟩

lemma pullRequest?_eq_some_iff (v : Json) (pr : PullRequest) :
    pullRequest? v = some pr ↔ pullRequestForm.IsRecord InPullRequest v pr := by
  change (members? pullRequestForm v).bind _ = _ ↔ pullRequestForm.IsRecord InPullRequest v pr
  refine bind_members?_eq_some_iff (by decide) ?_ fun members honce => ?_
  · rintro members ⟨hnumber, hbody, hbase, _, hhead⟩
    simp [Form.HasOnce, pullRequestForm, hnumber.length_le, hbody.length_le, hbase.length_le,
      hhead.length_le]
  · simp only [Option.bind_eq_bind, Option.bind_eq_some_iff, Option.pure_def, Option.some.injEq,
      required_eq_some_iff honce "number" rfl natural?_eq_some_iff,
      optional_text?_eq_some_iff honce "body" rfl,
      required_eq_some_iff honce "base" rfl branch?_eq_some_iff,
      required_eq_some_iff honce "head" rfl branch?_eq_some_iff]
    constructor
    · rintro ⟨_, hn, _, hb, base, hbase, head, hhead, rfl⟩
      exact ⟨hn, hb, hbase, head.1, hhead⟩
    · rintro ⟨hn, hb, hbase, name, hhead⟩
      exact ⟨_, hn, _, hb, _, hbase, _, hhead, rfl⟩

lemma changedFile_eq_some_iff (v : Json) (file : ChangedFile) :
    ChangedFile.ofJson? v = some file ↔ ChangedFile.form.IsRecord InFile v file := by
  refine bind_members?_eq_some_iff (by decide) ?_ fun members honce => ?_
  · intro members h
    simp [Form.HasOnce, ChangedFile.form, StatesOne.length_le h]
  · simp only [Option.bind_eq_bind, Option.bind_eq_some_iff, Option.pure_def, Option.some.injEq,
      required_eq_some_iff honce "filename" rfl text?_eq_some_iff]
    constructor
    · rintro ⟨_, hname, rfl⟩
      exact hname
    · exact fun hname => ⟨_, hname, rfl⟩

lemma files?_eq_some_iff (v : Json) (files : List ChangedFile) :
    files? v = some files ↔ comparisonForm.IsRecord InComparison v files := by
  change (members? comparisonForm v).bind _ = _ ↔ comparisonForm.IsRecord InComparison v files
  refine bind_members?_eq_some_iff (by decide) ?_ fun members honce => ?_
  · intro members h
    simp [Form.HasOnce, comparisonForm, StatesOr.length_le h]
  · exact getD_eq_some_iff honce "files" rfl (list?_eq_some_iff changedFile_eq_some_iff)

lemma contents?_eq_some_iff (v : Json) (contents : Option String × Option String) :
    contents? v = some contents ↔ contentsForm.IsRecord InContents v contents := by
  change (members? contentsForm v).bind _ = _ ↔ contentsForm.IsRecord InContents v contents
  refine bind_members?_eq_some_iff (by decide) ?_ fun members honce => ?_
  · intro members h
    simp [Form.HasOnce, contentsForm, h.content.length_le, h.encoding.length_le]
  · simp only [Option.bind_eq_bind, Option.bind_eq_some_iff, Option.pure_def, Option.some.injEq,
      optional_text?_eq_some_iff honce "content" rfl,
      optional_text?_eq_some_iff honce "encoding" rfl]
    constructor
    · rintro ⟨_, hc, _, he, rfl⟩
      exact ⟨hc, he⟩
    · rintro ⟨hc, he⟩
      exact ⟨_, hc, _, he, rfl⟩

/-- The text of a file is what its content encodes. -/
lemma decodeFile_eq_ok_iff {fault : String} {contents : Option String × Option String}
    {text : String} :
    decodeFile fault contents = .ok text ↔ ∃ content encoding, contents = (some content, encoding) ∧
      (encoding = none ∨ encoding = some "base64") ∧
      content.toList.filter (fun c => !Unicode.isBlank c) = base64Of text := by
  have decoded (content : String) : decodeContent fault content = .ok text ↔
      content.toList.filter (fun c => !Unicode.isBlank c) = base64Of text := by
    refine ⟨fun h => ?_, decodeContent_eq_ok⟩
    rcases decodeContent_cases fault content with ⟨other, hother, hwritten⟩ | ⟨detail, hdetail⟩
    · rw [h] at hother
      cases hother
      exact hwritten
    · rw [h] at hdetail
      cases hdetail
  constructor
  · intro h
    unfold decodeFile at h
    split at h
    · cases h
    · exact ⟨_, _, rfl, .inl rfl, (decoded _).1 h⟩
    · split_ifs at h with hencoding
      exact ⟨_, _, rfl, .inr (congrArg some hencoding), (decoded _).1 h⟩
  · rintro ⟨content, encoding, rfl, rfl | rfl, htext⟩
    · exact (decoded content).2 htext
    · exact (decoded content).2 htext

/-- A file is decoded, or the error says that it cannot be. -/
lemma decodeFile_cases (fault : String) (contents : Option String × Option String) :
    (∃ text, decodeFile fault contents = .ok text) ∨
      ∃ detail, decodeFile fault contents = .error (.decode detail) := by
  have decoded (content : String) : (∃ text, decodeContent fault content = .ok text) ∨
      ∃ detail, decodeContent fault content = .error (.decode detail) := by
    rcases decodeContent_cases fault content with ⟨text, htext, -⟩ | hfails
    · exact .inl ⟨text, htext⟩
    · exact .inr hfails
  unfold decodeFile
  split
  · exact .inr ⟨_, rfl⟩
  · exact decoded _
  · split_ifs
    · exact decoded _
    · exact .inr ⟨_, rfl⟩

lemma orUnparsable_eq_ok_iff {α : Type} {fault : String} {found : Option α} {a : α} :
    orUnparsable fault found = .ok a ↔ found = some a := by
  cases found with
  | none => exact ⟨nofun, nofun⟩
  | some b => rw [orUnparsable, Except.ok.injEq, Option.some.injEq]

lemma orUnparsable_cases {α : Type} (fault : String) (found : Option α) :
    (∃ a, orUnparsable fault found = .ok a) ∨
      ∃ detail, orUnparsable fault found = .error (.decode detail) := by
  cases found with
  | none => exact .inr ⟨_, rfl⟩
  | some a => exact .inl ⟨a, rfl⟩

/-- What is decoded from a body is what the value in it is decoded to. -/
lemma bind_ofBytes?_eq_some_iff {α : Type} {decode : Json → Option α} {Says : Json → α → Prop}
    (hstated : ∀ v a, decode v = some a ↔ Says v a) {body : ByteArray} {a : α} :
    (Json.ofBytes? body).bind decode = some a ↔ ∃ v, BodyWrites body v ∧ Says v a := by
  simp only [Option.bind_eq_some_iff, hstated, ofBytes?_eq_some_iff, BodyWrites]

/-- Whatever value a body writes, it says that something was accepted. -/
lemma accepted_iff {fault : String} {body : ByteArray} {a : Unit} :
    orUnparsable fault ((Json.ofBytes? body).map fun _ => ()) = .ok a ↔
      ∃ v, BodyWrites body v ∧ True := by
  simp only [orUnparsable_eq_ok_iff, Option.map_eq_some_iff, ofBytes?_eq_some_iff, BodyWrites]

/-- The answer in a body is what a value that it writes answers. -/
lemma answer_eq_ok_iff {call : ForgeCall} {a : call.Answer} :
    answer response call = .ok a ↔ ∃ v, BodyWrites response.body v ∧ Answers v call a := by
  cases call with
  | getPullRequest number =>
    rw [answer, orUnparsable_eq_ok_iff]
    exact bind_ofBytes?_eq_some_iff pullRequest?_eq_some_iff
  | compare base head =>
    rw [answer, orUnparsable_eq_ok_iff]
    exact bind_ofBytes?_eq_some_iff files?_eq_some_iff
  | readTextFile path =>
    rw [answer]
    refine Except.bind_eq_ok_iff.trans ?_
    simp only [orUnparsable_eq_ok_iff, bind_ofBytes?_eq_some_iff contents?_eq_some_iff]
    constructor
    · rintro ⟨contents, ⟨v, hbody, hcontents⟩, htext⟩
      obtain ⟨content, encoding, rfl, hencoding, hencoded⟩ := decodeFile_eq_ok_iff.1 htext
      exact ⟨v, hbody, content, encoding, hcontents, hencoding, hencoded⟩
    · rintro ⟨v, hbody, content, encoding, hcontents, hencoding, hencoded⟩
      exact ⟨_, ⟨v, hbody, hcontents⟩,
        decodeFile_eq_ok_iff.2 ⟨content, encoding, rfl, hencoding, hencoded⟩⟩
  | createComment number text => exact accepted_iff
  | addLabels number labels => exact accepted_iff

/-- There is an answer, or the error says that there is none to be decoded. -/
lemma answer_cases (response : Http.Response) (call : ForgeCall) :
    (∃ a, answer response call = .ok a) ∨
      ∃ detail, answer response call = .error (.decode detail) := by
  cases call with
  | readTextFile path =>
    rcases orUnparsable_cases response.fault ((Json.ofBytes? response.body).bind contents?) with
      ⟨contents, hcontents⟩ | ⟨detail, hdetail⟩
    · rw [answer, hcontents]
      exact decodeFile_cases response.fault contents
    · rw [answer, hdetail]
      exact .inr ⟨detail, rfl⟩
  | getPullRequest number => exact orUnparsable_cases _ _
  | compare base head => exact orUnparsable_cases _ _
  | createComment number text => exact orUnparsable_cases _ _
  | addLabels number labels => exact orUnparsable_cases _ _

/-! ## Errors -/

/-- The message that a body states as the record of an error. -/
def statedMessage? (body : ByteArray) : Option String :=
  (Json.ofBytes? body).bind fun v =>
    (members? errorForm v).bind fun members => members.required "message" Json.text?

lemma errorMessage_eq (body : ByteArray) :
    errorMessage body = (statedMessage? body).getD "Unknown error" :=
  rfl

lemma statedMessage?_eq_some_iff {body : ByteArray} {message : String} :
    statedMessage? body = some message ↔
      ∃ v, BodyWrites body v ∧ errorForm.IsRecord InError v message := by
  refine bind_ofBytes?_eq_some_iff fun v message => ?_
  refine bind_members?_eq_some_iff (by decide) ?_ fun members honce => ?_
  · intro members h
    simp [Form.HasOnce, errorForm, StatesOne.length_le h]
  · exact required_eq_some_iff honce "message" rfl text?_eq_some_iff

/-- Every body has one message. -/
lemma isMessage_iff {body : ByteArray} {message : String} :
    IsMessage body message ↔ message = errorMessage body := by
  rw [errorMessage_eq]
  cases hstated : statedMessage? body with
  | some stated =>
    obtain ⟨v, hv, hrecord⟩ := statedMessage?_eq_some_iff.1 hstated
    constructor
    · rintro (⟨hw, hother⟩ | hnone)
      · have other := statedMessage?_eq_some_iff.2 ⟨_, hw, hother⟩
        exact Option.some.inj (other.symm.trans hstated)
      · exact absurd ⟨v, stated, hv, hrecord⟩ hnone
    · rintro rfl
      exact .stated hv hrecord
  | none =>
    have nothing : ¬ ∃ v message, BodyWrites body v ∧ errorForm.IsRecord InError v message := by
      rintro ⟨v, other, hother⟩
      rw [statedMessage?_eq_some_iff.2 ⟨v, hother⟩] at hstated
      cases hstated
    constructor
    · rintro (⟨hw, hother⟩ | -)
      · exact absurd ⟨_, _, hw, hother⟩ nothing
      · rfl
    · rintro rfl
      exact .unknown nothing

lemma occursIn_iff {part text : List Char} : occursIn part text = true ↔ part <:+: text := by
  induction text with
  | nil => rw [occursIn, List.isEmpty_iff, List.infix_nil]
  | cons c text ih =>
    rw [occursIn, Bool.or_eq_true, List.isPrefixOf_iff_prefix, ih, List.infix_cons_iff]

/-- The text, which is in lower case, speaks of the rate limit. -/
def MentionsRateLimit (lower : List Char) : Prop :=
  "rate limit".toList <:+: lower

/-- A message speaks of the rate limit if its lower-case form does. -/
lemma speaksOfRateLimit_iff {message : String} {lower : List Char}
    (h : Text.IsLowerCase message.toList lower) :
    speaksOfRateLimit message = true ↔ MentionsRateLimit lower := by
  have plain : Text.IsPlainPhrase "rate limit".toList := by
    constructor
    · exact List.all_iff_forall_prop.1 (by decide)
    · decide
    · decide
  rw [speaksOfRateLimit, MentionsRateLimit, occursIn_iff, Text.infix_lowerCase_iff plain h]

/-- The ways in which a response reports an error, by its status and its message. -/
inductive Reports (response : Http.Response) (message : String) : ForgeError → Prop where
  | unauthorized : response.status = 401 →
      Reports response message (.authFailed "Invalid or expired token")
  | limitedHere : response.status = 403 → speaksOfRateLimit message = true →
      Reports response message .rateLimited
  | forbidden : response.status = 403 → speaksOfRateLimit message = false →
      Reports response message
        (.authFailed ("Permission denied: " ++ message ++ requiredPermissions response))
  | missing : response.status = 404 → Reports response message (.notFound message)
  | limited : response.status = 429 → Reports response message .rateLimited
  | server : 500 ≤ response.status → response.status < 600 →
      Reports response message (.apiError response.status ("GitHub server error: " ++ message))
  | other : response.status ∉ [401, 403, 404, 429] →
      ¬ (500 ≤ response.status ∧ response.status < 600) →
      Reports response message (.apiError response.status message)

lemma reports_errorOf (response : Http.Response) :
    Reports response (errorMessage response.body) (errorOf response) := by
  unfold errorOf
  dsimp only
  split
  · next h => exact .unauthorized h
  · next h =>
    split_ifs with hlimit
    · exact .limitedHere h hlimit
    · exact .forbidden h (by simpa using hlimit)
  · next h => exact .missing h
  · next h => exact .limited h
  · next h401 h403 h404 h429 =>
    split_ifs with hserver
    · exact .server hserver.1 hserver.2
    · refine .other ?_ hserver
      simp only [List.mem_cons, List.not_mem_nil, or_false]
      rintro (h | h | h | h)
      · exact h401 h
      · exact h403 h
      · exact h404 h
      · exact h429 h

/-- What a reply to a call is when the response says that something went wrong, where `message` is
the message of the response and `lower` is its lower-case form. -/
structure IsRefusal {call : ForgeCall} (response : Http.Response) (message : String)
    (lower : List Char) (reply : call.Reply) : Prop where
  notOk : ∀ a, reply ≠ .ok a
  notDecode : ∀ detail, reply ≠ .error (.decode detail)
  rateLimited : reply = .error .rateLimited ↔
    response.status = 429 ∨ response.status = 403 ∧ MentionsRateLimit lower
  authFailed : (∃ detail, reply = .error (.authFailed detail)) ↔
    response.status = 401 ∨ response.status = 403 ∧ ¬ MentionsRateLimit lower
  /-- A permission that is refused is reported with the message. -/
  denied : response.status = 403 → ∀ detail, reply = .error (.authFailed detail) →
    detail = "Permission denied: " ++ message ++ requiredPermissions response
  notFound : ∀ detail, reply = .error (.notFound detail) ↔
    response.status = 404 ∧ message = detail
  apiError : ∀ status detail, reply = .error (.apiError status detail) ↔
    response.status ∉ [401, 403, 404, 429] ∧ response.status = status ∧
      (if 500 ≤ response.status ∧ response.status < 600 then "GitHub server error: " ++ message
        else message) = detail

lemma Reports.isRefusal {call : ForgeCall} {message : String} {lower : List Char} {e : ForgeError}
    (h : Reports response message e) (hlower : Text.IsLowerCase message.toList lower) :
    IsRefusal response message lower (.error e : call.Reply) := by
  have limit := speaksOfRateLimit_iff hlower
  cases h with
  | unauthorized h => constructor <;> simp [h]
  | limitedHere h hlimit => constructor <;> simp [h, limit.1 hlimit]
  | forbidden h hlimit =>
    have silent : ¬ MentionsRateLimit lower := by
      rw [← limit, hlimit]
      exact Bool.false_ne_true
    constructor <;> simp [h, silent]
  | missing h => constructor <;> simp [h]
  | limited h => constructor <;> simp [h]
  | server hlow hhigh =>
    have h401 : response.status ≠ 401 := by omega
    have h403 : response.status ≠ 403 := by omega
    have h404 : response.status ≠ 404 := by omega
    have h429 : response.status ≠ 429 := by omega
    constructor <;> simp [h401, h403, h404, h429, hlow, hhigh]
  | other hstatus hserver =>
    have h := hstatus
    simp only [List.mem_cons, List.not_mem_nil, or_false, not_or] at h
    obtain ⟨h401, h403, h404, h429⟩ := h
    constructor <;> simp [h401, h403, h404, h429, hserver]

/-- Every response comes to one outcome.  If its status says that all went well, the reply is the
answer that a value in the body gives, or else that the body cannot be decoded.  If not, the reply
goes by the status and by the message of the response. -/
theorem reply_exact (call : ForgeCall) (response : Http.Response) :
    (200 ≤ response.status ∧ response.status < 300 →
      (∀ a, reply call response = .ok a ↔ ∃ v, BodyWrites response.body v ∧ Answers v call a) ∧
      ((¬ ∃ a v, BodyWrites response.body v ∧ Answers v call a) →
        ∃ detail, reply call response = .error (.decode detail))) ∧
    (¬ (200 ≤ response.status ∧ response.status < 300) →
      ∃ message, IsMessage response.body message ∧ ∀ lower,
        Text.IsLowerCase message.toList lower →
        IsRefusal response message lower (reply call response)) := by
  have success : response.isSuccess = true ↔ 200 ≤ response.status ∧ response.status < 300 := by
    rw [Http.Response.isSuccess, Bool.and_eq_true, decide_eq_true_eq, decide_eq_true_eq]
  rw [← success]
  refine ⟨fun hsuccess => ?_, fun hfails => ?_⟩
  · rw [reply_of_isSuccess hsuccess]
    refine ⟨fun a => answer_eq_ok_iff, fun hnone => ?_⟩
    rcases answer_cases response call with ⟨a, ha⟩ | hdetail
    · exact absurd ⟨a, answer_eq_ok_iff.1 ha⟩ hnone
    · exact hdetail
  · refine ⟨errorMessage response.body, isMessage_iff.2 rfl, fun lower hlower => ?_⟩
    rw [reply, if_neg hfails]
    exact (reports_errorOf response).isRefusal hlower

/-- The response of a forge that has had enough requests. -/
def limitedResponse : Http.Response :=
  ⟨403, [], "\x7b\"message\":\"API Rate Limit exceeded\"\x7d".toUTF8, ""⟩

/-- The response with the one file of a comparison. -/
def comparisonResponse : Http.Response :=
  ⟨200, [], "\x7b\"files\":[\x7b\"filename\":\"a\"\x7d]\x7d".toUTF8, ""⟩

theorem reply_exact_example :
    reply (.addLabels 1 ["c++"]) limitedResponse = .error .rateLimited ∧
    reply (.compare "a" "b") comparisonResponse = .ok [⟨"a"⟩] := by
  constructor
  · obtain ⟨message, hmessage, refusal⟩ := (reply_exact (.addLabels 1 ["c++"]) limitedResponse).2
      (by decide)
    have text : message = "API Rate Limit exceeded" :=
      (isMessage_iff.1 hmessage).trans (by decide +kernel)
    subst text
    have ascii : ∀ c ∈ "API Rate Limit exceeded".toList, c.toNat < 0x80 :=
      List.all_iff_forall_prop.1 (by decide)
    have lower := Text.isLowerCase_of_ascii ascii
    exact (refusal _ lower).rateLimited.2 (.inr ⟨rfl, by unfold MentionsRateLimit; decide⟩)
  · have written : BodyWrites comparisonResponse.body
        (.ofMembers [("files", .array [.ofMembers [("filename", .text "a")]])]) :=
      ofBytes?_eq_some_iff.1 rfl
    have file : ChangedFile.form.IsRecord InFile (.ofMembers [("filename", .text "a")]) ⟨"a"⟩ :=
      ⟨_, writes_ofMembers rfl _, _, rfl, rfl⟩
    have answers : Answers (.ofMembers [("files", .array [.ofMembers [("filename", .text "a")]])])
        (.compare "a" "b") [⟨"a"⟩] :=
      ⟨_, writes_ofMembers rfl _, .inr ⟨_, rfl, _, rfl, .cons file .nil⟩⟩
    exact ((reply_exact (.compare "a" "b") comparisonResponse).1 (by decide)).1 [⟨"a"⟩] |>.2
      ⟨_, written, answers⟩

/-- A body that has no member `message`, because it is a list, has a message; and a body that is no
text at all, because a byte in its string is no part of a character, is an answer. -/
theorem reply_of_loose_bodies :
    (Json.ofBytes? "[\"API rate limit exceeded\"]".toUTF8 =
        some (.array [.text "API rate limit exceeded"]) ∧
      reply (.getPullRequest 7) ⟨403, [], "[\"API rate limit exceeded\"]".toUTF8, ""⟩ =
        .error .rateLimited) ∧
    (Text.decode? ⟨#[0x22, 0xff, 0x22]⟩ = none ∧
      reply (.createComment 7 "c") ⟨201, [], ⟨#[0x22, 0xff, 0x22]⟩, ""⟩ = .ok ()) := by
  have limited : errorOf ⟨403, [], "[\"API rate limit exceeded\"]".toUTF8, ""⟩ = .rateLimited := by
    decide +kernel
  refine ⟨⟨rfl, congrArg Except.error limited⟩, ?_, rfl⟩
  decide +kernel

end PullTriage.GitHubForge
