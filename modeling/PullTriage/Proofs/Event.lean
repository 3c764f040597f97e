import PullTriage.Event
import PullTriage.Proofs.Json.Fields
import PullTriage.Proofs.Json.RoundTrip

/-!
# What a payload says

Reading a payload is a relation between its text and the pull request (`parse_eq_ok_iff`): the text
writes a value, in whatever spelling, and the members of this value say the pull request, one record
inside the other.  The relation only looks at the values under the names that it asks for.  So two
payloads that are alike in these values (`SamePayload`) are read alike, whatever else they hold and
in whatever order.

All other members are passed over, but their names have to be text: a name with half of a surrogate
pair is refused (`parse_lone_surrogate`).
-/

namespace PullTriage.PullRequestEvent

open Json

variable {v w : Json} {event : PullRequestEvent} {text : String}

/-! ## What members say -/

/-- The members say the name and the revision of a branch. -/
structure InBranch (members : Members) (branch : Option String × Option String) : Prop where
  name : States IsText (valuesOf members "ref") branch.1
  sha : States IsText (valuesOf members "sha") branch.2

/-- The value says the name and the revision of a branch. -/
abbrev IsBranch : Json → Option String × Option String → Prop :=
  branchForm.IsRecord InBranch

/-- The members say the pull request; the name of the branch that it comes from is not kept. -/
structure InRequest (members : Members) (event : PullRequestEvent) : Prop where
  number : StatesOne IsNatural (valuesOf members "number") event.number
  body : States IsText (valuesOf members "body") event.body
  base : ∃ base, States IsBranch (valuesOf members "base") base ∧
    event.baseRef = base.bind Prod.fst ∧ event.baseSha = base.bind Prod.snd
  head : ∃ head, States IsBranch (valuesOf members "head") head ∧
    event.headSha = head.bind Prod.snd

/-- The value says the pull request. -/
abbrev IsRequest : Json → PullRequestEvent → Prop :=
  requestForm.IsRecord InRequest

/-- The members of a payload say the pull request, or that there is none. -/
def InPayload (members : Members) (event : Option PullRequestEvent) : Prop :=
  States IsRequest (valuesOf members "pull_request") event

lemma branch?_eq_some_iff (v : Json) (branch : Option String × Option String) :
    branch? v = some branch ↔ IsBranch v branch := by
  refine bind_members?_eq_some_iff (by decide) ?_ fun members honce => ?_
  · intro members h
    simp [Form.HasOnce, branchForm, h.name.length_le, h.sha.length_le]
  · simp only [Option.bind_eq_bind, Option.bind_eq_some_iff, Option.pure_def, Option.some.injEq,
      optional_text?_eq_some_iff honce "ref" rfl,
      optional_text?_eq_some_iff honce "sha" rfl]
    constructor
    · rintro ⟨_, hn, _, hs, rfl⟩
      exact ⟨hn, hs⟩
    · rintro ⟨hn, hs⟩
      exact ⟨_, hn, _, hs, rfl⟩

lemma ofRequest?_eq_some_iff (v : Json) (event : PullRequestEvent) :
    ofRequest? v = some event ↔ IsRequest v event := by
  refine bind_members?_eq_some_iff (by decide) ?_ fun members honce => ?_
  · rintro members ⟨hnumber, hbody, ⟨_, hbase, -⟩, ⟨_, hhead, -⟩⟩
    simp [Form.HasOnce, requestForm, hnumber.length_le, hbody.length_le, hbase.length_le,
      hhead.length_le]
  · simp only [Option.bind_eq_bind, Option.bind_eq_some_iff, Option.pure_def, Option.some.injEq,
      required_eq_some_iff honce "number" rfl natural?_eq_some_iff,
      optional_text?_eq_some_iff honce "body" rfl,
      optional_eq_some_iff honce "base" rfl branch?_eq_some_iff not_isRecord_null,
      optional_eq_some_iff honce "head" rfl branch?_eq_some_iff not_isRecord_null]
    constructor
    · rintro ⟨_, hn, _, hb, base, hbase, head, hhead, rfl⟩
      exact ⟨hn, hb, ⟨base, hbase, rfl, rfl⟩, ⟨head, hhead, rfl⟩⟩
    · obtain ⟨number, body, baseRef, baseSha, headSha⟩ := event
      rintro ⟨hn, hb, ⟨base, hbase, rfl, rfl⟩, ⟨head, hhead, rfl⟩⟩
      exact ⟨_, hn, _, hb, base, hbase, head, hhead, rfl⟩

lemma ofPayload?_eq_some_iff (v : Json) (event : Option PullRequestEvent) :
    ofPayload? v = some event ↔ payloadForm.IsRecord InPayload v event := by
  refine bind_members?_eq_some_iff (by decide) ?_ fun members honce => ?_
  · intro members h
    simp [Form.HasOnce, payloadForm, States.length_le h]
  · exact optional_eq_some_iff honce "pull_request" rfl ofRequest?_eq_some_iff not_isRecord_null

/-! ## Reading a text -/

/-- What is read from a text is what the payload says that it writes. -/
lemma bind_ofPayload?_eq_some_iff {said : Option PullRequestEvent} :
    (Json.ofString? text).bind ofPayload? = some said ↔
      ∃ v, v.WrittenAs (text.toList.map some) ∧ payloadForm.IsRecord InPayload v said := by
  simp only [Option.bind_eq_some_iff, ofString?_eq_some_iff, ofPayload?_eq_some_iff]

/-- A text is read as a pull request exactly if it writes a payload that says the pull request. -/
theorem parse_eq_ok_iff : parse text = .ok event ↔ ∃ v, v.WrittenAs (text.toList.map some) ∧
    payloadForm.IsRecord InPayload v (some event) := by
  rw [← bind_ofPayload?_eq_some_iff, parse]
  split
  · next heq => simp [heq]
  · next heq => simp [heq]
  · next heq => simp [heq]

/-- A text is not about a pull request exactly if it writes a payload that says there is none. -/
theorem parse_eq_notAPullRequest_iff : parse text = .error .notAPullRequest ↔
    ∃ v, v.WrittenAs (text.toList.map some) ∧ payloadForm.IsRecord InPayload v none := by
  rw [← bind_ofPayload?_eq_some_iff, parse]
  split
  · next heq => simp [heq]
  · next heq => simp [heq]
  · next heq => simp [heq]

/-- What is written in two texts is read alike if the payloads say the same. -/
lemma parse_eq_parse {other : String} (hv : v.WrittenAs (text.toList.map some))
    (hw : w.WrittenAs (other.toList.map some)) (h : ∀ event,
      payloadForm.IsRecord InPayload v event ↔ payloadForm.IsRecord InPayload w event) :
    parse text = parse other := by
  have same : ofPayload? v = ofPayload? w := Option.ext fun event => by
    rw [ofPayload?_eq_some_iff, ofPayload?_eq_some_iff, h]
  rw [parse, parse, ofString?_eq_some_iff.2 hv, ofString?_eq_some_iff.2 hw, Option.bind_some,
    Option.bind_some, same]

/-! ## Payloads that are alike -/

/-- The values under the name of an optional field are alike in two records: as many in one as in
the other, each like its counterpart, or none in one and null in the other. -/
inductive SameValues (Same : Json → Json → Prop) : List Json → List Json → Prop where
  | values {vs ws : List Json} : List.Forall₂ Same vs ws → SameValues Same vs ws
  | omitted : SameValues Same [.null] []
  | null : SameValues Same [] [.null]

/-- The values are the same, or they write records whose members are alike. -/
def SameRecord (form : Form) (Same : Members → Members → Prop) (v w : Json) : Prop :=
  v = w ∨ ∃ members others, form.Writes v members ∧ form.Writes w others ∧ Same members others

/-- The branches that a pull request goes to are alike: by name and by revision. -/
structure SameBase (members others : Members) : Prop where
  name : SameValues Eq (valuesOf members "ref") (valuesOf others "ref")
  sha : SameValues Eq (valuesOf members "sha") (valuesOf others "sha")

/-- The branches that a pull request comes from are alike: by revision, and both names are texts or
null or left out. -/
structure SameHead (members others : Members) : Prop where
  name : SameValues Eq (valuesOf members "ref") (valuesOf others "ref") ∨
    (∃ name, States IsText (valuesOf members "ref") name) ∧
      ∃ name, States IsText (valuesOf others "ref") name
  sha : SameValues Eq (valuesOf members "sha") (valuesOf others "sha")

/-- The pull requests are alike: by number, description and branches. -/
structure SameRequest (members others : Members) : Prop where
  number : valuesOf members "number" = valuesOf others "number"
  body : SameValues Eq (valuesOf members "body") (valuesOf others "body")
  base : SameValues (SameRecord branchForm SameBase) (valuesOf members "base")
    (valuesOf others "base")
  head : SameValues (SameRecord branchForm SameHead) (valuesOf members "head")
    (valuesOf others "head")

/-- The payloads are alike: in their pull requests. -/
def SamePayload (v w : Json) : Prop :=
  ∃ members others, payloadForm.Writes v members ∧ payloadForm.Writes w others ∧
    SameValues (SameRecord requestForm SameRequest) (valuesOf members "pull_request")
      (valuesOf others "pull_request")

section Transfer

variable {α : Type} {form : Form} {Same : Json → Json → Prop} {SameIn : Members → Members → Prop}
  {Says : Json → α → Prop} {In : Members → α → Prop} {SaidAs : α → α → Prop}
  {vs ws : List Json} {members others : Members}

lemma SameValues.symm (hsymm : ∀ v w, Same v w → Same w v) (h : SameValues Same vs ws) :
    SameValues Same ws vs := by
  cases h with
  | values hall => exact .values (hall.flip.imp fun _ _ => hsymm _ _)
  | omitted => exact .null
  | null => exact .omitted

lemma SameRecord.symm (hsymm : ∀ members others, SameIn members others → SameIn others members)
    (h : SameRecord form SameIn v w) : SameRecord form SameIn w v := by
  rcases h with rfl | ⟨members, others, hv, hw, hsame⟩
  · exact .inl rfl
  · exact .inr ⟨others, members, hw, hv, hsymm _ _ hsame⟩

lemma SameBase.symm (h : SameBase members others) : SameBase others members :=
  ⟨h.name.symm fun _ _ => Eq.symm, h.sha.symm fun _ _ => Eq.symm⟩

lemma SameHead.symm (h : SameHead members others) : SameHead others members :=
  ⟨h.name.imp (·.symm fun _ _ => Eq.symm) And.symm, h.sha.symm fun _ _ => Eq.symm⟩

lemma SameRequest.symm (h : SameRequest members others) : SameRequest others members where
  number := h.number.symm
  body := h.body.symm fun _ _ => Eq.symm
  base := h.base.symm fun _ _ => SameRecord.symm fun _ _ => SameBase.symm
  head := h.head.symm fun _ _ => SameRecord.symm fun _ _ => SameHead.symm

lemma SamePayload.symm (h : SamePayload v w) : SamePayload w v := by
  obtain ⟨members, others, hv, hw, hsame⟩ := h
  exact ⟨others, members, hw, hv,
    hsame.symm fun _ _ => SameRecord.symm fun _ _ => SameRequest.symm⟩

/-- What an optional field says is said by values that are alike. -/
lemma exists_states_of_same {value : Option α} (hnull : ∀ a, ¬ Says .null a)
    (hkeep : ∀ w, Same .null w → w = .null)
    (hto : ∀ v w a, Same v w → Says v a → ∃ b, Says w b ∧ SaidAs a b)
    (hsame : SameValues Same vs ws) (h : States Says vs value) :
    ∃ other, States Says ws other ∧ Option.Rel SaidAs value other := by
  cases hsame with
  | values hall =>
    cases h with
    | omitted =>
      cases hall
      exact ⟨none, .omitted, .none⟩
    | null =>
      obtain ⟨w, _, hw, hnil, rfl⟩ := List.forall₂_cons_left_iff.1 hall
      cases hnil
      rw [hkeep w hw]
      exact ⟨none, .null, .none⟩
    | value hstated =>
      obtain ⟨w, _, hw, hnil, rfl⟩ := List.forall₂_cons_left_iff.1 hall
      cases hnil
      obtain ⟨b, hb, hab⟩ := hto _ w _ hw hstated
      exact ⟨some b, .value hb, .some hab⟩
  | omitted =>
    cases h with
    | null => exact ⟨none, .omitted, .none⟩
    | value hstated => exact absurd hstated (hnull _)
  | null =>
    cases h
    exact ⟨none, .null, .none⟩

/-- The case where the same is said. -/
lemma states_of_same {value : Option α} (hnull : ∀ a, ¬ Says .null a)
    (hkeep : ∀ w, Same .null w → w = .null) (hto : ∀ v w a, Same v w → Says v a → Says w a)
    (hsame : SameValues Same vs ws) (h : States Says vs value) : States Says ws value := by
  have said : ∃ other, States Says ws other ∧ Option.Rel Eq value other :=
    exists_states_of_same hnull hkeep (fun v w a hvw ha => ⟨a, hto v w a hvw ha, rfl⟩) hsame h
  obtain ⟨other, hother, hrel⟩ := said
  cases hrel with
  | some heq => exact heq ▸ hother
  | none => exact hother

lemma eq_null_of_sameRecord (h : SameRecord form SameIn .null w) : w = .null := by
  rcases h with rfl | ⟨_, _, hnull, -⟩
  · rfl
  · exact absurd hnull not_writes_null

/-- A record that members say is said by members that are alike. -/
lemma exists_isRecord_of_same {a : α} (hrefl : ∀ a, SaidAs a a)
    (hto : ∀ members others a, SameIn members others → In members a →
      ∃ b, In others b ∧ SaidAs a b)
    (hsame : SameRecord form SameIn v w) (h : form.IsRecord In v a) :
    ∃ b, form.IsRecord In w b ∧ SaidAs a b := by
  rcases hsame with rfl | ⟨members, others, hv, hw, hmembers⟩
  · exact ⟨a, h, hrefl a⟩
  · obtain ⟨_, hwrites, hin⟩ := h
    rw [hwrites.unique hv] at hin
    obtain ⟨b, hb, hab⟩ := hto members others a hmembers hin
    exact ⟨b, ⟨others, hw, hb⟩, hab⟩

lemma isText_of_same {value : Option String} (hsame : SameValues Eq vs ws)
    (h : States IsText vs value) : States IsText ws value :=
  states_of_same not_isText_null (fun _ => Eq.symm) (fun _ _ _ hvw hv => hvw ▸ hv) hsame h

end Transfer

/-! ## Payloads that are alike are read alike -/

variable {members others : Members}

lemma InBranch.of_sameBase {branch : Option String × Option String}
    (hsame : SameBase members others) (h : InBranch members branch) : InBranch others branch :=
  ⟨isText_of_same hsame.name h.name, isText_of_same hsame.sha h.sha⟩

/-- The branches have the same revision, whatever their names. -/
def SameRevision (branch other : Option String × Option String) : Prop :=
  branch.2 = other.2

lemma InBranch.of_sameHead {branch : Option String × Option String}
    (hsame : SameHead members others) (h : InBranch members branch) :
    ∃ other, InBranch others other ∧ SameRevision branch other := by
  have hsha := isText_of_same hsame.sha h.sha
  rcases hsame.name with hname | ⟨-, name, hname⟩
  · exact ⟨branch, ⟨isText_of_same hname h.name, hsha⟩, rfl⟩
  · exact ⟨(name, branch.2), ⟨hname, hsha⟩, rfl⟩

lemma InRequest.of_same (hsame : SameRequest members others) (h : InRequest members event) :
    InRequest others event := by
  obtain ⟨hnumber, hbody, ⟨base, hbase, hbaseRef, hbaseSha⟩, ⟨head, hhead, hheadSha⟩⟩ := h
  have base' : States IsBranch (valuesOf others "base") base := by
    refine states_of_same not_isRecord_null (fun w => eq_null_of_sameRecord) ?_ hsame.base hbase
    intro v w branch hvw hv
    obtain ⟨_, hbranch, rfl⟩ := exists_isRecord_of_same (fun _ => rfl)
      (fun _ _ _ hsame hin => ⟨_, InBranch.of_sameBase hsame hin, rfl⟩) hvw hv
    exact hbranch
  have head' : ∃ other, States IsBranch (valuesOf others "head") other ∧
      Option.Rel SameRevision head other :=
    exists_states_of_same not_isRecord_null (fun w => eq_null_of_sameRecord)
      (fun v w branch => exists_isRecord_of_same (fun _ => rfl)
        fun _ _ _ => InBranch.of_sameHead) hsame.head hhead
  obtain ⟨other, hother, hrel⟩ := head'
  refine ⟨hsame.number ▸ hnumber, isText_of_same hsame.body hbody,
    ⟨base, base', hbaseRef, hbaseSha⟩, other, hother, ?_⟩
  rw [hheadSha]
  cases hrel with
  | some heq => exact heq
  | none => rfl

lemma isRecord_of_samePayload (hsame : SamePayload v w) {event : Option PullRequestEvent}
    (h : payloadForm.IsRecord InPayload v event) : payloadForm.IsRecord InPayload w event := by
  obtain ⟨members, others, hwritesV, hwritesW, hrequest⟩ := hsame
  obtain ⟨_, hwrites, hin⟩ := h
  rw [hwrites.unique hwritesV] at hin
  refine ⟨others, hwritesW, ?_⟩
  refine states_of_same not_isRecord_null (fun w => eq_null_of_sameRecord) ?_ hrequest hin
  intro v w event hvw hv
  obtain ⟨_, hevent, rfl⟩ := exists_isRecord_of_same (fun _ => rfl)
    (fun _ _ _ hsame hin => ⟨_, InRequest.of_same hsame hin, rfl⟩) hvw hv
  exact hevent

/-! ## Payloads of a pull request -/

/-- The values under a name are a branch with this name and revision: an object that has them, or
nothing or null, if there are none. -/
inductive Encodes : List Json → Option String → Option String → Prop where
  | omitted : Encodes [] none none
  | null : Encodes [.null] none none
  | object {members : Members} {name sha : Option String} :
      States IsText (valuesOf members "ref") name → States IsText (valuesOf members "sha") sha →
      Encodes [.ofMembers members] name sha

/-- The value is a payload of the pull request: an object that has, among other things, an object
with the number, the description and the branches. -/
def IsPayloadOf (event : PullRequestEvent) (v : Json) : Prop :=
  ∃ payload request, v = .ofMembers payload ∧
    valuesOf payload "pull_request" = [.ofMembers request] ∧
    valuesOf request "number" = [.natural event.number] ∧
    States IsText (valuesOf request "body") event.body ∧
    Encodes (valuesOf request "base") event.baseRef event.baseSha ∧
    ∃ name, Encodes (valuesOf request "head") name event.headSha

lemma Encodes.exists_states {values : List Json} {name sha : Option String}
    (h : Encodes values name sha) : ∃ branch, States IsBranch values branch ∧
      name = branch.bind Prod.fst ∧ sha = branch.bind Prod.snd := by
  cases h with
  | omitted => exact ⟨none, .omitted, rfl, rfl⟩
  | null => exact ⟨none, .null, rfl, rfl⟩
  | object hname hsha =>
    exact ⟨some (name, sha), .value ⟨_, writes_ofMembers rfl _, hname, hsha⟩, rfl, rfl⟩

lemma IsPayloadOf.isRecord (h : event.IsPayloadOf v) (hrange : event.number < UInt64.size) :
    payloadForm.IsRecord InPayload v (some event) := by
  obtain ⟨payload, request, rfl, hpayload, hnumber, hbody, hbase, name, hhead⟩ := h
  obtain ⟨head, hstates, -, hsha⟩ := hhead.exists_states
  have said : InRequest request event :=
    ⟨⟨_, hnumber, isNatural_natural hrange⟩, hbody, hbase.exists_states, head, hstates, hsha⟩
  refine ⟨payload, writes_ofMembers rfl _, ?_⟩
  rw [InPayload, hpayload]
  exact .value ⟨request, writes_ofMembers rfl _, said⟩

/-- An object says that there is no pull request if it names none. -/
lemma isRecord_none_iff {pairs : List (Option String × Json)} :
    payloadForm.IsRecord InPayload (.object pairs) none ↔
      ∃ members, .object pairs = Json.ofMembers members ∧
        (valuesOf members "pull_request" = [] ∨ valuesOf members "pull_request" = [.null]) := by
  constructor
  · rintro ⟨members, hwrites, hin⟩
    refine ⟨members, ?_, ?_⟩
    · generalize hobject : Json.object pairs = object at hwrites ⊢
      cases hwrites with
      | object hclosed => rfl
      | array hlength hfallback => cases hobject
    · exact states_none_iff.1 hin
  · rintro ⟨members, hobject, hvalues⟩
    rw [hobject]
    exact ⟨members, writes_ofMembers rfl _, states_none_iff.2 hvalues⟩

/-! ## The main statement -/

/-- Two texts of payloads that are alike are read alike.  The text of an object is not about a pull
request exactly if the names in the object are texts and `pull_request` is not among them, or null.
And whatever text a payload of a pull request is written as, it is read as the pull request. -/
theorem parse_exact :
    (∀ v w (text other : String), SamePayload v w → v.WrittenAs (text.toList.map some) →
      w.WrittenAs (other.toList.map some) → parse text = parse other) ∧
    (∀ pairs (text : String), (Json.object pairs).WrittenAs (text.toList.map some) →
      (parse text = .error .notAPullRequest ↔
        ∃ members, .object pairs = Json.ofMembers members ∧
          (valuesOf members "pull_request" = [] ∨ valuesOf members "pull_request" = [.null]))) ∧
    ∀ (event : PullRequestEvent) v (text : String), event.number < UInt64.size →
      event.IsPayloadOf v → v.WrittenAs (text.toList.map some) → parse text = .ok event := by
  refine ⟨fun v w text other hsame hv hw => ?_, fun pairs text htext => ?_,
    fun event v text hrange hpayload htext => ?_⟩
  · exact parse_eq_parse hv hw fun event =>
      ⟨isRecord_of_samePayload hsame, isRecord_of_samePayload hsame.symm⟩
  · rw [parse_eq_notAPullRequest_iff, ← isRecord_none_iff]
    constructor
    · rintro ⟨v, hv, hrecord⟩
      rwa [htext.unique hv]
    · exact fun h => ⟨_, htext, h⟩
  · exact parse_eq_ok_iff.2 ⟨v, htext, hpayload.isRecord hrange⟩

/-- A payload with other members around those that count, and without the branch that the pull
request goes to. -/
def exampleMembers : Members :=
  [("n", .null), ("pull_request", .ofMembers [("head", .ofMembers [("sha", .text "b")]),
    ("body", .text "😀"), ("number", .natural 42)])]

/-- The payload, with white space and with escapes for one letter and for the other character, which
needs a surrogate pair. -/
def exampleText : String :=
  "\x7b\"n\":null,\"pull_request\":\n\x7b\"head\":\x7b\"sha\":\"\\u0062\"\x7d, " ++
    "\"body\":\"\\ud83d\\ude00\", \"number\":42\x7d\x7d"

/-- Another payload of the pull request, in another order and with null for the branch. -/
def otherMembers : Members :=
  [("pull_request", .ofMembers [("number", .natural 42), ("body", .text "😀"), ("base", .null),
    ("head", .ofMembers [("ref", .text "r"), ("sha", .text "b")])])]

/-- The other payload in compact form. -/
def otherText : String :=
  "\x7b\"pull_request\":\x7b\"number\":42,\"body\":\"😀\",\"base\":null," ++
    "\"head\":\x7b\"ref\":\"r\",\"sha\":\"b\"\x7d\x7d\x7d"

lemma samePayload_example : SamePayload (.ofMembers exampleMembers) (.ofMembers otherMembers) := by
  have head : SameHead [("sha", .text "b")] [("ref", .text "r"), ("sha", .text "b")] :=
    ⟨.inr ⟨⟨none, .omitted⟩, some "r", .value rfl⟩, .values (.cons rfl .nil)⟩
  have request : SameRequest
      [("head", .ofMembers [("sha", .text "b")]), ("body", .text "😀"), ("number", .natural 42)]
      [("number", .natural 42), ("body", .text "😀"), ("base", .null),
        ("head", .ofMembers [("ref", .text "r"), ("sha", .text "b")])] := by
    refine ⟨rfl, .values (.cons rfl .nil), .null, .values (.cons ?_ .nil)⟩
    exact .inr ⟨_, _, writes_ofMembers rfl _, writes_ofMembers rfl _, head⟩
  refine ⟨_, _, writes_ofMembers rfl _, writes_ofMembers rfl _, ?_⟩
  refine .values (.cons ?_ .nil)
  exact .inr ⟨_, _, writes_ofMembers rfl _, writes_ofMembers rfl _, request⟩

theorem parse_exact_example :
    parse exampleText = parse otherText ∧
    parse exampleText = .ok ⟨42, some "😀", none, none, some "b"⟩ ∧
    parse "\x7b\"n\":0\x7d" = .error .notAPullRequest := by
  obtain ⟨alike, absent, encoded⟩ := parse_exact
  have written : Json.WrittenAs (.ofMembers exampleMembers) (exampleText.toList.map some) :=
    ofString?_eq_some_iff.1 rfl
  have other : Json.WrittenAs (.ofMembers otherMembers) (otherText.toList.map some) :=
    ofString?_eq_some_iff.1 rfl
  refine ⟨alike _ _ _ _ samePayload_example written other, ?_, ?_⟩
  · refine encoded _ _ _ (by decide)
      ⟨exampleMembers, _, rfl, rfl, rfl, .value rfl, .omitted, none, ?_⟩ written
    exact .object .omitted (.value rfl)
  · exact (absent [(some "n", .natural 0)] _ (ofString?_eq_some_iff.1 rfl)).2
      ⟨[("n", .natural 0)], rfl, .inl rfl⟩

/-- Of two payloads of which one has another member more, one is read and the other is not, because
the name of the member is no text. -/
theorem parse_lone_surrogate :
    parse "\x7b\"pull_request\":\x7b\"number\":7\x7d\x7d" = .ok ⟨7, none, none, none, none⟩ ∧
    parse "\x7b\"\\ud800\":0,\"pull_request\":\x7b\"number\":7\x7d\x7d" =
      .error .malformed := by
  decide +kernel

end PullTriage.PullRequestEvent
