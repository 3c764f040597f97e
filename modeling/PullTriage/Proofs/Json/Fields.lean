import PullTriage.Proofs.Json.Record
import PullTriage.Proofs.Text.Decimal
import Mathlib.Data.List.Forall2

/-!
# The fields of a record

A value writes a record as an object or as an array (`Form.Writes`), and what it says in a field are
the values that stand under the name of the field (`valuesOf`).  Reading goes by these lists and by
nothing else: a required field has one value (`required_eq_some_iff`), an optional one has one at
most, and null is as good as none (`optional_eq_some_iff`, with `States`), and no field has two,
whatever it is read as (`members?_eq_some_iff`).

So the decoding of a record is an equivalence: on the left the decoder, on the right the lists of
values and what the single values say.
-/

namespace PullTriage.Json

variable {α : Type} {form : Form} {members kept : Members} {name : String} {v : Json}
  {decode : Json → Option α} {Says : Json → α → Prop}

/-! ## What stands under a name -/

/-- The values under a name, in order. -/
def valuesOf (members : Members) (name : String) : List Json :=
  (named members name).map Prod.snd

@[simp] lemma valuesOf_nil (name : String) : valuesOf [] name = [] :=
  rfl

lemma valuesOf_cons (m : String × Json) (members : Members) (name : String) :
    valuesOf (m :: members) name =
      if m.1 = name then m.2 :: valuesOf members name else valuesOf members name := by
  by_cases h : m.1 = name
  · simp [valuesOf, named, h]
  · simp [valuesOf, named, h]

lemma valuesOf_append (members more : Members) (name : String) :
    valuesOf (members ++ more) name = valuesOf members name ++ valuesOf more name := by
  simp [valuesOf, named]

lemma mem_valuesOf : v ∈ valuesOf members name ↔ (name, v) ∈ members := by
  simp [valuesOf, named]

lemma length_valuesOf (members : Members) (name : String) :
    (valuesOf members name).length = (named members name).length :=
  List.length_map ..

lemma get?_eq_head?_valuesOf (members : Members) (name : String) :
    members.get? name = (valuesOf members name).head? := by
  rw [Members.get?, valuesOf, List.head?_map, named, List.head?_filter]

/-- No field of the record is twice among the members. -/
def Form.HasOnce (form : Form) (members : Members) : Prop :=
  ∀ f ∈ form.fields, (valuesOf members f.name).length ≤ 1

lemma Form.HasOnce.length_le (h : form.HasOnce members) (hknows : form.knows name = true) :
    (valuesOf members name).length ≤ 1 := by
  obtain ⟨f, hf, rfl⟩ := Form.knows_iff.1 hknows
  exact h f hf

/-! ## Which values write a record -/

/-- The value writes the record: as an object, which has other members only if the record is open,
or as an array of the values of the first fields, where those that are left out have fallbacks. -/
inductive Form.Writes (form : Form) : Json → Members → Prop where
  | object {members : Members} :
      (form.closed = true → ∀ m ∈ members, form.knows m.1 = true) →
      Writes form (.ofMembers members) members
  | array {items : List Json} :
      (form.exact = true → items.length ≤ form.fields.length) →
      (∀ f ∈ form.fields.drop items.length, f.fallback = true) →
      Writes form (.array items) ((form.fields.map Field.name).zip items)

lemma zipFields_nil_right (exact : Bool) (fields : List Field) :
    zipFields exact fields [] = if fields.all (·.fallback) then some [] else none := by
  cases fields with
  | nil => rfl
  | cons f fields => rw [zipFields]; nofun

lemma zipFields_eq_some_iff {exact : Bool} {fields : List Field} {items : List Json} :
    zipFields exact fields items = some kept ↔
      (exact = true → items.length ≤ fields.length) ∧
        (∀ f ∈ fields.drop items.length, f.fallback = true) ∧
        kept = (fields.map Field.name).zip items := by
  induction fields generalizing items kept with
  | nil =>
    cases items with
    | nil =>
      rw [zipFields_nil_right, List.all_nil, if_pos rfl, Option.some.injEq]
      exact ⟨fun h => ⟨fun _ => Nat.le_refl 0, nofun, h.symm⟩, fun h => h.2.2.symm⟩
    | cons v items =>
      cases exact with
      | true => exact ⟨nofun, fun h => absurd (h.1 rfl) (Nat.not_succ_le_zero _)⟩
      | false =>
        rw [zipFields, if_neg Bool.false_ne_true, Option.some.injEq]
        exact ⟨fun h => ⟨nofun, nofun, h.symm⟩, fun h => h.2.2.symm⟩
  | cons f fields ih =>
    cases items with
    | nil =>
      rw [zipFields_nil_right]
      by_cases hall : (f :: fields).all (·.fallback) = true
      · rw [if_pos hall, Option.some.injEq]
        exact ⟨fun h => ⟨fun _ => Nat.zero_le _, List.all_eq_true.1 hall, h.symm⟩,
          fun h => h.2.2.symm⟩
      · rw [if_neg hall]
        exact ⟨nofun, fun h => absurd (List.all_eq_true.2 h.2.1) hall⟩
    | cons v items =>
      rw [zipFields, Option.map_eq_some_iff]
      simp only [ih, List.length_cons, Nat.add_le_add_iff_right, List.drop_succ_cons,
        List.map_cons, List.zip_cons_cons]
      constructor
      · rintro ⟨rest, ⟨hlength, hfallback, rfl⟩, rfl⟩
        exact ⟨hlength, hfallback, rfl⟩
      · rintro ⟨hlength, hfallback, rfl⟩
        exact ⟨_, ⟨hlength, hfallback, rfl⟩, rfl⟩

lemma map_fst_zip_sublist (names : List String) (items : List Json) :
    ((names.zip items).map Prod.fst).Sublist names := by
  induction names generalizing items with
  | nil => exact .slnil
  | cons name names ih =>
    cases items with
    | nil => exact List.nil_sublist _
    | cons v items => exact (ih items).cons_cons name

lemma known_zip (form : Form) (items : List Json) :
    form.known ((form.fields.map Field.name).zip items) =
      (form.fields.map Field.name).zip items := by
  refine List.filter_eq_self.2 fun m hm => Form.knows_iff.2 ?_
  exact List.mem_map.1 (List.of_mem_zip hm).1

/-- No field is twice in an array of the values of the fields. -/
lemma length_named_zip_le (hnames : (form.fields.map Field.name).Nodup) (items : List Json) :
    ∀ f ∈ form.fields, (named ((form.fields.map Field.name).zip items) f.name).length ≤ 1 := by
  refine nodup_known_iff.1 ?_
  rw [known_zip]
  exact hnames.sublist (map_fst_zip_sublist _ items)

/-- The names in an object that writes a record are texts. -/
lemma exists_ofMembers_of_foldlM {pairs : List (Option String × Json)} {seen : Members}
    (h : pairs.foldlM form.addMember? seen = some kept) :
    ∃ members : Members, pairs = members.map fun m => (some m.1, m.2) := by
  induction pairs generalizing seen with
  | nil => exact ⟨[], rfl⟩
  | cons pair pairs ih =>
    rw [List.foldlM_cons] at h
    obtain ⟨next, hnext, hrest⟩ := Option.bind_eq_some_iff.1 h
    obtain ⟨members, rfl⟩ := ih hrest
    obtain ⟨key, v⟩ := pair
    cases key with
    | none => cases hnext
    | some key => exact ⟨(key, v) :: members, rfl⟩

/-- A value is read as a record exactly if it writes the record and has no field twice. -/
theorem members?_eq_some_iff (hnames : (form.fields.map Field.name).Nodup) :
    members? form v = some kept ↔
      ∃ members, form.Writes v members ∧ form.HasOnce members ∧ kept = form.known members := by
  simp only [Form.HasOnce, length_valuesOf]
  constructor
  · intro h
    cases v with
    | object pairs =>
      obtain ⟨members, rfl⟩ := exists_ofMembers_of_foldlM h
      obtain ⟨honce, hclosed, rfl⟩ := members?_ofMembers_eq_some_iff.1 h
      exact ⟨members, .object hclosed, honce, rfl⟩
    | array items =>
      obtain ⟨hlength, hfallback, rfl⟩ := zipFields_eq_some_iff.1 h
      exact ⟨_, .array hlength hfallback, length_named_zip_le hnames items, (known_zip _ _).symm⟩
    | _ => cases h
  · rintro ⟨members, hwrites, honce, rfl⟩
    cases hwrites with
    | object hclosed => exact members?_ofMembers_eq_some_iff.2 ⟨honce, hclosed, rfl⟩
    | array hlength hfallback =>
      exact zipFields_eq_some_iff.2 ⟨hlength, hfallback, known_zip _ _⟩

/-- The value is a record of this form that says something: it writes members that say it. -/
def Form.IsRecord {β : Type} (form : Form) (Says : Members → β → Prop) (v : Json) (b : β) : Prop :=
  ∃ members, form.Writes v members ∧ Says members b

/-- A record is read as what it says, if what is read from its members is what they say, and members
that say something have no field twice. -/
lemma bind_members?_eq_some_iff {β : Type} {read : Members → Option β} {b : β}
    {Says : Members → β → Prop} (hnames : (form.fields.map Field.name).Nodup)
    (honce : ∀ members, Says members b → form.HasOnce members)
    (hread : ∀ members, form.HasOnce members →
      (read (form.known members) = some b ↔ Says members b)) :
    (members? form v).bind read = some b ↔ form.IsRecord Says v b := by
  rw [Option.bind_eq_some_iff]
  constructor
  · rintro ⟨kept, hkept, hb⟩
    obtain ⟨members, hwrites, once, rfl⟩ := (members?_eq_some_iff hnames).1 hkept
    exact ⟨members, hwrites, (hread members once).1 hb⟩
  · rintro ⟨members, hwrites, hstated⟩
    have once := honce members hstated
    exact ⟨_, (members?_eq_some_iff hnames).2 ⟨members, hwrites, once, rfl⟩,
      (hread members once).2 hstated⟩

lemma not_writes_null : ¬ form.Writes .null members := by
  intro h
  generalize hvalue : Json.null = value at h
  cases h with
  | object hclosed => cases hvalue
  | array hlength hfallback => cases hvalue

/-- Null is no record. -/
lemma not_isRecord_null {β : Type} {Says : Members → β → Prop} (b : β) :
    ¬ form.IsRecord Says .null b := by
  rintro ⟨members, hwrites, -⟩
  exact not_writes_null hwrites

lemma ofMembers_injective : Function.Injective ofMembers := by
  intro members other h
  refine List.map_injective_iff.2 ?_ (Json.object.inj h)
  intro m n hmn
  obtain ⟨hname, hvalue⟩ := Prod.mk.inj hmn
  exact Prod.ext (Option.some.inj hname) hvalue

/-- A value writes one list of members at most. -/
lemma Form.Writes.unique {others : Members} (h : form.Writes v members)
    (h' : form.Writes v others) : members = others := by
  cases h with
  | object hclosed =>
    generalize hobject : ofMembers members = object at h'
    cases h' with
    | object hclosed' => exact ofMembers_injective hobject
    | array hlength hfallback => cases hobject
  | @array items hlength hfallback =>
    generalize harray : Json.array items = array at h'
    cases h' with
    | object hclosed' => cases harray
    | array hlength' hfallback' => rw [Json.array.inj harray]

/-- An object writes an open record, whatever members it has. -/
lemma writes_ofMembers (hopen : form.closed = false) (members : Members) :
    form.Writes (.ofMembers members) members :=
  .object (by simp [hopen])

/-- The members of an object that writes a record are all there is in it. -/
lemma mem_of_writes_object {pairs : List (Option String × Json)}
    (h : form.Writes (.object pairs) members) {key : Option String}
    (hmem : (key, v) ∈ pairs) : ∃ name, key = some name ∧ (name, v) ∈ members ∧
      (form.closed = true → form.knows name = true) := by
  generalize hobject : Json.object pairs = object at h
  cases h with
  | object hclosed =>
    obtain rfl := Json.object.inj hobject
    obtain ⟨⟨name, w⟩, hm, heq⟩ := List.mem_map.1 hmem
    obtain ⟨rfl, rfl⟩ := Prod.mk.inj heq
    exact ⟨name, rfl, hm, fun hc => hclosed hc _ hm⟩
  | array hlength hfallback => cases hobject

/-! ## What a field says -/

/-- What the values under the name of an optional field say: nothing, if there is none or null, and
otherwise what the one value says. -/
inductive States (Says : Json → α → Prop) : List Json → Option α → Prop where
  | omitted : States Says [] none
  | null : States Says [.null] none
  | value {v : Json} {a : α} : Says v a → States Says [v] (some a)

/-- What the values under the name of a required field say: there is one. -/
def StatesOne (Says : Json → α → Prop) (values : List Json) (a : α) : Prop :=
  ∃ v, values = [v] ∧ Says v a

/-- What the values under the name of a field with a fallback say. -/
def StatesOr (fallback : α) (Says : Json → α → Prop) (values : List Json) (a : α) : Prop :=
  values = [] ∧ a = fallback ∨ StatesOne Says values a

variable {values : List Json} {a fallback : α} {value : Option α}

lemma States.length_le (h : States Says values value) : values.length ≤ 1 := by
  cases h <;> simp

/-- An optional field says nothing if there is none or null. -/
lemma states_none_iff : States Says values none ↔ values = [] ∨ values = [.null] := by
  constructor
  · intro h
    cases h with
    | omitted => exact .inl rfl
    | null => exact .inr rfl
  · rintro (rfl | rfl)
    · exact .omitted
    · exact .null

lemma StatesOne.length_le (h : StatesOne Says values a) : values.length ≤ 1 := by
  obtain ⟨v, rfl, -⟩ := h
  exact Nat.le_refl 1

lemma StatesOr.length_le (h : StatesOr fallback Says values a) : values.length ≤ 1 := by
  rcases h with ⟨rfl, -⟩ | h
  · exact Nat.zero_le 1
  · exact h.length_le

lemma get?_known_eq_head? (hknows : form.knows name = true) :
    (form.known members).get? name = (valuesOf members name).head? := by
  rw [get?_known hknows, get?_eq_head?_valuesOf]

/-- A value that an optional field has is null, or it says something. -/
lemma exists_of_states (h : States Says values value) (hv : v ∈ values) (hnull : v ≠ .null) :
    ∃ a, Says v a := by
  cases h with
  | omitted => cases hv
  | null => exact absurd (List.mem_singleton.1 hv) hnull
  | value hstated => exact ⟨_, List.mem_singleton.1 hv ▸ hstated⟩

lemma required_eq_some_iff (honce : form.HasOnce members) (name : String)
    (hknows : form.knows name = true) (hstated : ∀ v a, decode v = some a ↔ Says v a) :
    (form.known members).required name decode = some a ↔
      StatesOne Says (valuesOf members name) a := by
  rw [Members.required, get?_known_eq_head? hknows]
  match hvalues : valuesOf members name with
  | [] => exact ⟨nofun, by rintro ⟨v, ⟨⟩, -⟩⟩
  | [v] =>
    rw [List.head?_cons, Option.bind_some, hstated]
    exact ⟨fun h => ⟨v, rfl, h⟩, by rintro ⟨_, ⟨⟩, h⟩; exact h⟩
  | v :: w :: rest =>
    have hlength := honce.length_le hknows
    rw [hvalues] at hlength
    exact absurd hlength (by simp)

lemma optional_eq_some_iff (honce : form.HasOnce members) (name : String)
    (hknows : form.knows name = true) (hstated : ∀ v a, decode v = some a ↔ Says v a)
    (hnull : ∀ a, ¬ Says .null a) :
    (form.known members).optional name decode = some value ↔
      States Says (valuesOf members name) value := by
  rw [Members.optional, get?_known_eq_head? hknows]
  match hvalues : valuesOf members name with
  | [] =>
    constructor
    · rintro ⟨⟩
      exact .omitted
    · rintro ⟨⟩
      rfl
  | [v] =>
    rw [List.head?_cons]
    split
    · next heq => cases heq
    · next heq =>
      obtain rfl := Option.some.inj heq
      constructor
      · rintro ⟨⟩
        exact .null
      · rintro (_ | _ | h)
        · rfl
        · exact absurd h (hnull _)
    · next w hne heq =>
      obtain rfl := Option.some.inj heq
      rw [Option.map_eq_some_iff]
      constructor
      · rintro ⟨a, ha, rfl⟩
        exact .value ((hstated _ _).1 ha)
      · rintro (_ | _ | h)
        · exact absurd rfl hne
        · exact ⟨_, (hstated _ _).2 h, rfl⟩
  | v :: w :: rest =>
    have hlength := honce.length_le hknows
    rw [hvalues] at hlength
    exact absurd hlength (by simp)

lemma getD_eq_some_iff (honce : form.HasOnce members) (name : String)
    (hknows : form.knows name = true) (hstated : ∀ v a, decode v = some a ↔ Says v a) :
    (form.known members).getD name decode fallback = some a ↔
      StatesOr fallback Says (valuesOf members name) a := by
  rw [Members.getD, get?_known_eq_head? hknows]
  match hvalues : valuesOf members name with
  | [] =>
    constructor
    · rintro ⟨⟩
      exact .inl ⟨rfl, rfl⟩
    · rintro (⟨-, rfl⟩ | ⟨v, ⟨⟩, -⟩)
      rfl
  | [v] =>
    rw [List.head?_cons]
    change decode v = some a ↔ _
    rw [hstated]
    constructor
    · exact fun h => .inr ⟨v, rfl, h⟩
    · rintro (⟨⟨⟩, -⟩ | ⟨_, ⟨⟩, h⟩)
      exact h
  | v :: w :: rest =>
    have hlength := honce.length_le hknows
    rw [hvalues] at hlength
    exact absurd hlength (by simp)

/-! ## What a single value says -/

/-- The value is this text. -/
def IsText (v : Json) (s : String) : Prop :=
  v = .text s

/-- The value is this natural number, written in digits alone, and below 2 to the 64th. -/
def IsNatural (v : Json) (n : Nat) : Prop :=
  ∃ lexeme : String, v = .number lexeme ∧ lexeme.toList ≠ [] ∧
    (∀ c ∈ lexeme.toList, c.isDigit = true) ∧ Nat.ofDigitChars 10 lexeme.toList 0 = n ∧
    n < UInt64.size

/-- The value is an array of items that say these things, in order. -/
def IsList (Says : Json → α → Prop) (v : Json) (as : List α) : Prop :=
  ∃ items, v = .array items ∧ List.Forall₂ Says items as

lemma isText_text (s : String) : IsText (.text s) s :=
  rfl

lemma isList_map {encode : α → Json} {as : List α}
    (h : ∀ a ∈ as, Says (encode a) a) : IsList Says (.array (as.map encode)) as :=
  ⟨_, rfl, List.forall₂_map_left_iff.2 (List.forall₂_same.2 h)⟩

lemma isList_ofTexts (texts : List String) : IsList IsText (.ofTexts texts) texts :=
  isList_map fun s _ => isText_text s

lemma exists_of_isList {items : List Json} {as : List α} (h : IsList Says (.array items) as)
    (hv : v ∈ items) : ∃ a, Says v a := by
  obtain ⟨_, ⟨⟩, hstated⟩ := h
  induction hstated with
  | nil => cases hv
  | cons hitem _ ih =>
    rcases List.mem_cons.1 hv with rfl | hv
    · exact ⟨_, hitem⟩
    · exact ih hv

lemma text?_eq_some_iff (v : Json) (s : String) : v.text? = some s ↔ IsText v s := by
  cases v with
  | string content =>
    rw [text?, IsText, text, Json.string.injEq]
  | _ => exact ⟨nofun, nofun⟩

lemma natural?_eq_some_iff (v : Json) (n : Nat) : v.natural? = some n ↔ IsNatural v n := by
  cases v with
  | number lexeme =>
    rw [natural?, Text.decimalBelow?_eq_some_iff]
    constructor
    · exact fun h => ⟨lexeme, rfl, h⟩
    · rintro ⟨_, ⟨⟩, h⟩
      exact h
  | _ => exact ⟨nofun, by rintro ⟨_, ⟨⟩, -⟩⟩

lemma isNatural_natural {n : Nat} (h : n < UInt64.size) : IsNatural (.natural n) n :=
  (natural?_eq_some_iff _ _).1 (Text.decimalBelow?_toString h)

lemma mapM_eq_some_iff (hstated : ∀ v a, decode v = some a ↔ Says v a) {items : List Json}
    {as : List α} : items.mapM decode = some as ↔ List.Forall₂ Says items as := by
  induction items generalizing as with
  | nil =>
    rw [List.mapM_nil, List.forall₂_nil_left_iff]
    exact ⟨fun h => (Option.some.inj h).symm, fun h => congrArg some h.symm⟩
  | cons v items ih =>
    rw [List.mapM_cons, List.forall₂_cons_left_iff]
    constructor
    · intro h
      obtain ⟨a, ha, hrest⟩ := Option.bind_eq_some_iff.1 h
      obtain ⟨rest, hitems, hpure⟩ := Option.bind_eq_some_iff.1 hrest
      exact ⟨a, rest, (hstated _ _).1 ha, ih.1 hitems, (Option.some.inj hpure).symm⟩
    · rintro ⟨a, rest, ha, hitems, rfl⟩
      exact Option.bind_eq_some_iff.2 ⟨a, (hstated _ _).2 ha,
        Option.bind_eq_some_iff.2 ⟨rest, ih.2 hitems, rfl⟩⟩

lemma list?_eq_some_iff (hstated : ∀ v a, decode v = some a ↔ Says v a) (v : Json) (as : List α) :
    list? decode v = some as ↔ IsList Says v as := by
  cases v with
  | array items =>
    rw [list?, mapM_eq_some_iff hstated]
    constructor
    · exact fun h => ⟨items, rfl, h⟩
    · rintro ⟨_, ⟨⟩, h⟩
      exact h
  | _ => exact ⟨nofun, by rintro ⟨_, ⟨⟩, -⟩⟩

lemma not_isText_null (s : String) : ¬ IsText .null s :=
  nofun

lemma not_isNatural_null (n : Nat) : ¬ IsNatural .null n := by
  rintro ⟨_, ⟨⟩, -⟩

lemma not_isList_null (as : List α) : ¬ IsList Says .null as := by
  rintro ⟨_, ⟨⟩, -⟩

/-- An optional text of a record. -/
lemma optional_text?_eq_some_iff (honce : form.HasOnce members) (name : String)
    (hknows : form.knows name = true) {text : Option String} :
    (form.known members).optional name Json.text? = some text ↔
      States IsText (valuesOf members name) text :=
  optional_eq_some_iff honce name hknows text?_eq_some_iff not_isText_null

end PullTriage.Json
