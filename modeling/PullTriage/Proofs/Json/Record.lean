import PullTriage.Json.Record
import Mathlib.Data.List.Nodup

/-!
# Records written as objects

An object writes a record if it has each field of the record at most once, and, where the record is
closed, no other member (`members?_ofMembers_eq_some_iff`).  What is kept of it are the members that
the record knows, so the others have no influence on what a field is read as (`get?_known`).
-/

namespace PullTriage.Json

variable {form : Form} {members kept : Members}

/-! ## Which members are kept -/

/-- The members that a record knows. -/
def Form.known (form : Form) (members : Members) : Members :=
  members.filter fun m => form.knows m.1

lemma Form.known_cons_of_knows {m : String × Json} (h : form.knows m.1 = true) :
    form.known (m :: members) = m :: form.known members :=
  List.filter_cons_of_pos h

lemma Form.known_cons_of_not_knows {m : String × Json} (h : form.knows m.1 = false) :
    form.known (m :: members) = form.known members :=
  List.filter_cons_of_neg (by simp [h])

lemma addMember?_of_not_knows {seen : Members} {m : String × Json}
    (h : form.knows m.1 = false) :
    form.addMember? seen (some m.1, m.2) = if form.closed then none else some seen := by
  rw [Form.addMember?, h]
  rfl

lemma addMember?_of_knows {seen : Members} {m : String × Json} (h : form.knows m.1 = true) :
    form.addMember? seen (some m.1, m.2) =
      if m.1 ∈ seen.map Prod.fst then none else some (seen ++ [m]) := by
  have any_iff : (seen.any fun n => n.1 == m.1) = true ↔ m.1 ∈ seen.map Prod.fst := by
    simp only [List.any_eq_true, beq_iff_eq, List.mem_map]
  rw [Form.addMember?, h, if_pos rfl]
  exact if_congr any_iff rfl rfl

/-- Going through the members keeps the known ones, unless one of them was there before or a member
is not allowed. -/
lemma foldlM_addMember?_eq_some_iff {seen : Members} (hseen : (seen.map Prod.fst).Nodup) :
    (members.map fun m => (some m.1, m.2)).foldlM form.addMember? seen = some kept ↔
      ((seen ++ form.known members).map Prod.fst).Nodup ∧
        (form.closed = true → ∀ m ∈ members, form.knows m.1 = true) ∧
        kept = seen ++ form.known members := by
  induction members generalizing seen with
  | nil =>
    rw [List.map_nil, List.foldlM_nil, Form.known, List.filter_nil, List.append_nil]
    refine ⟨fun h => ⟨hseen, fun _ => by simp, (Option.some.inj h).symm⟩, fun ⟨_, _, h⟩ => ?_⟩
    rw [h]
    rfl
  | cons m members ih =>
    rw [List.map_cons, List.foldlM_cons]
    cases hknows : form.knows m.1 with
    | false =>
      rw [addMember?_of_not_knows hknows, Form.known_cons_of_not_knows hknows]
      by_cases hclosed : form.closed = true
      · simp [hclosed, hknows]
      · rw [if_neg hclosed]
        simpa [hclosed] using ih hseen
    | true =>
      rw [addMember?_of_knows hknows, Form.known_cons_of_knows hknows]
      by_cases hm : m.1 ∈ seen.map Prod.fst
      · rw [if_pos hm]
        refine ⟨nofun, fun ⟨hnodup, _⟩ => ?_⟩
        rw [List.map_append, List.map_cons] at hnodup
        exact absurd rfl ((List.nodup_append.1 hnodup).2.2 _ hm _ List.mem_cons_self)
      · have hnext : ((seen ++ [m]).map Prod.fst).Nodup := by
          rw [List.map_append, List.map_singleton, List.nodup_append]
          exact ⟨hseen, List.nodup_singleton _, fun a ha b hb hab =>
            hm (List.mem_singleton.1 hb ▸ hab ▸ ha)⟩
        rw [if_neg hm, Option.bind_eq_bind, Option.bind_some, ih hnext]
        simp [hknows]

/-! ## Which objects write a record -/

lemma Form.knows_iff {name : String} :
    form.knows name = true ↔ ∃ f ∈ form.fields, f.name = name := by
  simp [Form.knows]

/-- The members of one name. -/
def named (members : Members) (name : String) : Members :=
  members.filter fun m => m.1 == name

lemma nodup_known_iff :
    ((form.known members).map Prod.fst).Nodup ↔
      ∀ f ∈ form.fields, (named members f.name).length ≤ 1 := by
  have count_known (name : String) (h : form.knows name = true) :
      ((form.known members).map Prod.fst).count name = (named members name).length := by
    rw [List.count, List.countP_map, Form.known, List.countP_filter, named,
      ← List.countP_eq_length_filter]
    refine List.countP_congr fun m _ => ?_
    simp only [Function.comp_apply, Bool.and_eq_true, beq_iff_eq, and_iff_left_iff_imp]
    rintro rfl
    exact h
  rw [List.nodup_iff_count_le_one]
  constructor
  · intro h f hf
    rw [← count_known f.name (Form.knows_iff.2 ⟨f, hf, rfl⟩)]
    exact h f.name
  · intro h name
    cases hknows : form.knows name with
    | true =>
      obtain ⟨f, hf, rfl⟩ := Form.knows_iff.1 hknows
      rw [count_known f.name hknows]
      exact h f hf
    | false =>
      have absent : ((form.known members).map Prod.fst).count name = 0 := by
        refine List.count_eq_zero.2 fun hmem => ?_
        obtain ⟨m, hm, rfl⟩ := List.mem_map.1 hmem
        rw [(List.mem_filter.1 hm).2] at hknows
        cases hknows
      omega

/-- An object writes a record exactly if no field occurs twice and, where the record is closed, all
members are fields. -/
theorem members?_ofMembers_eq_some_iff :
    members? form (ofMembers members) = some kept ↔
      (∀ f ∈ form.fields, (named members f.name).length ≤ 1) ∧
        (form.closed = true → ∀ m ∈ members, form.knows m.1 = true) ∧
        kept = form.known members := by
  rw [ofMembers, members?, foldlM_addMember?_eq_some_iff (by simp), List.nil_append,
    nodup_known_iff]

/-! ## Reading a field -/

/-- A field is read as if the other members were not there. -/
lemma get?_known {name : String} (h : form.knows name = true) :
    (form.known members).get? name = members.get? name := by
  rw [Members.get?, Members.get?, Form.known, List.find?_filter]
  refine congrArg (Option.map _) (congrArg (List.find? · members) (funext fun m => ?_))
  by_cases hm : m.1 = name
  · simp [hm, h]
  · simp [hm]

lemma mem_of_get? {name : String} {v : Json} (h : members.get? name = some v) :
    (name, v) ∈ members := by
  obtain ⟨⟨key, _⟩, hfind, rfl⟩ := Option.map_eq_some_iff.1 h
  obtain rfl : key = name := by simpa using List.find?_some hfind
  exact List.mem_of_find?_eq_some hfind

lemma isSome_get?_iff {name : String} :
    (members.get? name).isSome = true ↔ ∃ v, (name, v) ∈ members := by
  rw [Members.get?, Option.isSome_map, List.find?_isSome]
  constructor
  · rintro ⟨⟨key, v⟩, hmem, heq⟩
    exact ⟨v, beq_iff_eq.1 heq ▸ hmem⟩
  · rintro ⟨v, hmem⟩
    exact ⟨_, hmem, beq_self_eq_true name⟩

/-- A field that may be left out has a value if the member is there and is not null. -/
lemma isSome_of_optional {α : Type} {name : String} {decode : Json → Option α} {value : Option α}
    (h : members.optional name decode = some value) :
    value.isSome = true ↔ ∃ v, members.get? name = some v ∧ v ≠ .null := by
  unfold Members.optional at h
  split at h
  · next hget =>
    cases h
    simp [hget]
  · next hget =>
    cases h
    simp [hget]
  · next v hnull hget =>
    obtain ⟨a, -, rfl⟩ := Option.map_eq_some_iff.1 h
    exact iff_of_true rfl ⟨v, hget, hnull⟩

/-- The member with this name is the only one of the name, and this is its value. -/
def HasMember (members : Members) (name : String) (v : Json) : Prop :=
  named members name = [(name, v)]

lemma HasMember.get? {name : String} {v : Json} (h : HasMember members name v) :
    members.get? name = some v := by
  rw [Members.get?, ← List.head?_filter]
  exact congrArg (fun found : Members => found.head?.map Prod.snd) h

lemma HasMember.length_le {name : String} {v : Json} (h : HasMember members name v) :
    (named members name).length ≤ 1 :=
  Nat.le_of_eq (congrArg List.length h)

end PullTriage.Json
