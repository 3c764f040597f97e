import PullTriage.Proofs.Json.Record
import PullTriage.Toml.Reader

/-!
# Documents are tables

Every line of a TOML document changes a table, so what is read in the end is one
(`isTable_of_ofText?`).  As a JSON value it is an object with the same keys, and none of its values
is null: a key that a document sets is there and has a value (`sets_table_iff`).
-/

namespace PullTriage.Toml

/-- The value is a table. -/
def IsTable (v : Value) : Prop :=
  ∃ origin members, v = .table origin members

/-- The value is a table that has this key. -/
def Sets (v : Value) (key : String) : Prop :=
  ∃ origin members inner, v = .table origin members ∧ (key, inner) ∈ members

/-! ## Tables stay tables -/

lemma isTable_of_some_eq {origin : Origin} {members : Members} {v : Value}
    (h : some (Value.table origin members) = some v) : IsTable v :=
  ⟨origin, members, (Option.some.inj h).symm⟩

lemma isTable_of_map_eq {α : Type} {inner : Option α} {origin : Origin} {f : α → Members}
    {v : Value} (h : (inner.map fun a => Value.table origin (f a)) = some v) : IsTable v := by
  obtain ⟨a, -, rfl⟩ := Option.map_eq_some_iff.1 h
  exact ⟨origin, f a, rfl⟩

/-- A change that makes tables of tables. -/
def KeepsTables (change : Value → Option Value) : Prop :=
  ∀ v v', IsTable v → change v = some v' → IsTable v'

lemma keepsTables_addMember? (isDotted : Bool) (key : String) (v : Value) :
    KeepsTables (addMember? isDotted key v) := by
  rintro _ v' ⟨origin, members, rfl⟩ h
  rw [addMember?] at h
  split at h
  · cases h
  · split at h
    · cases h
    · exact isTable_of_some_eq h

/-- Changing what lies below a table leaves a table. -/
lemma keepsTables_changeAt? (isDotted : Bool) {change : Value → Option Value}
    (hchange : KeepsTables change) (path : List String) :
    KeepsTables (changeAt? isDotted change path) := by
  rintro _ v' ⟨origin, members, rfl⟩ h
  cases path with
  | nil => exact hchange _ _ ⟨origin, members, rfl⟩ h
  | cons key path =>
    rw [changeAt?] at h
    split at h
    · exact isTable_of_map_eq h
    · cases h
    · split at h
      · cases h
      · exact isTable_of_map_eq h
    · exact isTable_of_map_eq h
    · exact isTable_of_map_eq h
    · cases h

lemma keepsTables_assign? (path : List String) (v : Value) : KeepsTables (assign? path v) := by
  intro table table' htable h
  unfold assign? at h
  split at h
  · cases h
  · exact keepsTables_changeAt? true (keepsTables_addMember? _ _ v) _ _ _ htable h

lemma keepsTables_beginTable? (path : List String) : KeepsTables (beginTable? path) := by
  intro table table' htable h
  unfold beginTable? at h
  split at h
  · cases h
  · refine keepsTables_changeAt? false ?_ _ _ _ htable h
    rintro _ v' ⟨origin, members, rfl⟩ h
    dsimp only at h
    split at h
    · exact isTable_of_some_eq h
    · exact isTable_of_some_eq h
    · cases h

lemma keepsTables_beginItem? (path : List String) : KeepsTables (beginItem? path) := by
  intro table table' htable h
  unfold beginItem? at h
  split at h
  · cases h
  · refine keepsTables_changeAt? false ?_ _ _ _ htable h
    rintro _ v' ⟨origin, members, rfl⟩ h
    dsimp only at h
    split at h
    · exact isTable_of_some_eq h
    · exact isTable_of_some_eq h
    · cases h

lemma keepsTables_changeSection? {change : Value → Option Value} (hchange : KeepsTables change)
    (path : List String) : KeepsTables (changeSection? change path) := by
  intro table table' htable h
  unfold changeSection? at h
  split at h
  · exact hchange _ _ htable h
  · refine keepsTables_changeAt? false ?_ _ _ _ htable h
    rintro _ v' ⟨origin, members, rfl⟩ h
    dsimp only at h
    split at h
    · exact isTable_of_map_eq h
    · exact isTable_of_map_eq h
    · cases h

/-! ## Documents -/

lemma isTable_of_readLine? {st st' : Reading} {cs rest : List Char} (hst : IsTable st.root)
    (h : readLine? st cs = some (st', rest)) : IsTable st'.root := by
  unfold readLine? at h
  -- A line is a header in double brackets, one in single brackets, or a key with a value.
  split at h
  all_goals
    obtain ⟨⟨path, text⟩, -, h⟩ := Option.bind_eq_some_iff.1 h
    dsimp only at h
    split at h
    rotate_left
    · cases h
  · obtain ⟨root, hroot, h⟩ := Option.bind_eq_some_iff.1 h
    obtain ⟨_, -, h⟩ := Option.bind_eq_some_iff.1 h
    cases h
    exact keepsTables_beginItem? path _ _ hst hroot
  · obtain ⟨root, hroot, h⟩ := Option.bind_eq_some_iff.1 h
    obtain ⟨_, -, h⟩ := Option.bind_eq_some_iff.1 h
    cases h
    exact keepsTables_beginTable? path _ _ hst hroot
  · obtain ⟨⟨v, _⟩, -, h⟩ := Option.bind_eq_some_iff.1 h
    obtain ⟨root, hroot, h⟩ := Option.bind_eq_some_iff.1 h
    obtain ⟨_, -, h⟩ := Option.bind_eq_some_iff.1 h
    cases h
    exact keepsTables_changeSection? (keepsTables_assign? path v) _ _ _ hst hroot

lemma isTable_of_readLines? {fuel : Nat} {st : Reading} {cs : List Char} {doc : Value}
    (hst : IsTable st.root) (h : readLines? fuel st cs = some doc) : IsTable doc := by
  induction fuel generalizing st cs with
  | zero => cases h
  | succ fuel ih =>
    rw [readLines?] at h
    obtain ⟨text, -, h⟩ := Option.bind_eq_some_iff.1 h
    dsimp only at h
    split at h
    · exact Option.some.inj h ▸ hst
    · obtain ⟨⟨st', rest⟩, hline, h⟩ := Option.bind_eq_some_iff.1 h
      exact ih (isTable_of_readLine? hst hline) h

/-- A document is a table. -/
theorem isTable_of_ofText? {text : String} {doc : Value} (h : ofText? text = some doc) :
    IsTable doc :=
  isTable_of_readLines? ⟨_, _, rfl⟩ h

/-! ## Documents as JSON -/

lemma membersToJson_eq (members : Members) :
    membersToJson members = members.map fun m => (some m.1, m.2.toJson) := by
  induction members with
  | nil => rfl
  | cons m members ih => rw [membersToJson, ih, List.map_cons]

lemma toJson_table (origin : Origin) (members : Members) :
    (Value.table origin members).toJson =
      Json.ofMembers (members.map fun m => (m.1, m.2.toJson)) := by
  rw [Value.toJson, membersToJson_eq, Json.ofMembers, List.map_map]
  rfl

lemma toJson_ne_null (v : Value) : v.toJson ≠ .null := by
  cases v with
  | string text => nofun
  | integer n => nofun
  | array items => nofun
  | table origin members => nofun
  | tables items => nofun

/-- A table sets a key if the object that it writes has a value for it. -/
lemma sets_table_iff {origin : Origin} {members : Members} {key : String} :
    Sets (.table origin members) key ↔
      ∃ v, Json.Members.get? (members.map fun m => (m.1, m.2.toJson)) key = some v ∧
        v ≠ .null := by
  constructor
  · rintro ⟨_, _, inner, ⟨⟩, hmem⟩
    obtain ⟨v, hv⟩ := Option.isSome_iff_exists.1 (Json.isSome_get?_iff.2
      ⟨inner.toJson, List.mem_map_of_mem (f := fun m => (m.1, m.2.toJson)) hmem⟩)
    obtain ⟨m, -, hm⟩ := List.mem_map.1 (Json.mem_of_get? hv)
    exact ⟨v, hv, (Prod.mk.inj hm).2 ▸ toJson_ne_null m.2⟩
  · rintro ⟨v, hv, -⟩
    obtain ⟨⟨_, inner⟩, hmem, hm⟩ := List.mem_map.1 (Json.mem_of_get? hv)
    obtain ⟨rfl, -⟩ := Prod.mk.inj hm
    exact ⟨origin, members, inner, rfl, hmem⟩

end PullTriage.Toml
