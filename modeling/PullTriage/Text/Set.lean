/-!
# Sets of texts

A set has no order: two of them are equal if they have the same members (`TextSet.ext`).
-/

namespace PullTriage

namespace TextSet

/-- The lists have the same members. -/
def SameMembers (texts others : List String) : Prop :=
  ∀ text, text ∈ texts ↔ text ∈ others

instance (texts others : List String) : Decidable (SameMembers texts others) :=
  decidable_of_iff ((∀ text ∈ texts, text ∈ others) ∧ ∀ text ∈ others, text ∈ texts)
    ⟨fun h text => ⟨h.1 text, h.2 text⟩, fun h => ⟨fun text => (h text).1, fun text => (h text).2⟩⟩

/-- Lists with the same members are the same set. -/
def setoid : Setoid (List String) where
  r := SameMembers
  iseqv :=
    ⟨fun _ _ => .rfl, fun h text => (h text).symm, fun h h' text => (h text).trans (h' text)⟩

end TextSet

/-- A set of texts. -/
def TextSet : Type :=
  Quotient TextSet.setoid

namespace TextSet

instance : DecidableEq TextSet :=
  @Quotient.decidableEq _ setoid (inferInstanceAs (∀ a b, Decidable (SameMembers a b)))

/-- The set without texts. -/
def empty : TextSet :=
  Quotient.mk setoid []

/-- Is the text in the set? -/
def contains (set : TextSet) (text : String) : Bool :=
  Quotient.lift (s := setoid) (fun texts => decide (text ∈ texts))
    (fun _ _ h => decide_eq_decide.2 (h text)) set

instance : Membership String TextSet := ⟨fun set text => set.contains text = true⟩

instance (text : String) (set : TextSet) : Decidable (text ∈ set) :=
  inferInstanceAs (Decidable (set.contains text = true))

/-- Adds a text. -/
def insert (set : TextSet) (text : String) : TextSet :=
  Quotient.lift (s := setoid) (fun texts => Quotient.mk setoid (text :: texts))
    (fun _ _ h => Quotient.sound fun other => by rw [List.mem_cons, List.mem_cons, h other]) set

theorem notMem_empty (text : String) : text ∉ empty :=
  Bool.false_ne_true

theorem mem_insert (set : TextSet) (text other : String) :
    other ∈ set.insert text ↔ other = text ∨ other ∈ set := by
  induction set using Quotient.ind with
  | _ texts =>
    change decide (other ∈ text :: texts) = true ↔ other = text ∨ decide (other ∈ texts) = true
    rw [decide_eq_true_eq, decide_eq_true_eq, List.mem_cons]

theorem ext {set other : TextSet} (h : ∀ text, text ∈ set ↔ text ∈ other) : set = other := by
  induction set using Quotient.ind with
  | _ texts =>
    induction other using Quotient.ind with
    | _ others =>
      refine Quotient.sound fun text => ?_
      rw [← decide_eq_true_eq (p := text ∈ texts), ← decide_eq_true_eq (p := text ∈ others)]
      exact h text

end TextSet

end PullTriage
