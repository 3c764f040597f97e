import PullTriage.Proofs.Glob.Groups
import PullTriage.Proofs.Regex.Language

/-!
# The groups of a way

A way through an expression records the groups that took part in it, and of each group the way
through the expression that stands in it (`records_of_mem_captures`).  They are groups of the
expression (`fst_mem_groupNumbers`), so an expression without groups records none
(`captures_eq_nil_of_groupNumbers`).
-/

namespace PullTriage.Regex

variable {text : List Char}

/-- What holds of the captures of every iteration holds of those of a loop. -/
lemma forall_captures_iterations {P : Nat × Nat × Nat → Prop} {greedy : Bool}
    {ways : Nat → List Way} (hways : ∀ q, ∀ v ∈ ways q, ∀ c ∈ v.captures, P c) {bound p : Nat}
    {w : Way} (hw : w ∈ iterations greedy ways bound p) : ∀ c ∈ w.captures, P c := by
  induction bound generalizing p w with
  | zero =>
    obtain rfl : w = .stay p := by simpa [iterations] using hw
    exact List.forall_mem_nil _
  | succ bound ih =>
    rcases mem_iterations_succ.1 hw with rfl | ⟨v, hv, -, u, hu, rfl⟩
    · exact List.forall_mem_nil _
    · rw [Way.captures_andThen, List.forall_mem_append]
      exact ⟨ih hu, hways p v hv⟩

/-- The groups of the expression, each with the expression that stands in it. -/
def Node.bodies : Node Leaf → List (Nat × Node Leaf)
  | .empty => []
  | .leaf _ => []
  | .cat a b => a.bodies ++ b.bodies
  | .alt a b => a.bodies ++ b.bodies
  | .plus _ r => r.bodies
  | .group i r => (i, r) :: r.bodies

lemma map_fst_bodies (node : Node Leaf) : node.bodies.map Prod.fst = node.groupNumbers := by
  induction node with
  | empty | leaf a => rfl
  | cat a b iha ihb | alt a b iha ihb => rw [Node.bodies, List.map_append, iha, ihb]; rfl
  | plus greedy r ih => exact ih
  | group i r ih => rw [Node.bodies, List.map_cons, ih]; rfl

/-- The capture records a way through the expression that stands in its group. -/
def Records (text : List Char) (node : Node Leaf) (c : Nat × Nat × Nat) : Prop :=
  ∃ body, (c.1, body) ∈ node.bodies ∧ ∃ v ∈ body.ways text c.2.1, v.stop = c.2.2

lemma Records.mono {node whole : Node Leaf} {c : Nat × Nat × Nat}
    (hsub : node.bodies ⊆ whole.bodies) (h : Records text node c) : Records text whole c := by
  obtain ⟨body, hbody, hway⟩ := h
  exact ⟨body, hsub hbody, hway⟩

/-- What a way records of a group is a way through the expression that stands in it. -/
theorem records_of_mem_captures (node : Node Leaf) {p : Nat} {w : Way}
    (hw : w ∈ node.ways text p) : ∀ c ∈ w.captures, Records text node c := by
  induction node generalizing p w with
  | empty =>
    obtain rfl : w = .stay p := by simpa [Node.ways] using hw
    exact List.forall_mem_nil _
  | leaf a =>
    obtain ⟨q, -, rfl⟩ : ∃ q, a.step? text p = some q ∧ Way.stay q = w := by
      simpa [Node.ways] using hw
    exact List.forall_mem_nil _
  | cat a b iha ihb =>
    obtain ⟨v, hv, hmap⟩ := List.mem_flatMap.1 hw
    obtain ⟨u, hu, rfl⟩ := List.mem_map.1 hmap
    rw [Way.captures_andThen, List.forall_mem_append]
    exact ⟨fun c hc => (ihb hu c hc).mono (List.subset_append_right _ _),
      fun c hc => (iha hv c hc).mono (List.subset_append_left _ _)⟩
  | alt a b iha ihb =>
    rcases List.mem_append.1 hw with ha | hb
    · exact fun c hc => (iha ha c hc).mono (List.subset_append_left _ _)
    · exact fun c hc => (ihb hb c hc).mono (List.subset_append_right _ _)
  | plus greedy r ih =>
    obtain ⟨v, hv, u, hu, rfl⟩ := mem_ways_plus.1 hw
    rw [Way.captures_andThen, List.forall_mem_append]
    refine ⟨?_, ih hv⟩
    split at hu
    · exact forall_captures_iterations (fun q v hv => ih hv) hu
    · obtain rfl := List.mem_singleton.1 hu
      exact List.forall_mem_nil _
  | group i r ih =>
    obtain ⟨v, hv, rfl⟩ := List.mem_map.1 hw
    exact List.forall_mem_cons.2 ⟨⟨r, List.mem_cons_self, v, hv, rfl⟩,
      fun c hc => (ih hv c hc).mono (List.subset_cons_self _ _)⟩

/-- The groups that take part in a way are groups of the expression. -/
theorem fst_mem_groupNumbers (node : Node Leaf) {p : Nat} {w : Way} (hw : w ∈ node.ways text p) :
    ∀ c ∈ w.captures, c.1 ∈ node.groupNumbers := by
  intro c hc
  obtain ⟨body, hbody, -⟩ := records_of_mem_captures node hw c hc
  rw [← map_fst_bodies]
  exact List.mem_map_of_mem hbody

lemma captures_eq_nil_of_groupNumbers {node : Node Leaf} (h : node.groupNumbers = []) {p : Nat}
    {w : Way} (hw : w ∈ node.ways text p) : w.captures = [] := by
  rw [List.eq_nil_iff_forall_not_mem]
  intro c hc
  have hnumber := fst_mem_groupNumbers node hw c hc
  rw [h] at hnumber
  cases hnumber

end PullTriage.Regex
