import PullTriage.Proofs.Regex.Beginning
import PullTriage.Proofs.Regex.Captures

/-!
# Groups that take part in every match

A group may be left out of a match, if a branch without it is taken, or it may stand for nothing.
`Node.requires` looks at an expression for a group that no way through it leaves out: it is in one of
the parts of a sequence, in each of two alternatives, or in the body of a loop, which is gone through
at least once.

What such a group stands for is said by the expression in it.  Where that is a run of characters of
a class (`Node.isRunWithout`) the group has a text, which is not empty and has no character outside
of the class: `exists_group_of_names`.  As in `Proofs/Regex/Beginning.lean` the conditions are
computed from the expression, and hold for every text.
-/

namespace PullTriage.Regex

variable {text : List Char}

/-! ## Groups on every way -/

/-- No way through the expression leaves the group out. -/
def Node.requires (index : Nat) : Node Leaf → Bool
  | .empty => false
  | .leaf _ => false
  | .cat a b => a.requires index || b.requires index
  | .alt a b => a.requires index && b.requires index
  | .plus _ r => r.requires index
  | .group i r => i == index || r.requires index

theorem exists_capture_of_requires {index : Nat} (node : Node Leaf)
    (h : node.requires index = true) {p : Nat} {w : Way} (hw : w ∈ node.ways text p) :
    ∃ c ∈ w.captures, c.1 = index := by
  induction node generalizing p w with
  | empty | leaf a => cases h
  | cat a b iha ihb =>
    obtain ⟨v, hv, hmap⟩ := List.mem_flatMap.1 hw
    obtain ⟨u, hu, rfl⟩ := List.mem_map.1 hmap
    rcases Bool.or_eq_true_iff.1 h with ha | hb
    · obtain ⟨c, hc, hindex⟩ := iha ha hv
      exact ⟨c, List.mem_append_right _ hc, hindex⟩
    · obtain ⟨c, hc, hindex⟩ := ihb hb hu
      exact ⟨c, List.mem_append_left _ hc, hindex⟩
  | alt a b iha ihb =>
    obtain ⟨ha, hb⟩ := Bool.and_eq_true_iff.1 h
    rcases List.mem_append.1 hw with hfirst | hsecond
    · exact iha ha hfirst
    · exact ihb hb hsecond
  | plus greedy r ih =>
    -- The first iteration is on every way, so what it records is too.
    obtain ⟨v, hv, u, -, rfl⟩ := mem_ways_plus.1 hw
    obtain ⟨c, hc, hindex⟩ := ih h hv
    exact ⟨c, List.mem_append_right _ hc, hindex⟩
  | group i r ih =>
    obtain ⟨v, hv, rfl⟩ := List.mem_map.1 hw
    rcases Bool.or_eq_true_iff.1 h with hhere | hinside
    · exact ⟨(i, p, v.stop), List.mem_cons_self, beq_iff_eq.1 hhere⟩
    · obtain ⟨c, hc, hindex⟩ := ih hinside hv
      exact ⟨c, List.mem_cons_of_mem _ hc, hindex⟩

/-! ## Runs of characters -/

/-- The expression is for one or more characters of a class to which `c` does not belong. -/
def Node.isRunWithout (c : Char) : Node Leaf → Bool
  | .plus _ (.leaf (.one set)) => !set.has c.toNat
  | _ => false

lemma exists_word_of_isRunWithout {c : Char} {node : Node Leaf} (h : node.isRunWithout c = true)
    {p : Nat} {w : Way} (hw : w ∈ node.ways text p) :
    ∃ word, WordAt text p w.stop word ∧ word ≠ [] ∧ c ∉ word := by
  unfold Node.isRunWithout at h
  split at h
  · rename_i greedy set
    have hp : p ≤ text.length := by
      obtain ⟨v, hv, -⟩ := mem_ways_plus.1 hw
      obtain ⟨q, hq, -⟩ : ∃ q, (Leaf.one set).step? text p = some q ∧ Way.stay q = v := by
        simpa [Node.ways] using hv
      have bounds := Leaf.step?_bounds hq
      omega
    obtain ⟨word, ⟨hne, hall⟩, hat⟩ :=
      (reads_plus_one greedy set text p w.stop hp).1 ⟨w, hw, rfl⟩
    refine ⟨word, hat, hne, fun hc => ?_⟩
    rw [hall c hc] at h
    cases h
  · cases h

/-- In every match the group stands for a run of characters without `c`. -/
def Node.names (c : Char) (index : Nat) (node : Node Leaf) : Bool :=
  index != 0 && node.requires index &&
    node.bodies.all fun group => group.1 != index || group.2.isRunWithout c

/-! ## The text of a group -/

lemma WordAt.slice_eq {p q : Nat} {word : List Char} (h : WordAt text p q word) :
    slice text p q = String.ofList word := by
  obtain ⟨⟨rest, hrest⟩, rfl⟩ := h
  rw [slice, ← hrest, Nat.add_sub_cancel_left, List.take_left]

/-- The text of a group is that of a capture with its number. -/
lemma exists_capture_of_group {found : Match} {index : Nat} (hindex : index ≠ 0)
    (h : ∃ c ∈ found.captures, c.1 = index) :
    ∃ start stop, (index, start, stop) ∈ found.captures ∧
      found.group index = some (slice found.text start stop) := by
  obtain ⟨c, hc, hnumber⟩ := h
  have hsome : (found.captures.find? fun c => c.1 == index).isSome = true :=
    List.find?_isSome.2 ⟨c, hc, beq_iff_eq.2 hnumber⟩
  obtain ⟨⟨i, start, stop⟩, hfirst⟩ := Option.isSome_iff_exists.1 hsome
  obtain rfl : i = index := by simpa using List.find?_some hfirst
  refine ⟨start, stop, List.mem_of_find?_eq_some hfirst, ?_⟩
  rw [Match.group, if_neg hindex, hfirst]

/-- What is computed by `names` holds of every match: the group has a text, which is not empty and
in which the character does not occur. -/
theorem exists_group_of_names {re : Regex} {c : Char} {index : Nat}
    (h : re.node.names c index = true) {path : String} {found : Match}
    (hsearch : re.search path = some found) :
    ∃ name, found.group index = some name ∧ name ≠ "" ∧ c ∉ name.toList := by
  simp only [Node.names, Bool.and_eq_true, bne_iff_ne, ne_eq, List.all_eq_true] at h
  obtain ⟨⟨hindex, hrequires⟩, hbodies⟩ := h
  obtain ⟨htext, -, hway⟩ := way_of_search hsearch
  obtain ⟨start, stop, hcapture, hgroup⟩ :=
    exists_capture_of_group hindex (exists_capture_of_requires re.node hrequires hway)
  obtain ⟨body, hbody, v, hv, hstop⟩ := records_of_mem_captures re.node hway _ hcapture
  have hrun : body.isRunWithout c = true := by simpa using hbodies _ hbody
  obtain ⟨word, hat, hne, hfree⟩ := exists_word_of_isRunWithout hrun hv
  rw [show v.stop = stop from hstop] at hat
  rw [htext, hat.slice_eq] at hgroup
  refine ⟨_, hgroup, fun hempty => ?_, ?_⟩
  · rw [String.ofList_eq_empty_iff] at hempty
    exact hne hempty
  · rwa [String.toList_ofList]

/-- A group has no character that the text of the match does not have. -/
lemma mem_text_of_mem_group {found : Match} {index : Nat} {name : String}
    (h : found.group index = some name) {c : Char} (hc : c ∈ name.toList) : c ∈ found.text := by
  have part (start stop : Nat) (hslice : slice found.text start stop = name) :
      c ∈ found.text := by
    rw [← hslice, slice, String.toList_ofList] at hc
    exact List.mem_of_mem_drop (List.mem_of_mem_take hc)
  unfold Match.group at h
  split at h
  · exact part _ _ (Option.some.inj h)
  · split at h
    · exact part _ _ (Option.some.inj h)
    · cases h

end PullTriage.Regex
