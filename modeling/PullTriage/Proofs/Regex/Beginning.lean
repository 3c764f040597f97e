import PullTriage.Proofs.Glob.Pieces

/-!
# Texts of which the beginning is known

A rule for a directory looks at the beginning of a path and takes whatever comes behind it.  So a
statement about all paths of a directory is one about all texts that begin in a certain way, and
this module says how to decide it from the beginning alone.

`Node.reach` follows an expression through a known beginning.  Where a character is known a class
accepts it or not, and behind the beginning everything is possible, so all positions there count as
one (`clip`).  No way through the expression ends anywhere else (`clip_stop_mem_reach`).  Hence where
`reach` finds no end from any position, no text with this beginning has a match
(`search_eq_none_of_avoids`), and where it finds none from behind the empty beginning, every match
begins with the text (`start_eq_zero_of_isAnchored`).  Both conditions are computed.

In the other direction `isSome_search_fromStart` says exactly when an expression behind `^` matches:
if the text begins with one of its words.  And since the first match is the leftmost one, a match of
any expression begins with the text if some way does (`start_eq_zero_iff`).
-/

namespace PullTriage.Regex

open scoped Computability

/-! ## Matches are ways -/

lemma way_of_search {re : Regex} {text : String} {found : Match} (h : re.search text = some found) :
    found.text = text.toList ∧ found.start ≤ text.toList.length ∧
      ⟨found.stop, found.captures⟩ ∈ re.node.ways text.toList found.start := by
  obtain ⟨⟨start, stop, captures⟩, hsearch, rfl⟩ := Option.map_eq_some_iff.1 h
  rw [search_eq_ways] at hsearch
  obtain ⟨p, hp, hway⟩ := List.exists_of_findSome?_eq_some hsearch
  obtain ⟨w, hw, heq⟩ := Option.map_eq_some_iff.1 hway
  obtain ⟨rfl, rfl, rfl⟩ : p = start ∧ w.stop = stop ∧ w.captures = captures := by simpa using heq
  refine ⟨rfl, Nat.lt_succ_iff.1 (List.mem_range.1 hp), ?_⟩
  exact List.mem_of_mem_head? hw

/-- The first match is the leftmost one, so it begins with the text wherever there is a way from
there. -/
lemma start_eq_zero_iff {re : Regex} {text : String} {found : Match}
    (h : re.search text = some found) :
    found.start = 0 ↔ re.node.ways text.toList 0 ≠ [] := by
  constructor
  · intro hstart
    obtain ⟨-, -, hway⟩ := way_of_search h
    rw [hstart] at hway
    exact List.ne_nil_of_mem hway
  · intro hne
    obtain ⟨w, rest, hways⟩ := List.exists_cons_of_ne_nil hne
    rw [Regex.search, search_eq_ways, List.range_succ_eq_map, List.findSome?_cons, hways] at h
    obtain rfl := Option.some.inj h
    rfl

lemma isSome_search_iff {node : Node Leaf} {text : List Char} :
    (node.search text).isSome = true ↔ ∃ p ≤ text.length, ∃ w, w ∈ node.ways text p := by
  rw [search_eq_ways, List.findSome?_isSome_iff]
  constructor
  · rintro ⟨p, hp, hsome⟩
    rw [Option.isSome_map, Option.isSome_iff_exists] at hsome
    obtain ⟨w, hw⟩ := hsome
    exact ⟨p, Nat.lt_succ_iff.1 (List.mem_range.1 hp), w, List.mem_of_mem_head? hw⟩
  · rintro ⟨p, hp, w, hw⟩
    refine ⟨p, List.mem_range.2 (Nat.lt_succ_of_le hp), ?_⟩
    rw [Option.isSome_map, List.isSome_head?]
    exact List.ne_nil_of_mem hw

/-! ## Following an expression through a beginning -/

/-- A position, where all those behind the known beginning count as one. -/
def clip (known : List Char) (p : Nat) : Nat :=
  min p (known.length + 1)

/-- The clipped positions to which a leaf may lead. -/
def Leaf.reach (known : List Char) : Leaf → Nat → List Nat
  | .one set, p =>
    match known[p]? with
    | some c => if set.has c.toNat then [p + 1] else []
    | none => [known.length + 1]
  | .look .textStart, p => if p = 0 then [p] else []
  | .look .textEnd, p => if p < known.length then [] else [p]
  | .look _, p => [p]

/-- The clipped positions to which any number of consuming iterations may lead, `bound` of them at
most. -/
def onward (reach : Nat → List Nat) : (bound : Nat) → Nat → List Nat
  | 0, p => [p]
  | bound + 1, p => p :: ((reach p).filter (p < ·)).flatMap (onward reach bound)

/-- The clipped positions at which a way through the expression may end, in some text with the known
beginning. -/
def Node.reach (known : List Char) : Node Leaf → Nat → List Nat
  | .empty, p => [p]
  | .leaf a, p => a.reach known p
  | .cat a b, p => (a.reach known p).flatMap (b.reach known)
  | .alt a b, p => a.reach known p ++ b.reach known p
  | .plus _ r, p => (r.reach known p).flatMap (onward (r.reach known) (known.length + 1))
  | .group _ r, p => r.reach known p

lemma mem_onward_self (reach : Nat → List Nat) (bound p : Nat) : p ∈ onward reach bound p := by
  cases bound with
  | zero => exact List.mem_singleton_self p
  | succ bound => exact List.mem_cons_self

section Reach

variable {known text : List Char}

lemma clip_step_mem_reach (begins : known <+: text) {a : Leaf} {p q : Nat}
    (h : a.step? text p = some q) :
    clip known q ∈ a.reach known (clip known p) := by
  have bounds := Leaf.step?_bounds h
  have hlength := begins.length_le
  cases a with
  | one set =>
    rw [Leaf.step?, Option.ite_none_right_eq_some, Option.some.injEq] at h
    obtain ⟨hset, rfl⟩ := h
    by_cases hp : p < known.length
    · have hclip : clip known p = p ∧ clip known (p + 1) = p + 1 := by
        unfold clip
        omega
      have hchar : text[p]? = some known[p] := List.prefix_iff_getElem?.1 begins p hp
      rw [hchar, Option.any_some] at hset
      simp [Leaf.reach, hclip, hp, hset]
    · have hclip : clip known (p + 1) = known.length + 1 := by
        unfold clip
        omega
      have behind : known.length ≤ clip known p := by
        unfold clip
        omega
      simp [Leaf.reach, behind, hclip]
  | look cond =>
    rw [Leaf.step?, Option.ite_none_right_eq_some, Option.some.injEq] at h
    obtain ⟨⟨hp, hcond⟩, rfl⟩ := h
    cases cond with
    | textStart =>
      cases p with
      | zero => simp [Leaf.reach, clip]
      | succ p => simp [Look.holds, charBefore, List.getElem?_eq_getElem hp] at hcond
    | textEnd =>
      have behind : text.length ≤ p := by simpa [Look.holds] using hcond
      have hclip : ¬ clip known p < known.length := by
        unfold clip
        omega
      simp [Leaf.reach, hclip]
    | _ => exact List.mem_singleton_self _

/-- An iteration that consumes something comes to a later clipped position, unless it begins behind
what is known, where all positions are one.  So the bound on the iterations is never met. -/
lemma clip_stop_mem_onward {r : Node Leaf} {greedy : Bool}
    (ih : ∀ p ≤ text.length, ∀ w ∈ r.ways text p,
      clip known w.stop ∈ r.reach known (clip known p))
    {bound fuel p : Nat} (hp : p ≤ text.length) (hfuel : known.length + 1 ≤ fuel + clip known p)
    {w : Way} (hw : w ∈ iterations greedy (r.ways text) bound p) :
    clip known w.stop ∈ onward (r.reach known) fuel (clip known p) := by
  induction bound generalizing fuel p w with
  | zero =>
    obtain rfl : w = .stay p := by simpa [iterations] using hw
    exact mem_onward_self _ _ _
  | succ bound ihbound =>
    rcases mem_iterations_succ.1 hw with rfl | ⟨v, hv, hlt, u, hu, rfl⟩
    · exact mem_onward_self _ _ _
    · have hvl := (r.ways_bounds hp hv).2
      have hreach := ih p hp v hv
      rcases Nat.lt_or_ge (clip known p) (clip known v.stop) with hahead | hbehind
      · obtain ⟨fuel, rfl⟩ : ∃ n, fuel = n + 1 := by
          refine ⟨fuel - 1, ?_⟩
          unfold clip at hfuel hahead
          omega
        have hrest : clip known u.stop ∈ onward (r.reach known) fuel (clip known v.stop) :=
          ihbound hvl (by omega) hu
        refine List.mem_cons_of_mem _ (List.mem_flatMap.2 ⟨clip known v.stop, ?_, hrest⟩)
        simpa using ⟨hreach, hahead⟩
      · have same : clip known v.stop = clip known p := by
          unfold clip at hbehind ⊢
          omega
        have hrest := ihbound hvl (same ▸ hfuel) hu
        rw [same] at hrest
        exact hrest

/-- Wherever a way through an expression ends, `reach` has foreseen it. -/
theorem clip_stop_mem_reach (begins : known <+: text) (node : Node Leaf) {p : Nat}
    (hp : p ≤ text.length) {w : Way} (hw : w ∈ node.ways text p) :
    clip known w.stop ∈ node.reach known (clip known p) := by
  induction node generalizing p w with
  | empty =>
    obtain rfl : w = .stay p := by simpa [Node.ways] using hw
    exact List.mem_singleton_self _
  | leaf a =>
    obtain ⟨q, hq, rfl⟩ : ∃ q, a.step? text p = some q ∧ Way.stay q = w := by
      simpa [Node.ways] using hw
    exact clip_step_mem_reach begins hq
  | cat a b iha ihb =>
    obtain ⟨v, hv, hmap⟩ := List.mem_flatMap.1 hw
    obtain ⟨u, hu, rfl⟩ := List.mem_map.1 hmap
    have hvl := (a.ways_bounds hp hv).2
    have hend : clip known u.stop ∈ b.reach known (clip known v.stop) := ihb hvl hu
    exact List.mem_flatMap.2 ⟨clip known v.stop, iha hp hv, hend⟩
  | alt a b iha ihb =>
    rcases List.mem_append.1 hw with ha | hb
    · exact List.mem_append_left _ (iha hp ha)
    · exact List.mem_append_right _ (ihb hp hb)
  | plus greedy r ih =>
    obtain ⟨v, hv, u, hu, rfl⟩ := mem_ways_plus.1 hw
    have hvl := (r.ways_bounds hp hv).2
    refine List.mem_flatMap.2 ⟨clip known v.stop, ih hp hv, ?_⟩
    rw [Way.stop_andThen]
    split at hu
    · exact clip_stop_mem_onward (fun q hq w hw => ih hq hw) hvl (by omega) hu
    · obtain rfl := List.mem_singleton.1 hu
      exact mem_onward_self _ _ _
  | group i r ih =>
    obtain ⟨v, hv, rfl⟩ := List.mem_map.1 hw
    have hend : clip known v.stop ∈ r.reach known (clip known p) := ih hp hv
    exact hend

end Reach

/-- No text with the known beginning has a match, and `reach` shows it. -/
def Node.avoids (node : Node Leaf) (known : List Char) : Bool :=
  (List.range (known.length + 2)).all fun p => (node.reach known p).isEmpty

/-- Matches are found at the beginning of a text only, and `reach` shows it. -/
def Node.isAnchored (node : Node Leaf) : Bool :=
  (node.reach [] 1).isEmpty

theorem search_eq_none_of_avoids {re : Regex} {known : List Char} (h : re.node.avoids known = true)
    {text : String} (begins : known <+: text.toList) : re.search text = none := by
  cases hsearch : re.search text with
  | none => rfl
  | some found =>
    obtain ⟨-, hstart, hway⟩ := way_of_search hsearch
    have hreach := clip_stop_mem_reach begins re.node hstart hway
    have hclip : clip known found.start ∈ List.range (known.length + 2) := by
      rw [List.mem_range]
      unfold clip
      omega
    have empty := List.all_eq_true.1 h _ hclip
    rw [List.isEmpty_iff] at empty
    rw [empty] at hreach
    cases hreach

lemma ways_eq_nil_of_isAnchored {node : Node Leaf} (h : node.isAnchored = true) {text : List Char}
    {p : Nat} (hpos : 0 < p) (hp : p ≤ text.length) : node.ways text p = [] := by
  rw [List.eq_nil_iff_forall_not_mem]
  intro w hw
  have hreach := clip_stop_mem_reach (List.nil_prefix (l := text)) node hp hw
  have hclip : clip [] p = 1 := by
    unfold clip
    simp
    omega
  rw [hclip, List.isEmpty_iff.1 h] at hreach
  cases hreach

theorem start_eq_zero_of_isAnchored {re : Regex} (h : re.node.isAnchored = true) {text : String}
    {found : Match} (hsearch : re.search text = some found) : found.start = 0 := by
  obtain ⟨-, hstart, hway⟩ := way_of_search hsearch
  by_contra hne
  rw [ways_eq_nil_of_isAnchored h (Nat.pos_of_ne_zero hne) hstart] at hway
  cases hway

/-! ## Words at the beginning -/

/-- The expression, from the beginning of the text. -/
def Node.fromStart (node : Node Leaf) : Node Leaf :=
  .cat (.leaf (.look .textStart)) node

/-- The expressions for the characters of a word. -/
def letters (word : List Char) : List (Node Leaf) :=
  word.map fun c => .leaf (.one (.single c))

/-- The expression for a word. -/
def Node.word (word : List Char) : Node Leaf :=
  .sequence (letters word)

/-- The expression for a word at the end of the text. -/
def Node.wordAtEnd (word : List Char) : Node Leaf :=
  .sequence (letters word ++ [.leaf (.look .textEnd)])

lemma reads_word (word : List Char) : (Node.word word).Reads {word} := by
  induction word with
  | nil => exact reads_empty
  | cons c word ih =>
    have lang : ({[c]} : Language Char) * {word} = {c :: word} := by
      ext text
      rw [Language.mem_mul]
      constructor
      · rintro ⟨_, rfl, _, rfl, rfl⟩
        rfl
      · rintro rfl
        exact ⟨[c], rfl, word, rfl, rfl⟩
    have first : (Node.sequence [Node.leaf (.one (.single c))]).Reads {[c]} := Glob.reads_single c
    rw [← lang]
    exact reads_sequence_append first ih

lemma ways_ne_nil_iff {node : Node Leaf} {L : Language Char} (h : node.Reads L)
    {text : List Char} {p : Nat} (hp : p ≤ text.length) :
    node.ways text p ≠ [] ↔ ∃ word ∈ L, word <+: text.drop p := by
  constructor
  · intro hne
    obtain ⟨w, hw⟩ := List.exists_mem_of_ne_nil _ hne
    obtain ⟨word, hword, hbegins, -⟩ := (h text p w.stop hp).1 ⟨w, hw, rfl⟩
    exact ⟨word, hword, hbegins⟩
  · rintro ⟨word, hword, hbegins⟩
    obtain ⟨w, hw, -⟩ := (h text p (p + word.length) hp).2 ⟨word, hword, hbegins, rfl⟩
    exact List.ne_nil_of_mem hw

lemma ways_zero_ne_nil_iff {node : Node Leaf} {L : Language Char} (h : node.Reads L)
    {text : List Char} : node.ways text 0 ≠ [] ↔ ∃ word ∈ L, word <+: text := by
  rw [ways_ne_nil_iff h (Nat.zero_le _), List.drop_zero]

lemma ways_word_ne_nil_iff {word text : List Char} :
    (Node.word word).ways text 0 ≠ [] ↔ word <+: text := by
  rw [ways_zero_ne_nil_iff (reads_word word)]
  constructor
  · rintro ⟨_, rfl, hbegins⟩
    exact hbegins
  · intro hbegins
    exact ⟨word, rfl, hbegins⟩

lemma ways_fromStart (node : Node Leaf) {text : List Char} {p : Nat} (hp : p ≤ text.length) :
    node.fromStart.ways text p = if p = 0 then node.ways text 0 else [] := by
  change ((Node.leaf (.look .textStart)).ways text p).flatMap
    (fun w => (node.ways text w.stop).map w.andThen) = _
  rw [ways_textStart text p hp]
  by_cases h : p = 0
  · rw [if_pos h, if_pos h, List.flatMap_singleton, Way.map_stay_andThen, Way.stop_stay]
  · rw [if_neg h, if_neg h, List.flatMap_nil]

/-- Behind `^` an expression matches exactly the texts that begin with one of its words. -/
theorem isSome_search_fromStart {node : Node Leaf} {L : Language Char} (h : node.Reads L)
    {text : List Char} :
    (node.fromStart.search text).isSome = true ↔ ∃ word ∈ L, word <+: text := by
  rw [isSome_search_iff, ← ways_zero_ne_nil_iff h]
  constructor
  · rintro ⟨p, hp, w, hw⟩
    rw [ways_fromStart node hp] at hw
    split at hw
    · exact List.ne_nil_of_mem hw
    · cases hw
  · intro hne
    obtain ⟨w, hw⟩ := List.exists_mem_of_ne_nil _ hne
    refine ⟨0, Nat.zero_le _, w, ?_⟩
    rwa [ways_fromStart node (Nat.zero_le _), if_pos rfl]

lemma ways_wordAtEnd_ne_nil_iff {word text : List Char} :
    (Node.wordAtEnd word).ways text 0 ≠ [] ↔ text = word := by
  have ends (v : Way) (hv : v ∈ (Node.word word).ways text 0) :
      (Node.sequence [Node.leaf (.look .textEnd)]).ways text v.stop =
        if v.stop = text.length then [.stay v.stop] else [] :=
    ways_textEnd text v.stop (Node.ways_bounds _ (Nat.zero_le _) hv).2
  have reads := reads_word word text 0 text.length (Nat.zero_le _)
  rw [Node.wordAtEnd, ways_sequence_append]
  constructor
  · intro hne
    obtain ⟨w, hw⟩ := List.exists_mem_of_ne_nil _ hne
    obtain ⟨v, hv, hmap⟩ := List.mem_flatMap.1 hw
    rw [ends v hv] at hmap
    have hstop : v.stop = text.length := by
      by_contra hne
      rw [if_neg hne] at hmap
      cases hmap
    obtain ⟨_, rfl, hbegins, hlength⟩ := reads.1 ⟨v, hv, hstop⟩
    rw [List.drop_zero] at hbegins
    exact (hbegins.eq_of_length (by omega)).symm
  · rintro rfl
    obtain ⟨v, hv, hstop⟩ := reads.2 ⟨text, rfl, List.prefix_refl _, (Nat.zero_add _).symm⟩
    have hmem : v.andThen (.stay v.stop) ∈
        ((Node.sequence [Node.leaf (.look .textEnd)]).ways text v.stop).map v.andThen := by
      rw [ends v hv, if_pos hstop]
      exact List.mem_singleton_self _
    exact List.ne_nil_of_mem (List.mem_flatMap.2 ⟨v, hv, hmem⟩)

end PullTriage.Regex
