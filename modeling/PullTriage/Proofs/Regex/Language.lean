import PullTriage.Proofs.Regex.Anchored
import Mathlib.Computability.Language

/-!
# The language of an expression

An expression without conditions on positions matches the words of a language, wherever it stands.
`Node.Reads` says so: the ways from a position end exactly after the words of the language that the
text has there.  The rules of this file go with the shape of the expression, `reads_cat` with `*`,
`reads_alt` with `+` and `reads_plus` with one word and then a star; that a loop passes over empty
iterations makes no difference to its language.

Which of several ways is preferred is no question of the language: `search_eq_ways` has that.
-/

namespace PullTriage.Regex

open scoped Computability

/-! ## Words in a text -/

/-- The part of the text from `p` to `q` is this word. -/
def WordAt (text : List Char) (p q : Nat) (word : List Char) : Prop :=
  word <+: text.drop p ∧ q = p + word.length

lemma wordAt_nil {text : List Char} {p q : Nat} : WordAt text p q [] ↔ q = p := by
  simp [WordAt]

lemma wordAt_append {text : List Char} {p q : Nat} {u v : List Char} :
    WordAt text p q (u ++ v) ↔ ∃ m, WordAt text p m u ∧ WordAt text m q v := by
  constructor
  · rintro ⟨⟨rest, hrest⟩, rfl⟩
    refine ⟨p + u.length, ⟨⟨v ++ rest, by rw [← List.append_assoc, hrest]⟩, rfl⟩, ⟨rest, ?_⟩, ?_⟩
    · rw [← List.drop_drop, ← hrest, List.append_assoc, List.drop_left]
    · rw [List.length_append, Nat.add_assoc]
  · rintro ⟨m, ⟨⟨rest, hrest⟩, rfl⟩, ⟨rest', hrest'⟩, rfl⟩
    rw [← List.drop_drop, ← hrest, List.drop_left] at hrest'
    exact ⟨⟨rest', by rw [List.append_assoc, hrest', hrest]⟩,
      by rw [List.length_append, Nat.add_assoc]⟩

lemma WordAt.le {text : List Char} {p q : Nat} {word : List Char} (h : WordAt text p q word) :
    p ≤ q := by
  rw [h.2]
  exact Nat.le_add_right p _

lemma WordAt.lt {text : List Char} {p q : Nat} {word : List Char} (h : WordAt text p q word)
    (hne : word ≠ []) : p < q := by
  have hpos := List.length_pos_iff.2 hne
  have hstop := h.2
  omega

lemma wordAt_singleton {text : List Char} {p q : Nat} {c : Char} :
    WordAt text p q [c] ↔ text[p]? = some c ∧ q = p + 1 := by
  rw [WordAt, List.length_singleton, List.singleton_prefix_iff_head?_eq_some, List.head?_drop]

/-! ## Reading a language -/

/-- The expression matches the words of `L` and nothing else, wherever it stands in a text. -/
def Node.Reads (node : Node Leaf) (L : Language Char) : Prop :=
  ∀ text p q, p ≤ text.length →
    ((∃ w ∈ node.ways text p, w.stop = q) ↔ ∃ word ∈ L, WordAt text p q word)

lemma reads_empty : (Node.empty : Node Leaf).Reads 1 := by
  intro text p q _
  simp [Node.ways, Language.mem_one, wordAt_nil, eq_comm]

/-- The one-character words with a character of the class. -/
def CharClass.words (set : CharClass) : Language Char :=
  {word | ∃ c, set.has c.toNat = true ∧ word = [c]}

lemma reads_one (set : CharClass) : (Node.leaf (.one set)).Reads set.words := by
  intro text p q _
  constructor
  · rintro ⟨w, hw, rfl⟩
    simp only [Node.ways, Leaf.step?, Option.mem_toList, Option.map_eq_some_iff,
      Option.ite_none_right_eq_some, Option.any_eq_true, Option.some.injEq] at hw
    obtain ⟨_, ⟨⟨c, hc, hset⟩, rfl⟩, rfl⟩ := hw
    exact ⟨[c], ⟨c, hset, rfl⟩, wordAt_singleton.2 ⟨hc, rfl⟩⟩
  · rintro ⟨_, ⟨c, hset, rfl⟩, hword⟩
    obtain ⟨hc, rfl⟩ := wordAt_singleton.1 hword
    exact ⟨.stay (p + 1), by simp [Node.ways, Leaf.step?, hc, hset], rfl⟩

variable {a b r : Node Leaf} {L M : Language Char}

/-- What is done first and what is done then, whatever the shape of the whole. -/
lemma reads_of_ways (ha : a.Reads L) (hb : b.Reads M)
    (hr : ∀ text p, r.ways text p =
      (a.ways text p).flatMap fun w => (b.ways text w.stop).map w.andThen) :
    r.Reads (L * M) := by
  intro text p q hp
  simp only [hr, List.mem_flatMap, List.mem_map, Language.mem_mul]
  constructor
  · rintro ⟨_, ⟨v, hv, u, hu, rfl⟩, rfl⟩
    obtain ⟨x, hx, hword⟩ := (ha text p v.stop hp).1 ⟨v, hv, rfl⟩
    obtain ⟨y, hy, hword'⟩ := (hb text v.stop u.stop (a.ways_bounds hp hv).2).1 ⟨u, hu, rfl⟩
    exact ⟨x ++ y, ⟨x, hx, y, hy, rfl⟩, wordAt_append.2 ⟨v.stop, hword, hword'⟩⟩
  · rintro ⟨_, ⟨x, hx, y, hy, rfl⟩, hword⟩
    obtain ⟨m, hword, hword'⟩ := wordAt_append.1 hword
    obtain ⟨v, hv, rfl⟩ := (ha text p m hp).2 ⟨x, hx, hword⟩
    obtain ⟨u, hu, rfl⟩ := (hb text v.stop q (a.ways_bounds hp hv).2).2 ⟨y, hy, hword'⟩
    exact ⟨v.andThen u, ⟨v, hv, u, hu, rfl⟩, rfl⟩

lemma reads_cat (ha : a.Reads L) (hb : b.Reads M) : (Node.cat a b).Reads (L * M) :=
  reads_of_ways ha hb fun _ _ => rfl

lemma reads_alt (ha : a.Reads L) (hb : b.Reads M) : (Node.alt a b).Reads (L + M) := by
  intro text p q hp
  simp only [Node.ways, List.mem_append, Language.mem_add, or_and_right, exists_or,
    ha text p q hp, hb text p q hp]

lemma reads_group (i : Nat) (hr : r.Reads L) : (Node.group i r).Reads L := by
  intro text p q hp
  rw [← hr text p q hp]
  simp [Node.ways]

lemma reads_sequence_append {front back : List (Node Leaf)}
    (hfront : (Node.sequence front).Reads L) (hback : (Node.sequence back).Reads M) :
    (Node.sequence (front ++ back)).Reads (L * M) :=
  reads_of_ways hfront hback fun text p => ways_sequence_append text front back p

lemma reads_option (hr : r.Reads L) : (Node.option true r).Reads (L + 1) :=
  reads_alt hr reads_empty

/-! ## Loops -/

/-- A loop of consuming iterations reads the star of a language, which needs no empty words. -/
lemma reads_iterations {text : List Char} (greedy : Bool) (hr : r.Reads L) {bound p q : Nat}
    (hp : p ≤ text.length) (hb : text.length - p ≤ bound) :
    (∃ w ∈ iterations greedy (r.ways text) bound p, w.stop = q) ↔
      ∃ word ∈ L∗, WordAt text p q word := by
  constructor
  · rintro ⟨w, hw, rfl⟩
    clear hb
    induction bound generalizing p w with
    | zero =>
      obtain rfl : w = .stay p := by simpa [iterations] using hw
      exact ⟨[], Language.nil_mem_kstar L, wordAt_nil.2 rfl⟩
    | succ bound ih =>
      rcases mem_iterations_succ.1 hw with rfl | ⟨v, hv, -, u, hu, rfl⟩
      · exact ⟨[], Language.nil_mem_kstar L, wordAt_nil.2 rfl⟩
      · obtain ⟨x, hx, hword⟩ := (hr text p v.stop hp).1 ⟨v, hv, rfl⟩
        obtain ⟨y, hy, hword'⟩ := ih (r.ways_bounds hp hv).2 u hu
        refine ⟨x ++ y, ?_, wordAt_append.2 ⟨v.stop, hword, hword'⟩⟩
        rw [← Language.one_add_self_mul_kstar_eq_kstar, Language.mem_add, Language.mem_mul]
        exact .inr ⟨x, hx, y, hy, rfl⟩
  · rintro ⟨word, hword, hat⟩
    obtain ⟨words, rfl, hwords⟩ := Language.mem_kstar_iff_exists_nonempty.1 hword
    -- Each word that is not empty is one iteration, and uses up one of the bound.
    induction words generalizing p bound with
    | nil =>
      obtain rfl := wordAt_nil.1 hat
      refine ⟨.stay q, ?_, rfl⟩
      cases bound with
      | zero => exact List.mem_singleton_self _
      | succ bound => exact mem_iterations_succ.2 (.inl rfl)
    | cons x words ih =>
      rw [List.flatten_cons] at hat
      obtain ⟨m, hx, hrest⟩ := wordAt_append.1 hat
      obtain ⟨hxL, hxne⟩ := hwords x List.mem_cons_self
      obtain ⟨v, hv, rfl⟩ := (hr text p m hp).2 ⟨x, hxL, hx⟩
      have hvl := (r.ways_bounds hp hv).2
      have hlt : p < v.stop := hx.lt hxne
      obtain ⟨bound, rfl⟩ : ∃ n, bound = n + 1 := ⟨bound - 1, by omega⟩
      have hwords' : ∀ y ∈ words, y ∈ L ∧ y ≠ [] :=
        fun y hy => hwords y (List.mem_cons_of_mem x hy)
      obtain ⟨u, hu, rfl⟩ := ih hvl (show text.length - v.stop ≤ bound by omega) hwords'
        (Language.join_mem_kstar fun y hy => (hwords' y hy).1) hrest
      exact ⟨v.andThen u, mem_iterations_succ.2 (.inr ⟨v, hv, hlt, u, hu, rfl⟩), rfl⟩

lemma mem_ways_plus {greedy : Bool} {text : List Char} {p : Nat} {w : Way} :
    w ∈ (Node.plus greedy r).ways text p ↔
      ∃ v ∈ r.ways text p, ∃ u ∈ (if p < v.stop then
        iterations greedy (r.ways text) (text.length - v.stop) v.stop
        else [.stay v.stop]), v.andThen u = w := by
  simp only [Node.ways, List.mem_flatMap, List.mem_map]

/-- A first word that is not empty is a first iteration that lets the loop go on. -/
lemma exists_ways_plus (greedy : Bool) (hr : r.Reads L) {text : List Char} {p m q : Nat}
    (hp : p ≤ text.length) {x y : List Char} (hx : x ∈ L) (hxat : WordAt text p m x) (hlt : p < m)
    (hy : y ∈ L∗) (hyat : WordAt text m q y) :
    ∃ w ∈ (Node.plus greedy r).ways text p, w.stop = q := by
  obtain ⟨v, hv, rfl⟩ := (hr text p m hp).2 ⟨x, hx, hxat⟩
  obtain ⟨u, hu, rfl⟩ := (reads_iterations greedy hr (r.ways_bounds hp hv).2 (Nat.le_refl _)).2
    ⟨y, hy, hyat⟩
  refine ⟨v.andThen u, mem_ways_plus.2 ⟨v, hv, u, ?_, rfl⟩, rfl⟩
  rwa [if_pos hlt]

lemma reads_plus (greedy : Bool) (hr : r.Reads L) : (Node.plus greedy r).Reads (L * L∗) := by
  intro text p q hp
  constructor
  · rintro ⟨_, hw, rfl⟩
    obtain ⟨v, hv, u, hu, rfl⟩ := mem_ways_plus.1 hw
    have hvl := (r.ways_bounds hp hv).2
    obtain ⟨x, hx, hword⟩ := (hr text p v.stop hp).1 ⟨v, hv, rfl⟩
    obtain ⟨y, hy, hword'⟩ : ∃ y ∈ L∗, WordAt text v.stop u.stop y := by
      split at hu
      · exact (reads_iterations greedy hr hvl (Nat.le_refl _)).1 ⟨u, hu, rfl⟩
      · obtain rfl := List.mem_singleton.1 hu
        exact ⟨[], Language.nil_mem_kstar L, wordAt_nil.2 rfl⟩
    exact ⟨x ++ y, Language.mem_mul.2 ⟨x, hx, y, hy, rfl⟩,
      wordAt_append.2 ⟨v.stop, hword, hword'⟩⟩
  · rintro ⟨_, hword, hat⟩
    obtain ⟨x, hx, y, hy, rfl⟩ := Language.mem_mul.1 hword
    obtain ⟨m, hxat, hyat⟩ := wordAt_append.1 hat
    rcases Nat.eq_or_lt_of_le hxat.le with rfl | hlt
    · -- The first word is empty: the loop begins with the first of the others, if there is one.
      obtain ⟨words, rfl, hwords⟩ := Language.mem_kstar_iff_exists_nonempty.1 hy
      cases words with
      | nil =>
        obtain rfl := wordAt_nil.1 hyat
        obtain ⟨v, hv, hstop⟩ := (hr text q q hp).2 ⟨x, hx, hxat⟩
        refine ⟨v, mem_ways_plus.2 ⟨v, hv, .stay v.stop, ?_, Way.andThen_stay v⟩, hstop⟩
        rw [if_neg (Nat.not_lt.2 (Nat.le_of_eq hstop))]
        exact List.mem_singleton_self _
      | cons z words =>
        rw [List.flatten_cons] at hyat
        obtain ⟨m, hzat, hrest⟩ := wordAt_append.1 hyat
        obtain ⟨hzL, hzne⟩ := hwords z List.mem_cons_self
        have hlt : p < m := hzat.lt hzne
        exact exists_ways_plus greedy hr hp hzL hzat hlt (Language.join_mem_kstar fun y hy =>
          (hwords y (List.mem_cons_of_mem z hy)).1) hrest
    · exact exists_ways_plus greedy hr hp hx hxat hlt hy hyat

/-- One or more characters of a class. -/
lemma reads_plus_one (greedy : Bool) (set : CharClass) :
    (Node.plus greedy (.leaf (.one set))).Reads
      {word | word ≠ [] ∧ ∀ c ∈ word, set.has c.toNat = true} := by
  have star (word : List Char) :
      word ∈ set.words∗ ↔ ∀ c ∈ word, set.has c.toNat = true := by
    constructor
    · intro hword
      obtain ⟨words, rfl, hwords⟩ := Language.mem_kstar.1 hword
      intro c hc
      obtain ⟨u, hu, hcu⟩ := List.mem_flatten.1 hc
      obtain ⟨d, hd, rfl⟩ := hwords u hu
      obtain rfl := List.mem_singleton.1 hcu
      exact hd
    · intro hword
      refine Language.mem_kstar.2 ⟨word.map fun c => [c], ?_, fun u hu => ?_⟩
      · rw [← List.flatMap_def, List.flatMap_singleton']
      · obtain ⟨c, hc, rfl⟩ := List.mem_map.1 hu
        exact ⟨c, hword c hc, rfl⟩
  have lang : set.words * set.words∗ =
      {word | word ≠ [] ∧ ∀ c ∈ word, set.has c.toNat = true} := by
    ext word
    rw [Language.mem_mul]
    constructor
    · rintro ⟨_, ⟨c, hc, rfl⟩, rest, hrest, rfl⟩
      refine ⟨List.cons_ne_nil _ _, fun d hd => ?_⟩
      rcases List.mem_cons.1 hd with rfl | hd
      · exact hc
      · exact (star rest).1 hrest d hd
    · rintro ⟨hne, hword⟩
      cases word with
      | nil => exact absurd rfl hne
      | cons c rest =>
        exact ⟨[c], ⟨c, hword c List.mem_cons_self, rfl⟩, rest,
          (star rest).2 fun d hd => hword d (List.mem_cons_of_mem c hd), rfl⟩
  rw [← lang]
  exact reads_plus greedy (reads_one set)

/-! ## Anchored expressions -/

/-- Between anchors, an expression matches a text exactly when the text is one of its words. -/
theorem isSome_search_anchoredSequence {parts : List (Node Leaf)}
    (h : (Node.sequence parts).Reads L) (text : List Char) :
    ((anchoredSequence parts).search text).isSome = true ↔ text ∈ L := by
  rw [search_anchoredSequence, Option.isSome_map, List.find?_isSome]
  have ends := h text 0 text.length (Nat.zero_le _)
  simp only [decide_eq_true_eq]
  rw [ends]
  constructor
  · rintro ⟨word, hword, hprefix, hlen⟩
    rw [List.drop_zero] at hprefix
    rw [Nat.zero_add] at hlen
    rwa [← hprefix.eq_of_length hlen.symm]
  · intro htext
    exact ⟨text, htext, List.prefix_rfl, (Nat.zero_add _).symm⟩

end PullTriage.Regex
