import PullTriage.Proofs.Glob.Groups
import PullTriage.Proofs.Glob.Pieces
import Mathlib.Data.List.Infix

/-!
# The divisions of a path

A path can often be divided among the wildcards of a glob in more than one way.  `Divides` says what
such a division is: a text for each group, so that the glob with the texts in the places of its
wildcards is the path.  Of all divisions the greedy one has the longest text in the first group, of
those that are left the longest in the second group, and so on (`IsGreedy`).

The divisions can be listed so that this order is kept (`divisions`, `pairwise_divisions`), and the
greedy one is then the first in the list (`greedy?_eq_some_iff`).
-/

namespace PullTriage.Glob

/-! ## Divisions -/

/-- What a group of a glob stands for. -/
inductive Slot where
  /-- A part of a segment. -/
  | segment
  /-- Directories with the slash after them, or nothing. -/
  | directories
  /-- Anything on one line. -/
  | line

/-- The texts that a group can stand for. -/
def Slot.pieces : Slot → Language Char
  | segment => segmentPieces
  | directories => directoriesPieces
  | line => linePieces

/-- A glob is literal characters and slots for the groups. -/
inductive Part where
  | literal (c : Char)
  | slot (slot : Slot)

/-- The parts of a token: a slot for each of its groups. -/
def Token.parts : Token → List Part
  | literal c => [.literal c]
  | segment => [.slot .segment]
  | directories => [.slot .directories]
  | descend => [.slot .directories, .slot .segment]
  | below => [.slot .line]

/-- The parts of some tokens. -/
def parts (ts : List Token) : List Part :=
  ts.flatMap Token.parts

/-- The slots among some parts. -/
def slots : List Part → List Slot
  | [] => []
  | .literal _ :: rest => slots rest
  | .slot slot :: rest => slot :: slots rest

/-- The text that the parts write with these texts in the slots. -/
def write : List Part → List (List Char) → List Char
  | [], _ => []
  | .literal c :: rest, groups => c :: write rest groups
  | .slot _ :: rest, groups => groups.headD [] ++ write rest groups.tail

/-- The texts are what the groups can stand for, one for each group in order, and with them in the
places of the wildcards the glob is the text. -/
structure Divides (ts : List Token) (text : List Char) (groups : List (List Char)) : Prop where
  pieces : List.Forall₂ (fun slot group => group ∈ slot.pieces) (slots (parts ts)) groups
  written : write (parts ts) groups = text

/-- Each group of the tokens has a slot. -/
lemma length_slots (ts : List Token) : (slots (parts ts)).length = groupTotal ts := by
  have append (ps qs : List Part) : slots (ps ++ qs) = slots ps ++ slots qs := by
    induction ps with
    | nil => rfl
    | cons part rest ih =>
      cases part with
      | literal c => exact ih
      | slot slot => exact congrArg (slot :: ·) ih
  induction ts with
  | nil => rfl
  | cons t ts ih =>
    have one : (slots t.parts).length = t.groupCount := by
      cases t with
      | literal c => rfl
      | segment => rfl
      | directories => rfl
      | descend => rfl
      | below => rfl
    rw [parts, List.flatMap_cons, append, List.length_append, one, groupTotal, ← ih, parts]

/-! ## The beginnings of a text, the longest first -/

/-- The beginnings of a text that do not hold the character. -/
def beginnings (c : Char) (text : List Char) : List (List Char) :=
  text.inits.reverse.filter fun group => c ∉ group

/-- The beginnings but the empty one. -/
def runs (c : Char) (text : List Char) : List (List Char) :=
  (beginnings c text).filter fun group => group ≠ []

/-- The beginnings of a text that a slot can stand for. -/
def Slot.heads : Slot → List Char → List (List Char)
  | segment, text => runs '/' text
  | directories, text => (runs '\n' text).filterMap (fun line =>
      if line ++ ['/'] <+: text then some (line ++ ['/']) else none) ++ [[]]
  | line, text => runs '\n' text

lemma mem_runs_iff {c : Char} {text group : List Char} :
    group ∈ runs c text ↔ (group ≠ [] ∧ c ∉ group) ∧ group <+: text := by
  simp only [runs, beginnings, List.mem_filter, List.mem_reverse, List.mem_inits,
    decide_eq_true_eq]
  tauto

lemma mem_heads_iff {slot : Slot} {text group : List Char} :
    group ∈ slot.heads text ↔ group ∈ slot.pieces ∧ group <+: text := by
  cases slot with
  | segment => exact mem_runs_iff
  | line => exact mem_runs_iff
  | directories =>
    simp only [Slot.heads, List.mem_append, List.mem_filterMap, List.mem_singleton, mem_runs_iff,
      Option.ite_none_right_eq_some, Option.some.injEq]
    constructor
    · rintro (⟨line, ⟨hline, -⟩, hprefix, rfl⟩ | rfl)
      · exact ⟨.inr ⟨line, hline, rfl⟩, hprefix⟩
      · exact ⟨.inl rfl, List.nil_prefix⟩
    · rintro ⟨rfl | ⟨line, hline, rfl⟩, hprefix⟩
      · exact .inr rfl
      · exact .inl ⟨line, ⟨hline, (List.prefix_append line ['/']).trans hprefix⟩, hprefix, rfl⟩

lemma pairwise_inits (text : List Char) :
    text.inits.Pairwise fun group longer => group.length < longer.length := by
  induction text with
  | nil => simp
  | cons c text ih =>
    rw [List.inits_cons, List.pairwise_cons, List.pairwise_map]
    refine ⟨fun group hgroup => ?_, ih.imp fun h => Nat.succ_lt_succ h⟩
    obtain ⟨tail, -, rfl⟩ := List.mem_map.1 hgroup
    exact Nat.succ_pos _

lemma pairwise_runs (c : Char) (text : List Char) :
    (runs c text).Pairwise fun group shorter => shorter.length < group.length :=
  ((List.pairwise_reverse.2 (pairwise_inits text)).filter _).filter _

/-- The longer beginning comes first. -/
lemma pairwise_heads (slot : Slot) (text : List Char) :
    (slot.heads text).Pairwise fun group shorter => shorter.length < group.length := by
  cases slot with
  | segment => exact pairwise_runs '/' text
  | line => exact pairwise_runs '\n' text
  | directories =>
    rw [Slot.heads, List.pairwise_append, List.pairwise_filterMap]
    refine ⟨(pairwise_runs '\n' text).imp fun {line shorter} hlt group hgroup other hother => ?_,
      List.pairwise_singleton _ _, fun group hgroup other hother => ?_⟩
    · obtain ⟨-, hgroup⟩ := Option.ite_none_right_eq_some.1 hgroup
      obtain ⟨-, hother⟩ := Option.ite_none_right_eq_some.1 hother
      cases hgroup
      cases hother
      rw [List.length_append, List.length_append]
      exact Nat.add_lt_add_right hlt _
    · obtain ⟨line, -, hline⟩ := List.mem_filterMap.1 hgroup
      obtain ⟨-, hline⟩ := Option.ite_none_right_eq_some.1 hline
      cases hline
      cases List.mem_singleton.1 hother
      simp

/-! ## The divisions of the beginnings of a text -/

/-- The texts for the slots with which the parts write a beginning of the text, those with the
longer texts in front first. -/
def divisions : List Part → List Char → List (List (List Char))
  | [], _ => [[]]
  | .literal _ :: _, [] => []
  | .literal c :: rest, d :: text => if d = c then divisions rest text else []
  | .slot slot :: rest, text => (slot.heads text).flatMap fun group =>
      (divisions rest (text.drop group.length)).map (group :: ·)

lemma mem_divisions_iff {ps : List Part} {text : List Char} {groups : List (List Char)} :
    groups ∈ divisions ps text ↔
      List.Forall₂ (fun slot group => group ∈ slot.pieces) (slots ps) groups ∧
        write ps groups <+: text := by
  induction ps generalizing text groups with
  | nil =>
    rw [divisions, slots, write, List.mem_singleton, List.forall₂_nil_left_iff]
    simp
  | cons part rest ih =>
    cases part with
    | literal c =>
      cases text with
      | nil => simp [divisions, write]
      | cons d text =>
        rw [divisions, slots, write, List.cons_prefix_cons]
        by_cases hc : d = c
        · rw [if_pos hc, ih]
          simp [hc]
        · rw [if_neg hc]
          simp [Ne.symm hc]
    | slot slot =>
      simp only [divisions, slots, List.mem_flatMap, List.mem_map, List.forall₂_cons_left_iff,
        mem_heads_iff, ih]
      constructor
      · rintro ⟨group, ⟨hgroup, tail, rfl⟩, groups, ⟨hgroups, hwrite⟩, rfl⟩
        rw [List.drop_left] at hwrite
        exact ⟨⟨group, groups, hgroup, hgroups, rfl⟩, (List.prefix_append_right_inj group).2 hwrite⟩
      · rintro ⟨⟨group, groups, hgroup, hgroups, rfl⟩, hwrite⟩
        obtain ⟨tail, rfl⟩ := (List.prefix_append group (write rest groups)).trans hwrite
        refine ⟨group, ⟨hgroup, List.prefix_append group tail⟩, groups, ⟨hgroups, ?_⟩, rfl⟩
        rw [List.drop_left]
        exact (List.prefix_append_right_inj group).1 hwrite

/-- Of two divisions the one whose lengths are greater in the lexicographic order comes first. -/
lemma pairwise_divisions (ps : List Part) (text : List Char) :
    (divisions ps text).Pairwise fun groups later =>
      later.map List.length < groups.map List.length := by
  induction ps generalizing text with
  | nil => exact List.pairwise_singleton _ _
  | cons part rest ih =>
    cases part with
    | literal c =>
      cases text with
      | nil => exact .nil
      | cons d text =>
        rw [divisions]
        split
        · exact ih _
        · exact .nil
    | slot slot =>
      rw [divisions, List.pairwise_flatMap]
      refine ⟨fun group _ => ?_,
        (pairwise_heads slot text).imp fun hlt first hfirst later hlater => ?_⟩
      · rw [List.pairwise_map]
        exact (ih _).imp fun hlt => List.cons_lt_cons_iff.2 (.inr ⟨rfl, hlt⟩)
      · obtain ⟨groups, -, rfl⟩ := List.mem_map.1 hfirst
        obtain ⟨others, -, rfl⟩ := List.mem_map.1 hlater
        exact List.cons_lt_cons_iff.2 (.inl hlt)

/-! ## The greedy division -/

/-- Of all divisions of the text this is the one whose lengths are the greatest, when they are
compared in the order of the groups. -/
structure IsGreedy (ts : List Token) (text : List Char) (groups : List (List Char)) : Prop where
  divides : Divides ts text groups
  greatest : ∀ other, Divides ts text other → other ≠ groups →
    other.map List.length < groups.map List.length

/-- The first division of all of the text. -/
def greedy? (ts : List Token) (text : List Char) : Option (List (List Char)) :=
  (divisions (parts ts) text).find? fun groups => write (parts ts) groups = text

variable {ts : List Token} {text : List Char} {groups : List (List Char)}

lemma divides_iff : Divides ts text groups ↔
    groups ∈ divisions (parts ts) text ∧ write (parts ts) groups = text := by
  rw [mem_divisions_iff]
  constructor
  · rintro ⟨hpieces, hwritten⟩
    exact ⟨⟨hpieces, hwritten ▸ List.prefix_rfl⟩, hwritten⟩
  · rintro ⟨⟨hpieces, -⟩, hwritten⟩
    exact ⟨hpieces, hwritten⟩

lemma isGreedy_of_greedy? (h : greedy? ts text = some groups) : IsGreedy ts text groups := by
  obtain ⟨hwritten, before, after, hall, hbefore⟩ := List.find?_eq_some_iff_append.1 h
  have written : write (parts ts) groups = text := of_decide_eq_true hwritten
  refine ⟨divides_iff.2 ⟨hall ▸ by simp, written⟩, fun other hother hne => ?_⟩
  obtain ⟨hmem, hwritten'⟩ := divides_iff.1 hother
  have order := pairwise_divisions (parts ts) text
  rw [hall] at hmem order
  -- No division of all of the text comes before the first one, so the other one comes behind it.
  rcases List.mem_append.1 hmem with hmem | hmem
  · have stops := hbefore other hmem
    simp [hwritten'] at stops
  · have behind := (List.mem_cons.1 hmem).resolve_left hne
    exact List.rel_of_pairwise_cons (List.pairwise_append.1 order).2.1 behind

lemma Divides.exists_greedy? (h : Divides ts text groups) :
    ∃ first, greedy? ts text = some first := by
  obtain ⟨hmem, hwritten⟩ := divides_iff.1 h
  have found : (greedy? ts text).isSome = true :=
    List.find?_isSome.2 ⟨groups, hmem, decide_eq_true hwritten⟩
  exact Option.isSome_iff_exists.1 found

lemma greedy?_eq_some_iff : greedy? ts text = some groups ↔ IsGreedy ts text groups := by
  refine ⟨isGreedy_of_greedy?, fun h => ?_⟩
  obtain ⟨first, hfirst⟩ := h.divides.exists_greedy?
  have greedy := isGreedy_of_greedy? hfirst
  by_cases heq : groups = first
  · rw [heq, hfirst]
  · have after := greedy.greatest groups h.divides heq
    have before := h.greatest first greedy.divides (Ne.symm heq)
    exact absurd before (List.lt_asymm after)

end PullTriage.Glob
