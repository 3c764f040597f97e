import PullTriage.Glob.PathPattern
import PullTriage.Proofs.Glob.Tokens
import PullTriage.Proofs.Regex.Language

/-!
# What a glob matches

Each token of a glob stands for a language, `Token.pieces`, and a glob matches a path exactly when
the path, from the root, is one piece for each token, in order: `matches_iff_exists_pieces`.

The way there goes through the expression.  It is read back as the tree `node` of the tokens
(`Glob.compile_translate`), the search of an anchored expression decides its language
(`isSome_search_anchoredSequence`), and the language of a token's part of the tree is that of its
pieces (`reads_token`).  A literal character thus stands for itself, whatever it means in an
expression.

A piece of `*` may hold line feeds; the wildcards that cross slashes may not.
-/

namespace PullTriage

namespace Glob

open Regex

/-! ## Pieces -/

/-- A part of a segment: no slash, and not empty. -/
def segmentPieces : Language Char :=
  {piece | piece ≠ [] ∧ '/' ∉ piece}

/-- Anything on one line, but not empty. -/
def linePieces : Language Char :=
  {piece | piece ≠ [] ∧ '\n' ∉ piece}

/-- Directories with the slash after them, or nothing. -/
def directoriesPieces : Language Char :=
  {piece | piece = [] ∨ ∃ line ∈ linePieces, piece = line ++ ['/']}

/-- The pieces of a path that a token stands for. -/
def Token.pieces : Token → Language Char
  | literal c => {[c]}
  | segment => segmentPieces
  | directories => directoriesPieces
  | descend => directoriesPieces * segmentPieces
  | below => linePieces

lemma mem_prod_iff_exists_pieces (ts : List Token) (text : List Char) :
    text ∈ (ts.map Token.pieces).prod ↔
      ∃ pieces, List.Forall₂ (fun t piece => piece ∈ t.pieces) ts pieces ∧
        text = pieces.flatten := by
  induction ts generalizing text with
  | nil => simp [Language.mem_one]
  | cons t ts ih =>
    rw [List.map_cons, List.prod_cons, Language.mem_mul]
    constructor
    · rintro ⟨piece, hpiece, rest, hrest, rfl⟩
      obtain ⟨pieces, hpieces, rfl⟩ := (ih rest).1 hrest
      exact ⟨piece :: pieces, .cons hpiece hpieces, rfl⟩
    · rintro ⟨_, hpieces, rfl⟩
      cases hpieces with
      | @cons _ piece _ pieces hpiece hpieces =>
        exact ⟨piece, hpiece, pieces.flatten, (ih _).2 ⟨pieces, hpieces, rfl⟩, rfl⟩

/-! ## The tree of a token reads its pieces -/

lemma has_single (c d : Char) : (CharClass.single c).has d.toNat = decide (d = c) := by
  have key : (CharClass.single c).has d.toNat = decide (d.toNat = c.toNat) := by
    simp only [CharClass.single, CharClass.has, Unicode.CodeSet.has]
    grind
  rw [key, decide_eq_decide]
  exact Char.toNat_inj

lemma has_notSlash (d : Char) :
    (CharClass.compl (.union .empty (.single '/'))).has d.toNat = decide (d ≠ '/') := by
  simp only [CharClass.has, has_single, CharClass.empty, Unicode.CodeSet.has, Bool.false_or]
  grind

lemma has_notNewline (d : Char) : CharClass.notNewline.has d.toNat = decide (d ≠ '\n') := by
  simp only [CharClass.notNewline, CharClass.has, has_single]
  grind

lemma reads_single (c : Char) : (Node.leaf (.one (.single c))).Reads {[c]} := by
  have lang : (CharClass.single c).words = {[c]} := by
    ext word
    constructor
    · rintro ⟨d, hd, rfl⟩
      rw [has_single, decide_eq_true_eq] at hd
      rw [hd]
      rfl
    · intro hword
      exact ⟨c, by rw [has_single, decide_eq_true rfl], hword⟩
  rw [← lang]
  exact reads_one _

/-- A loop over the characters other than `c` reads the words without it. -/
lemma reads_plus_ne {set : CharClass} {c : Char}
    (hset : ∀ d : Char, set.has d.toNat = decide (d ≠ c)) :
    (Node.plus true (.leaf (.one set))).Reads {word | word ≠ [] ∧ c ∉ word} := by
  have lang : {word : List Char | word ≠ [] ∧ ∀ d ∈ word, set.has d.toNat = true} =
      {word | word ≠ [] ∧ c ∉ word} := by
    ext word
    refine and_congr_right fun _ => ⟨fun hall hc => ?_, fun hc d hd => ?_⟩
    · simpa [hset] using hall c hc
    · rw [hset, decide_eq_true_eq]
      rintro rfl
      exact hc hd
  rw [← lang]
  exact reads_plus_one true set

lemma reads_segmentNode : segmentNode.Reads segmentPieces :=
  reads_plus_ne has_notSlash

lemma reads_lineNode : lineNode.Reads linePieces :=
  reads_plus_ne has_notNewline

lemma reads_option_directoriesNode (i : Nat) :
    (Node.option true (.group i directoriesNode)).Reads directoriesPieces := by
  have lang : linePieces * {['/']} + 1 = directoriesPieces := by
    ext piece
    rw [Language.mem_add, Language.mem_mul, Language.mem_one]
    constructor
    · rintro (⟨line, hline, _, rfl, rfl⟩ | rfl)
      · exact .inr ⟨line, hline, rfl⟩
      · exact .inl rfl
    · rintro (rfl | ⟨line, hline, rfl⟩)
      · exact .inr rfl
      · exact .inl ⟨line, hline, ['/'], rfl, rfl⟩
  rw [← lang]
  exact reads_option (reads_group i (reads_cat reads_lineNode (reads_single '/')))

lemma reads_token (n : Nat) (t : Token) : (Node.sequence (t.nodes n)).Reads t.pieces := by
  cases t with
  | literal c => exact reads_single c
  | segment => exact reads_group _ reads_segmentNode
  | directories => exact reads_option_directoriesNode _
  | descend => exact reads_cat (reads_option_directoriesNode _) (reads_group _ reads_segmentNode)
  | below => exact reads_group _ reads_lineNode

lemma reads_nodes (n : Nat) (ts : List Token) :
    (Node.sequence (nodes n ts)).Reads (ts.map Token.pieces).prod := by
  induction ts generalizing n with
  | nil => exact reads_empty
  | cons t ts ih =>
    rw [List.map_cons, List.prod_cons]
    exact reads_sequence_append (reads_token n t) (ih _)

/-- The expression of some tokens matches a text exactly when the text is made of their pieces. -/
theorem isSome_search_node (ts : List Token) (text : List Char) :
    ((node ts).search text).isSome = true ↔
      ∃ pieces, List.Forall₂ (fun t piece => piece ∈ t.pieces) ts pieces ∧
        text = pieces.flatten := by
  rw [← mem_prod_iff_exists_pieces]
  exact isSome_search_anchoredSequence (reads_nodes 0 ts) text

end Glob

namespace PathPattern

open Glob

/-! ## Patterns -/

lemma regex_compile (glob : String) :
    (compile glob).regex = ⟨translate glob, node (tokens (rooted glob.toList))⟩ := by
  simp [compile, compile_translate]

lemma search_compile (glob path : String) :
    (compile glob).search path =
      ((node (tokens (rooted glob.toList))).search (rooted path.toList)).map
        fun found => ⟨rooted path.toList, found.1, found.2.1, found.2.2⟩ := by
  rw [search, regex_compile, Regex.search, String.toList_ofList]

/-- A glob can be read in one way only, and it matches a path exactly when the path, from the root,
is a concatenation of pieces, one for each token of the glob in order. -/
theorem matches_iff_exists_pieces (glob path : String) :
    (∃! ts, Tokenizes (rooted glob.toList) ts) ∧
      ((compile glob).matches? path = true ↔
        ∃ ts pieces, Tokenizes (rooted glob.toList) ts ∧
          List.Forall₂ (fun t piece => piece ∈ Token.pieces t) ts pieces ∧
          rooted path.toList = pieces.flatten) := by
  refine ⟨⟨tokens (rooted glob.toList), tokenizes_iff.2 rfl, fun ts h => tokenizes_iff.1 h⟩, ?_⟩
  rw [matches?, search_compile, Option.isSome_map, isSome_search_node]
  constructor
  · rintro ⟨pieces, hpieces, hpath⟩
    exact ⟨_, pieces, tokenizes_iff.2 rfl, hpieces, hpath⟩
  · rintro ⟨ts, pieces, hts, hpieces, hpath⟩
    obtain rfl := tokenizes_iff.1 hts
    exact ⟨pieces, hpieces, hpath⟩

end PathPattern

end PullTriage
