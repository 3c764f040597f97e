import PullTriage.Proofs.Text.Split

/-!
# The lines of a text

`HasLines` says which lines a text has.  The end of a line is a line feed, or a carriage return and a
line feed, and it belongs to no line; behind the last end there is no line if there is nothing.
Every text has one list of lines: `hasLines_iff`.

`Text.lines` only cuts at the line feeds.  Its pieces are the lines, but for the carriage returns and
for an empty piece behind the last end, and to a reader that trims what it reads neither of them
makes a difference.
-/

namespace PullTriage.Text

open Unicode

/-! ## Lines -/

/-- The lines of a text.  A carriage return belongs to the end of a line only if a line feed follows
it, and the last line may have no end. -/
inductive HasLines : List Char → List (List Char) → Prop where
  | nil : HasLines [] []
  | unended {line : List Char} : line ≠ [] → '\n' ∉ line → HasLines line [line]
  | lineFeed {line rest : List Char} {lines : List (List Char)} :
    '\n' ∉ line → (∀ front, line ≠ front ++ ['\r']) → HasLines rest lines →
      HasLines (line ++ '\n' :: rest) (line :: lines)
  | carriageReturn {line rest : List Char} {lines : List (List Char)} :
    '\n' ∉ line → HasLines rest lines → HasLines (line ++ '\r' :: '\n' :: rest) (line :: lines)

/-- The text without a carriage return at its end. -/
def dropReturn (piece : List Char) : List Char :=
  if piece.getLast? = some '\r' then piece.dropLast else piece

/-- The lines that the pieces between line feeds make. -/
def linesOfPieces : List (List Char) → List (List Char)
  | [] => []
  | [last] => if last = [] then [] else [last]
  | piece :: next :: pieces => dropReturn piece :: linesOfPieces (next :: pieces)

lemma lines_of_free {line : List Char} (h : '\n' ∉ line) : lines line = [line] := by
  refine splitOn_eq_iff.2 ⟨List.cons_ne_nil _ _, ?_, ?_⟩
  · simpa using h
  · simp

lemma lines_append_cons {line : List Char} (h : '\n' ∉ line) (rest : List Char) :
    lines (line ++ '\n' :: rest) = line :: lines rest := by
  have free : ∀ c ∈ line, (c == '\n') = false := by
    intro c hc
    rw [beq_eq_false_iff_ne]
    rintro rfl
    exact h hc
  rw [lines, lines, List.splitOn_eq_splitOnP, List.splitOn_eq_splitOnP]
  exact List.splitOnP_append_cons_of_forall_mem free '\n' (by simp) rest

/-- A carriage return in front of the line feed stays with the piece. -/
lemma lines_append_return_cons {line : List Char} (h : '\n' ∉ line) (rest : List Char) :
    lines (line ++ '\r' :: '\n' :: rest) = (line ++ ['\r']) :: lines rest := by
  have free : '\n' ∉ line ++ ['\r'] := by simp [h]
  have shape : line ++ '\r' :: '\n' :: rest = (line ++ ['\r']) ++ '\n' :: rest := by simp
  rw [shape, lines_append_cons free]

lemma linesOfPieces_cons (piece rest : List Char) :
    linesOfPieces (piece :: lines rest) = dropReturn piece :: linesOfPieces (lines rest) := by
  obtain ⟨next, pieces, hpieces⟩ := List.exists_cons_of_ne_nil (List.splitOn_ne_nil '\n' rest)
  rw [lines, hpieces]
  rfl

lemma dropReturn_append (line : List Char) : dropReturn (line ++ ['\r']) = line := by
  simp [dropReturn]

lemma dropReturn_eq_self {line : List Char} (h : ∀ front, line ≠ front ++ ['\r']) :
    dropReturn line = line := by
  refine if_neg fun hlast => ?_
  obtain ⟨front, hfront⟩ := List.getLast?_eq_some_iff.1 hlast
  exact h front hfront

lemma HasLines.eq_linesOfPieces {text : List Char} {found : List (List Char)}
    (h : HasLines text found) : found = linesOfPieces (lines text) := by
  induction h with
  | nil => rfl
  | unended hne hfree =>
    rw [lines_of_free hfree, linesOfPieces, if_neg hne]
  | lineFeed hfree hend _ ih =>
    rw [lines_append_cons hfree, linesOfPieces_cons, dropReturn_eq_self hend, ← ih]
  | carriageReturn hfree _ ih =>
    rw [lines_append_return_cons hfree, linesOfPieces_cons, dropReturn_append, ← ih]

lemma hasLines_of_splitsAt {text : List Char} {pieces : List (List Char)}
    (h : SplitsAt '\n' text pieces) : HasLines text (linesOfPieces pieces) := by
  obtain ⟨hne, hfree, rfl⟩ := h
  induction pieces with
  | nil => exact absurd rfl hne
  | cons piece pieces ih =>
    obtain ⟨hpiece, hpieces⟩ := List.forall_mem_cons.1 hfree
    cases pieces with
    | nil =>
      by_cases hempty : piece = []
      · subst hempty
        exact .nil
      · rw [linesOfPieces, if_neg hempty]
        simpa using HasLines.unended hempty hpiece
    | cons next pieces =>
      have rest := ih (List.cons_ne_nil _ _) hpieces
      rw [List.intercalate_cons_cons, linesOfPieces]
      by_cases hreturn : ∃ front, piece = front ++ ['\r']
      · obtain ⟨front, rfl⟩ := hreturn
        have hfront : '\n' ∉ front := fun hmem => hpiece (List.mem_append_left _ hmem)
        rw [dropReturn_append]
        simpa using HasLines.carriageReturn hfront rest
      · have hend : ∀ front, piece ≠ front ++ ['\r'] := fun front heq => hreturn ⟨front, heq⟩
        rw [dropReturn_eq_self hend]
        simpa using HasLines.lineFeed hpiece hend rest

/-- A text has one list of lines. -/
theorem hasLines_iff {text : List Char} {found : List (List Char)} :
    HasLines text found ↔ found = linesOfPieces (lines text) := by
  constructor
  · exact HasLines.eq_linesOfPieces
  · rintro rfl
    exact hasLines_of_splitsAt (splitOn_eq_iff.1 rfl)

/-! ## Trimming at the end of a line -/

/-- White space at the end of a text does not count when it is trimmed. -/
lemma trim_append_blank {c : Char} (h : isBlank c = true) (text : List Char) :
    trim (text ++ [c]) = trim text := by
  obtain ⟨⟨before, after, htext, hbefore, hafter⟩, hfirst, hlast⟩ := trimsTo_trim text
  refine trim_eq_iff.2 ⟨⟨before, after ++ [c], ?_, hbefore, ?_⟩, hfirst, hlast⟩
  · rw [← List.append_assoc, ← htext]
  · intro d hd
    rcases List.mem_append.1 hd with hd | hd
    · exact hafter d hd
    · rw [List.mem_singleton.1 hd]
      exact h

end PullTriage.Text
