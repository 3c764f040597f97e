import PullTriage.Glob

/-!
# The expression of a glob is one

The text that `anchored` writes is read back as `node`, the tree that the tokens stand for: no
literal character can change how the text around it is read.  The main statement is
`ofPattern?_anchored`, with `compile_translate` for globs; so compiling a glob never fails.
-/

namespace PullTriage

namespace Glob

open Regex

/-! ## The tree of a list of tokens -/

/-- Characters other than the slash, one or more. -/
def segmentNode : Node Leaf :=
  .plus true (.leaf (.one (.compl (.union .empty (.single '/')))))

/-- Characters other than the line feed, one or more. -/
def lineNode : Node Leaf :=
  .plus true (.leaf (.one .notNewline))

/-- Characters other than the line feed, one or more, and a slash. -/
def directoriesNode : Node Leaf :=
  .cat lineNode (.leaf (.one (.single '/')))

/-- The parts of a token's expression, where `n` groups come before. -/
def Token.nodes (n : Nat) : Token → List (Node Leaf)
  | literal c => [.leaf (.one (.single c))]
  | segment => [.group (n + 1) segmentNode]
  | directories => [.option true (.group (n + 1) directoriesNode)]
  | descend => [.option true (.group (n + 1) directoriesNode), .group (n + 2) segmentNode]
  | below => [.group (n + 1) lineNode]

/-- The parts of the expression of a list of tokens, where `n` groups come before. -/
def nodes (n : Nat) : List Token → List (Node Leaf)
  | [] => []
  | t :: rest => t.nodes n ++ nodes (n + t.groupCount) rest

/-- The expression of a list of tokens, from the start of the text to its end. -/
def node (tokens : List Token) : Node Leaf :=
  Node.sequence (.leaf (.look .textStart) :: nodes 0 tokens ++ [.leaf (.look .textEnd)])

/-! ## Reading -/

/-- The state of the reader after some parts, with `n` groups in them. -/
def readingAfter (n : Nat) (parts : List (Node Leaf)) : Reading :=
  { groups := n, items := (parts.map some).reverse }

theorem step?_literal (n : Nat) (parts : List (Node Leaf)) (c : Char) (rest : List Char)
    (h : isMeta c = false) :
    (readingAfter n parts).step? c rest =
      some (readingAfter n (parts ++ [.leaf (.one (.single c))]), rest) := by
  have plain : (readingAfter n parts).step? c rest =
      ((readingAfter n parts).flags.primitiveNode? (.literal c false)).map
        fun node => ((readingAfter n parts).push node, rest) := by
    unfold Reading.step?
    split <;> simp_all [isMeta]
  rw [plain]
  simp [readingAfter, Flags.primitiveNode?, Reading.push, CharClass.foldIf]

theorem run_literal (n fuel : Nat) (parts : List (Node Leaf)) (c : Char) (rest : List Char) :
    Reading.run (fuel + 1) (readingAfter n parts) (escapeChar c ++ rest) =
      Reading.run fuel (readingAfter n (parts ++ [.leaf (.one (.single c))])) rest := by
  by_cases h : isMeta c = true
  · simp [escapeChar, Reading.run, readingAfter, Flags.skip, Reading.step?, Flags.readEscape, h,
      Flags.primitiveNode?, Reading.push, CharClass.foldIf]
  · have skip : (readingAfter n parts).flags.skip (c :: rest) = c :: rest := rfl
    simp only [escapeChar, h, if_false, List.singleton_append, Reading.run, skip,
      step?_literal n parts c rest (by simpa using h), Bool.false_eq_true]

theorem quantify?_of_head?_ne (st : Reading) (lo : Nat) (hi : Option Nat) (cs : List Char)
    (h : cs.head? ≠ some '?') :
    st.quantify? lo hi cs = (st.repeatLast? false lo hi).map fun st => (st, cs) := by
  unfold Reading.quantify?
  split <;> simp_all

theorem run_segment (n fuel : Nat) (parts : List (Node Leaf)) (rest : List Char) :
    Reading.run (fuel + 4) (readingAfter n parts) (Token.segment.expression ++ rest) =
      Reading.run fuel (readingAfter (n + 1) (parts ++ [.group (n + 1) segmentNode])) rest := by
  simp [Token.expression, Reading.run, Flags.skip, readingAfter, Reading.step?, Reading.enter?,
    Reading.enter, Flags.openSet, Flags.leadingHyphens, Flags.readSet, Flags.readRange,
    Flags.readItem, Flags.itemClass?, OpenSet.add, OpenSet.close, OpenSet.value,
    Flags.classNode?, CharClass.foldIf, CharClass.negateIf, Reading.push,
    Reading.quantify?, Reading.repeatLast?, Reading.leave?, Reading.expression,
    Node.repeated, Node.exactlyThen, Node.choice, Node.sequence, Reading.branch, segmentNode]

theorem run_below (n fuel : Nat) (parts : List (Node Leaf)) (rest : List Char) :
    Reading.run (fuel + 4) (readingAfter n parts) (Token.below.expression ++ rest) =
      Reading.run fuel (readingAfter (n + 1) (parts ++ [.group (n + 1) lineNode])) rest := by
  simp [Token.expression, Reading.run, Flags.skip, readingAfter, Reading.step?, Reading.enter?,
    Reading.enter, Flags.dotNode?, Reading.push, Reading.quantify?, Reading.repeatLast?,
    Reading.leave?, Reading.expression, Node.repeated, Node.exactlyThen, Node.choice,
    Node.sequence, Reading.branch, lineNode]

theorem run_directories (n fuel : Nat) (parts : List (Node Leaf)) (rest : List Char)
    (h : rest.head? ≠ some '?') :
    Reading.run (fuel + 6) (readingAfter n parts) (Token.directories.expression ++ rest) =
      Reading.run fuel
        (readingAfter (n + 1) (parts ++ [.option true (.group (n + 1) directoriesNode)])) rest := by
  simp [Token.expression, Reading.run, Flags.skip, readingAfter, Reading.step?, Reading.enter?,
    Reading.enter, Flags.dotNode?, Reading.push, quantify?_of_head?_ne _ _ _ rest h,
    quantify?_of_head?_ne _ _ _ ('/' :: ')' :: '?' :: rest) (by simp), Reading.repeatLast?, Reading.leave?, Reading.expression,
    Node.repeated, Node.exactlyThen, Node.choice, Node.sequence, Reading.branch, lineNode,
    directoriesNode, Flags.primitiveNode?, CharClass.foldIf, Node.atMost]

theorem length_expression_pos (t : Token) : 0 < t.expression.length := by
  cases t with
  | literal c => by_cases h : isMeta c = true <;> simp [Token.expression, escapeChar, h]
  | segment | directories | descend | below => simp [Token.expression]

/-- No token begins with a question mark, which would change how the token before it is read. -/
theorem head?_flatMap_expression_ne (tokens : List Token) :
    (tokens.flatMap Token.expression ++ ['$']).head? ≠ some '?' := by
  cases tokens with
  | nil => simp
  | cons t rest =>
    cases t with
    | literal c =>
      by_cases h : isMeta c = true
      · simp [Token.expression, escapeChar, h]
      · have : c ≠ '?' := fun hc => by simp [hc, isMeta] at h
        simp [Token.expression, escapeChar, h, this]
    | segment | directories | descend | below => simp [Token.expression]

theorem run_tokens (tokens : List Token) (n fuel : Nat) (parts : List (Node Leaf)) :
    Reading.run ((tokens.flatMap Token.expression).length + 2 + fuel) (readingAfter n parts)
        (tokens.flatMap Token.expression ++ ['$']) =
      some (Node.sequence (parts ++ nodes n tokens ++ [.leaf (.look .textEnd)])) := by
  induction tokens generalizing n fuel parts with
  | nil =>
    simp [nodes, Nat.add_comm 2 fuel, Reading.run, Flags.skip, readingAfter, Reading.step?,
      Reading.push, Flags.endLook, Reading.expression, Reading.branch, Node.choice]
  | cons t rest ih =>
    have next := head?_flatMap_expression_ne rest
    simp only [List.flatMap_cons, List.append_assoc, List.length_append]
    generalize hsize : (rest.flatMap Token.expression).length = size at ih ⊢
    cases t with
    | literal c =>
      have long := length_expression_pos (.literal c)
      rw [show (Token.literal c).expression.length + size + 2 + fuel =
          size + 2 + (fuel + ((Token.literal c).expression.length - 1)) + 1 by omega,
        Token.expression, run_literal, ih]
      simp [nodes, Token.nodes, Token.groupCount]
    | segment =>
      rw [show Token.segment.expression.length + size + 2 + fuel = size + 2 + (fuel + 3) + 4 by
          simp [Token.expression]; omega, run_segment, ih]
      simp [nodes, Token.nodes, Token.groupCount]
    | directories =>
      rw [show Token.directories.expression.length + size + 2 + fuel = size + 2 + fuel + 6 by
          simp [Token.expression]; omega, run_directories _ _ _ _ next, ih]
      simp [nodes, Token.nodes, Token.groupCount]
    | descend =>
      rw [show Token.descend.expression.length + size + 2 + fuel =
          size + 2 + (fuel + 3) + 4 + 6 by simp [Token.expression]; omega,
        show Token.descend.expression = Token.directories.expression ++ Token.segment.expression
          from rfl, List.append_assoc, run_directories _ _ _ _ (by simp [Token.expression]),
        run_segment, ih]
      simp [nodes, Token.nodes, Token.groupCount]
    | below =>
      rw [show Token.below.expression.length + size + 2 + fuel = size + 2 + fuel + 4 by
          simp [Token.expression]; omega, run_below, ih]
      simp [nodes, Token.nodes, Token.groupCount]

/-- The expression of a list of tokens is read as the tree that the tokens stand for. -/
theorem ofPattern?_anchored (tokens : List Token) :
    Node.ofPattern? (anchored tokens) = some (node tokens) := by
  have start (fuel : Nat) (rest : List Char) :
      Reading.run (fuel + 1) {} ('^' :: rest) =
        Reading.run fuel (readingAfter 0 [.leaf (.look .textStart)]) rest := by
    simp [Reading.run, Flags.skip, Reading.step?, Reading.push, Flags.startLook, readingAfter]
  have whole := run_tokens tokens 0 0 [.leaf (.look .textStart)]
  rw [Node.ofPattern?, anchored, List.cons_append, start]
  simpa [node] using whole

/-- Compiling the expression of a glob never fails. -/
theorem compile_translate (glob : String) :
    Regex.compile (translate glob) = some ⟨translate glob, node (tokens (rooted glob.toList))⟩ := by
  simp [Regex.compile, translate, ofPattern?_anchored]

theorem compile_translateRelative (glob : String) :
    Regex.compile (translateRelative glob) =
      some ⟨translateRelative glob, node (tokens (relative glob.toList))⟩ := by
  simp [Regex.compile, translateRelative, ofPattern?_anchored]

end Glob

end PullTriage
