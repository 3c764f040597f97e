import PullTriage.Regex.CharClass

/-!
# Expressions

The tree of a regular expression.  `Node α` is generic in its leaves: a compiled expression has
leaves that are a class of characters or a condition on a position (`Leaf`), and an expression laid
over a text has leaves that are sets of positions (`Regex/Search.lean`).

There is one kind of loop, `plus`: one iteration, and then more of them as long as each consumes
something.  The other quantifiers are built from it: `r*` is `r+` or nothing, and a counted
repetition is written out.
-/

namespace PullTriage.Regex

/-- A condition on a position of the text, on the character before it and the one after it.  `wide`
says whether word characters outside ASCII count. -/
inductive Look where
  | textStart
  | textEnd
  | lineStart
  | lineEnd
  /-- As `lineStart`, where a carriage return, a line feed or the two together end a line. -/
  | anyLineStart
  /-- As `lineEnd`, where a carriage return, a line feed or the two together end a line. -/
  | anyLineEnd
  | wordBoundary (wide : Bool)
  | notWordBoundary (wide : Bool)
  | wordStart (wide : Bool)
  | wordEnd (wide : Bool)
  /-- No word character before. -/
  | wordStartHalf (wide : Bool)
  /-- No word character after. -/
  | wordEndHalf (wide : Bool)
deriving Repr, DecidableEq

/-- Is there a word character here? -/
def wordAt (wide : Bool) : Option Char → Bool
  | some c => (CharClass.word wide).has c.toNat
  | none => false

/-- Does the condition hold between these two neighbours? -/
def Look.holds (look : Look) (before after : Option Char) : Bool :=
  match look with
  | .textStart => before.isNone
  | .textEnd => after.isNone
  | .lineStart => before.isNone || before == some '\n'
  | .lineEnd => after.isNone || after == some '\n'
  | .anyLineStart =>
    before.isNone || before == some '\n' || (before == some '\r' && after != some '\n')
  | .anyLineEnd =>
    after.isNone || after == some '\r' || (after == some '\n' && before != some '\r')
  | .wordBoundary wide => wordAt wide before != wordAt wide after
  | .notWordBoundary wide => wordAt wide before == wordAt wide after
  | .wordStart wide => !wordAt wide before && wordAt wide after
  | .wordEnd wide => wordAt wide before && !wordAt wide after
  | .wordStartHalf wide => !wordAt wide before
  | .wordEndHalf wide => !wordAt wide after

/-- The leaves of a compiled expression. -/
inductive Leaf where
  /-- One character of the class. -/
  | one (set : CharClass)
  /-- No character, at a position that meets the condition. -/
  | look (cond : Look)
deriving Repr, DecidableEq

/-- A regular expression over leaves of type `α`.  Where two ways of matching exist, the first
branch of `alt` is preferred, and a `greedy` loop prefers to go on. -/
inductive Node (α : Type) where
  | empty
  | leaf (a : α)
  | cat (first second : Node α)
  | alt (first second : Node α)
  | plus (greedy : Bool) (body : Node α)
  | group (index : Nat) (body : Node α)
deriving Repr, DecidableEq

namespace Node

variable {α β : Type}

/-- The same tree over other leaves. -/
def map (f : α → β) : Node α → Node β
  | empty => empty
  | leaf a => leaf (f a)
  | cat a b => cat (a.map f) (b.map f)
  | alt a b => alt (a.map f) (b.map f)
  | plus greedy r => plus greedy (r.map f)
  | group i r => group i (r.map f)

/-- The leaves of the tree, from left to right. -/
def leaves : Node α → List α
  | empty => []
  | leaf a => [a]
  | cat a b => a.leaves ++ b.leaves
  | alt a b => a.leaves ++ b.leaves
  | plus _ r => r.leaves
  | group _ r => r.leaves

/-- The highest group number in the tree, zero if it has no group. -/
def groupCount : Node α → Nat
  | empty => 0
  | leaf _ => 0
  | cat a b => max a.groupCount b.groupCount
  | alt a b => max a.groupCount b.groupCount
  | plus _ r => r.groupCount
  | group i r => max i r.groupCount

/-- The expressions one after the other. -/
def sequence : List (Node α) → Node α
  | [] => empty
  | [r] => r
  | r :: rest => cat r (sequence rest)

/-- The expressions as alternatives, the first preferred. -/
def choice : List (Node α) → Node α
  | [] => empty
  | [r] => r
  | r :: rest => alt r (choice rest)

/-- `r` or nothing; a greedy option prefers `r`. -/
def option (greedy : Bool) (r : Node α) : Node α :=
  if greedy then alt r empty else alt empty r

/-- Any number of iterations of `r`. -/
def star (greedy : Bool) (r : Node α) : Node α :=
  option greedy (plus greedy r)

/-- At most `n` iterations of `r`. -/
def atMost (greedy : Bool) (r : Node α) : Nat → Node α
  | 0 => empty
  | 1 => option greedy r
  | n + 1 => option greedy (cat r (atMost greedy r n))

/-- Exactly `n` iterations of `r`, and then `tail`. -/
def exactlyThen (r tail : Node α) : Nat → Node α
  | 0 => tail
  | n + 1 => cat r (exactlyThen r tail n)

/-- At least `lo` iterations of `r`, and at most `hi` if there is a bound. -/
def repeated (greedy : Bool) (r : Node α) (lo : Nat) : Option Nat → Node α
  | some hi => exactlyThen r (atMost greedy r (hi - lo)) lo
  | none =>
    match lo with
    | 0 => star greedy r
    | lo + 1 => exactlyThen r (plus greedy r) lo

end Node

end PullTriage.Regex
