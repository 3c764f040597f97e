import PullTriage.Regex.Node

/-!
# Searching a text

Searching works backwards and then forwards.  A text of `n` characters has the positions `0 … n`,
and a set of positions is a natural number whose bit `i` says whether `i` belongs to it.

* An expression is first *laid* over the text: each leaf becomes the set of positions at which it
  matches.
* `Node.plan` computes, for an expression and a set of target positions, the positions from which
  some way through the expression ends in the target (`Plan.starts`), from right to left.
* `Plan.run` then walks from such a position.  At every choice it takes the preferred branch from
  which the target can still be reached, so it never has to turn back, and the walk is the first
  one in the order of preference.

The search is leftmost: it starts at the least position of `starts` for the target of all
positions.  A loop may match nothing in its first iteration; every further iteration consumes
something.
-/

namespace PullTriage.Regex

/-! ## Sets of positions -/

/-- The set of the positions at which the list says `true`. -/
def positionsOf : List Bool → Nat
  | [] => 0
  | b :: rest => 2 * positionsOf rest + b.toNat

/-- The members above `p`. -/
def above (set p : Nat) : Nat :=
  set >>> (p + 1) <<< (p + 1)

/-- The position `p` alone, if it is a member. -/
def only (set p : Nat) : Nat :=
  if set.testBit p then 1 <<< p else 0

/-- Grows `set` by `step` until nothing is added, `bound` times at most. -/
def growth (step : Nat → Nat) : (bound : Nat) → (set : Nat) → Nat
  | 0, set => set
  | bound + 1, set =>
    let larger := set ||| step set
    if larger = set then set else growth step bound larger

/-! ## Laying an expression over a text -/

/-- A leaf laid over a text: where it matches, and whether it consumes a character there. -/
structure Laid where
  consumes : Bool
  positions : Nat
deriving Repr, DecidableEq

/-- For each position of the text, from `before` on, whether the condition holds there. -/
def Look.along (look : Look) (before : Option Char) : List Char → List Bool
  | [] => [look.holds before none]
  | c :: rest => look.holds before (some c) :: look.along (some c) rest

/-- The positions of `text` at which a leaf matches. -/
def Leaf.lay (text : List Char) : Leaf → Laid
  | .one set => ⟨true, positionsOf (text.map fun c => set.has c.toNat)⟩
  | .look cond => ⟨false, positionsOf (cond.along none text)⟩

/-- The expression laid over a text.  A leaf that occurs often is laid only once. -/
def Node.lay (text : List Char) (node : Node Leaf) : Node Laid :=
  let table := node.leaves.eraseDups.map fun a => (a, a.lay text)
  node.map fun a => (table.lookup a).getD (a.lay text)

/-- Can the expression match without consuming anything? -/
def Node.canBeEmpty : Node Laid → Bool
  | .empty => true
  | .leaf a => !a.consumes
  | .cat a b => a.canBeEmpty && b.canBeEmpty
  | .alt a b => a.canBeEmpty || b.canBeEmpty
  | .plus _ r => r.canBeEmpty
  | .group _ r => r.canBeEmpty

/-! ## The plan and the walk -/

/-- The groups that were matched, the latest first: number, start and end. -/
abbrev Captures := List (Nat × Nat × Nat)

/-- The way into a target: the positions from which there is one, and the preferred one. -/
structure Plan where
  starts : Nat
  run : Nat → Captures → Nat × Captures

/-- Further iterations of a loop, from `p`: `next p` plans one iteration that consumes, and
`leave` are the positions at which the loop may end. -/
def furtherIterations (greedy : Bool) (next : Nat → Plan) (leave : Nat) :
    (bound : Nat) → Nat → Captures → Nat × Captures
  | 0, p, caps => (p, caps)
  | bound + 1, p, caps =>
    let plan := next p
    if (if greedy then plan.starts.testBit p else !leave.testBit p) then
      let reached := plan.run p caps
      furtherIterations greedy next leave bound reached.1 reached.2
    else (p, caps)

/-- The plan of an expression for a target, over a text whose last position is `last`. -/
def Node.plan (last : Nat) : Node Laid → (target : Nat) → Plan
  | .empty, target => ⟨target, fun p caps => (p, caps)⟩
  | .leaf a, target =>
    if a.consumes then ⟨target >>> 1 &&& a.positions, fun p caps => (p + 1, caps)⟩
    else ⟨target &&& a.positions, fun p caps => (p, caps)⟩
  | .cat a b, target =>
    let second := b.plan last target
    let first := a.plan last second.starts
    ⟨first.starts, fun p caps =>
      let middle := first.run p caps
      second.run middle.1 middle.2⟩
  | .alt a b, target =>
    let first := a.plan last target
    let second := b.plan last target
    ⟨first.starts ||| second.starts, fun p caps =>
      if first.starts.testBit p then first.run p caps else second.run p caps⟩
  | .group i r, target =>
    let inner := r.plan last target
    ⟨inner.starts, fun p caps =>
      let reached := inner.run p caps
      (reached.1, (i, p, reached.1) :: reached.2)⟩
  | .plus greedy r, target =>
    let inside := growth (fun set => (r.plan last set).starts) (last + 1) target
    let whole := r.plan last inside
    if r.canBeEmpty then
      let next := fun p => r.plan last (above inside p)
      ⟨whole.starts, fun p caps =>
        let reached := (r.plan last (above inside p ||| only target p)).run p caps
        if p < reached.1 then
          furtherIterations greedy next target (last + 1) reached.1 reached.2
        else reached⟩
    else
      ⟨whole.starts, fun p caps =>
        let reached := whole.run p caps
        furtherIterations greedy (fun _ => whole) target (last + 1) reached.1 reached.2⟩

/-- The first match in a text: where it starts and ends, and its groups. -/
def Node.search (node : Node Leaf) (text : List Char) : Option (Nat × Nat × Captures) :=
  let last := text.length
  let plan := (node.lay text).plan last (1 <<< (last + 1) - 1)
  match (List.range (last + 1)).find? plan.starts.testBit with
  | some start =>
    let reached := plan.run start []
    some (start, reached.1, reached.2)
  | none => none

end PullTriage.Regex
