import PullTriage.Proofs.Regex.Positions
import PullTriage.Proofs.Regex.Ways

/-!
# The search finds the preferred match

The search plans backwards over sets of positions and then walks forward without turning back.  The
main statement, `search_eq_ways`, says that it finds what trying out would find: the first position
from which there is a way at all, and the preferred way from there, with its groups.

The invariant is `Plan.Finds`: a plan for a target knows from which positions a way ends in the
target, and its walk is the first such way.  `plan_finds` proves it by recursion on the expression.
Only the loop needs more than the laws of `List.find?`.  Its set of positions is closed under
further iterations (`testBit_growth_iff`), so from each of them the target can be reached
(`isSome_firstInto_iterations`), and the walk, which takes the preferred branch that stays in the set,
follows the first way (`furtherIterations_eq`).
-/

namespace PullTriage.Regex

/-! ## Laying out -/

lemma getElem?_along (cond : Look) (before : Option Char) (text : List Char) (p : Nat) :
    (cond.along before text)[p]? =
      if p ≤ text.length then
        some (cond.holds (if p = 0 then before else charBefore text p) text[p]?)
      else none := by
  induction text generalizing before p with
  | nil => cases p <;> simp [Look.along]
  | cons c rest ih =>
    cases p with
    | zero => simp [Look.along]
    | succ p =>
      rw [Look.along, List.getElem?_cons_succ, ih]
      cases p <;> simp [charBefore]

lemma testBit_lay_look (text : List Char) (cond : Look) (p : Nat) :
    ((Leaf.look cond).lay text).positions.testBit p =
      decide (p ≤ text.length ∧ cond.holds (charBefore text p) text[p]?) := by
  have before : (if p = 0 then none else charBefore text p) = charBefore text p := by
    cases p <;> rfl
  rw [Leaf.lay, testBit_positionsOf, getElem?_along, before]
  by_cases h : p ≤ text.length <;> simp [h]

lemma testBit_lay_one (text : List Char) (set : CharClass) (p : Nat) :
    ((Leaf.one set).lay text).positions.testBit p = text[p]?.any (set.has ·.toNat) := by
  rw [Leaf.lay, testBit_positionsOf, List.getElem?_map]
  cases text[p]? <;> rfl

lemma lookup_map_of_mem {β : Type} (leaves : List Leaf) (f : Leaf → β) {a : Leaf}
    (ha : a ∈ leaves) : (leaves.map fun b => (b, f b)).lookup a = some (f a) := by
  induction leaves with
  | nil => simp at ha
  | cons b rest ih =>
    by_cases h : a = b
    · simp [h]
    · have hne : (a == b) = false := by simpa using h
      simpa [List.lookup_cons, hne] using ih (by simpa [h] using ha)

/-- The table of leaves that are laid out is a cache only. -/
lemma lay_eq_map (text : List Char) (node : Node Leaf) : node.lay text = node.map (·.lay text) := by
  have table (a : Leaf) : (((node.leaves.eraseDups.map fun b => (b, b.lay text)).lookup a).getD
      (a.lay text)) = a.lay text := by
    by_cases ha : a ∈ node.leaves.eraseDups
    · rw [lookup_map_of_mem _ _ ha, Option.getD_some]
    · cases h : (node.leaves.eraseDups.map fun b => (b, b.lay text)).lookup a with
      | none => rfl
      | some b =>
        obtain ⟨l, r, hl, -⟩ := List.lookup_eq_some_iff.1 h
        have hmem : (a, b) ∈ node.leaves.eraseDups.map fun b => (b, b.lay text) := by simp [hl]
        obtain ⟨c, hc, hcb⟩ := List.mem_map.1 hmem
        exact absurd ((Prod.mk.inj hcb).1 ▸ hc) ha
  simp only [Node.lay, table]

/-! ## What a plan finds -/

/-- The first of some ways that ends in the target. -/
def firstInto (target : Nat) (ways : List Way) : Option Way :=
  ways.find? fun w => target.testBit w.stop

/-- The plan leads from `p` into the target exactly when one of the ways does, and then by the
first one that does. -/
structure Plan.Finds (plan : Plan) (target p : Nat) (ways : List Way) : Prop where
  starts : plan.starts.testBit p = (firstInto target ways).isSome
  run : ∀ w, firstInto target ways = some w →
    ∀ caps, plan.run p caps = (w.stop, w.captures ++ caps)

@[simp] lemma firstInto_nil (target : Nat) : firstInto target [] = none := rfl

lemma firstInto_cons (target : Nat) (w : Way) (ways : List Way) :
    firstInto target (w :: ways) =
      if target.testBit w.stop then some w else firstInto target ways := by
  cases h : target.testBit w.stop <;> simp [firstInto, h]

lemma firstInto_append (target : Nat) (ways ways' : List Way) :
    firstInto target (ways ++ ways') = (firstInto target ways).or (firstInto target ways') :=
  List.find?_append

lemma firstInto_stay (target p : Nat) :
    firstInto target [.stay p] = if target.testBit p then some (.stay p) else none := by
  rw [firstInto_cons, firstInto_nil, Way.stop_stay]

@[simp] lemma isSome_firstInto_stay (target p : Nat) :
    (firstInto target [.stay p]).isSome = target.testBit p := by
  rw [firstInto_stay]
  cases h : target.testBit p <;> simp

lemma firstInto_congr {target target' : Nat} {ways : List Way}
    (h : ∀ w ∈ ways, target.testBit w.stop = target'.testBit w.stop) :
    firstInto target ways = firstInto target' ways := by
  induction ways with
  | nil => rfl
  | cons w ways ih =>
    rw [firstInto_cons, firstInto_cons, h w List.mem_cons_self,
      ih fun v hv => h v (List.mem_cons_of_mem w hv)]

lemma isSome_firstInto (target : Nat) (ways : List Way) :
    (firstInto target ways).isSome = ways.any fun w => target.testBit w.stop := by
  rw [firstInto, Bool.eq_iff_iff, List.find?_isSome, List.any_eq_true]

lemma stop_of_firstInto {target : Nat} {ways : List Way} {w : Way}
    (h : firstInto target ways = some w) : target.testBit w.stop = true :=
  List.find?_some (p := fun w : Way => target.testBit w.stop) h

lemma mem_of_firstInto {target : Nat} {ways : List Way} {w : Way}
    (h : firstInto target ways = some w) : w ∈ ways :=
  List.mem_of_find?_eq_some h

lemma Plan.Finds.congr {plan : Plan} {target target' p : Nat} {ways : List Way}
    (hfinds : plan.Finds target p ways)
    (h : ∀ w ∈ ways, target.testBit w.stop = target'.testBit w.stop) :
    plan.Finds target' p ways := by
  obtain ⟨starts, run⟩ := hfinds
  rw [firstInto_congr h] at starts run
  exact ⟨starts, run⟩

/-- Going on from the first way that can go on is the first way that gets there. -/
lemma firstInto_flatMap {target middle : Nat} {ways : List Way} {rest : Way → List Way}
    (h : ∀ w ∈ ways, middle.testBit w.stop = (firstInto target (rest w)).isSome) :
    firstInto target (ways.flatMap fun w => (rest w).map w.andThen) =
      (firstInto middle ways).bind fun w => (firstInto target (rest w)).map w.andThen := by
  induction ways with
  | nil => rfl
  | cons w ways ih =>
    have through : firstInto target ((rest w).map w.andThen) =
        (firstInto target (rest w)).map w.andThen := by
      rw [firstInto, List.find?_map]
      rfl
    rw [List.flatMap_cons, firstInto_append, through, firstInto_cons,
      ih fun v hv => h v (List.mem_cons_of_mem w hv), h w List.mem_cons_self]
    cases hrest : firstInto target (rest w) with
    | none => rfl
    | some v => simp [hrest]

lemma isSome_firstInto_flatMap {target middle : Nat} {ways : List Way} {rest : Way → List Way}
    (h : ∀ w ∈ ways, middle.testBit w.stop = (firstInto target (rest w)).isSome) :
    (firstInto target (ways.flatMap fun w => (rest w).map w.andThen)).isSome =
      (firstInto middle ways).isSome := by
  rw [firstInto_flatMap h]
  cases hmiddle : firstInto middle ways with
  | none => rfl
  | some w =>
    have := (h w (mem_of_firstInto hmiddle)).symm.trans (stop_of_firstInto hmiddle)
    simpa using this

/-- A way found through a middle set, taken apart. -/
lemma firstInto_flatMap_eq_some {target middle : Nat} {ways : List Way} {rest : Way → List Way}
    (h : ∀ w ∈ ways, middle.testBit w.stop = (firstInto target (rest w)).isSome) {w : Way}
    (hw : firstInto target (ways.flatMap fun v => (rest v).map v.andThen) = some w) :
    ∃ v u, firstInto middle ways = some v ∧ firstInto target (rest v) = some u ∧
      w = v.andThen u := by
  rw [firstInto_flatMap h, Option.bind_eq_some_iff] at hw
  obtain ⟨v, hv, hmap⟩ := hw
  obtain ⟨u, hu, rfl⟩ := Option.map_eq_some_iff.1 hmap
  exact ⟨v, u, hv, hu, rfl⟩

/-! ## Loops -/

section Loop

variable {ways : Nat → List Way} {last target inside : Nat} {greedy : Bool}

/-- The set of positions of a loop: those of the target, and those with an iteration ahead. -/
def IsInside (ways : Nat → List Way) (last target inside : Nat) : Prop :=
  ∀ p, p ≤ last → inside.testBit p =
    (target.testBit p || (firstInto (above inside p) (ways p)).isSome)

/-- What a loop finds: another iteration that ends inside and then the rest, or the way out, in the
order of the preference. -/
lemma firstInto_iterations {bound p : Nat}
    (hrest : ∀ w ∈ ways p, p < w.stop →
      inside.testBit w.stop = (firstInto target (iterations greedy ways bound w.stop)).isSome) :
    firstInto target (iterations greedy ways (bound + 1) p) =
      let onward := (firstInto (above inside p) (ways p)).bind fun w =>
        (firstInto target (iterations greedy ways bound w.stop)).map w.andThen
      let out := if target.testBit p then some (.stay p) else none
      if greedy then onward.or out else out.or onward := by
  have ahead : firstInto (above inside p) (ways p) =
      firstInto inside ((ways p).filter (p < ·.stop)) := by
    rw [firstInto, firstInto, List.find?_filter]
    simp only [testBit_above, Bool.decide_and, Bool.decide_eq_true]
  have onward : firstInto target (((ways p).filter (p < ·.stop)).flatMap fun w =>
      (iterations greedy ways bound w.stop).map w.andThen) =
      (firstInto (above inside p) (ways p)).bind fun w =>
        (firstInto target (iterations greedy ways bound w.stop)).map w.andThen := by
    rw [ahead]
    refine firstInto_flatMap fun w hw => ?_
    obtain ⟨hmem, hlt⟩ := List.mem_filter.1 hw
    exact hrest w hmem (by simpa using hlt)
  cases greedy with
  | true =>
    rw [iterations, if_pos rfl, firstInto_append, onward, firstInto_stay]
    rfl
  | false =>
    rw [iterations, if_neg Bool.false_ne_true, ← List.singleton_append, firstInto_append, onward,
      firstInto_stay]
    rfl

lemma furtherIterations_halt {next : Nat → Plan} (fuel : Nat) {p : Nat}
    (htarget : target.testBit p = true)
    (hstop : greedy = true → (next p).starts.testBit p = false) (caps : Captures) :
    furtherIterations greedy next target fuel p caps = (p, caps) := by
  cases fuel with
  | zero => rfl
  | succ fuel => cases greedy <;> simp_all [furtherIterations]

variable (hways : ∀ p ≤ last, ∀ w ∈ ways p, p ≤ w.stop ∧ w.stop ≤ last)

include hways

lemma firstInto_above_eq_none_of_eq_last (inside : Nat) {p : Nat} (hp : p = last) :
    firstInto (above inside p) (ways p) = none := by
  rw [firstInto, List.find?_eq_none]
  intro w hw
  obtain ⟨-, hl⟩ := hways p (Nat.le_of_eq hp) w hw
  rw [testBit_above]
  simp [Nat.not_lt.2 (hp ▸ hl)]

variable (hinside : IsInside ways last target inside)

include hinside

/-- From each position of the loop's set the target can be reached, and from no other. -/
lemma isSome_firstInto_iterations {bound p : Nat} (hp : p ≤ last) (hb : last - p ≤ bound) :
    (firstInto target (iterations greedy ways bound p)).isSome = inside.testBit p := by
  induction bound generalizing p with
  | zero =>
    have none := firstInto_above_eq_none_of_eq_last hways inside (show p = last by omega)
    rw [iterations, isSome_firstInto_stay, hinside p hp, none, Option.isSome_none, Bool.or_false]
  | succ bound ih =>
    have hrest (w : Way) (hw : w ∈ ways p) (hlt : p < w.stop) :
        inside.testBit w.stop = (firstInto target (iterations greedy ways bound w.stop)).isSome :=
      (ih (hways p hp w hw).2 (by omega)).symm
    rw [firstInto_iterations hrest, hinside p hp]
    cases hahead : firstInto (above inside p) (ways p) with
    | none => cases greedy <;> cases target.testBit p <;> rfl
    | some w =>
      have hw := stop_of_firstInto hahead
      rw [testBit_above, Bool.and_eq_true, decide_eq_true_eq] at hw
      obtain ⟨u, hu⟩ := Option.isSome_iff_exists.1
        ((hrest w (mem_of_firstInto hahead) hw.1).symm.trans hw.2)
      cases greedy <;> cases target.testBit p <;> simp [hu]

/-- The walk through a loop follows the first way. -/
lemma furtherIterations_eq {next : Nat → Plan}
    (hnext : ∀ p, p ≤ last → (next p).Finds (above inside p) p (ways p))
    {bound fuel p : Nat} (hp : p ≤ last) (hb : last - p ≤ bound) (hf : last - p ≤ fuel)
    {w : Way} (hw : firstInto target (iterations greedy ways bound p) = some w)
    (caps : Captures) :
    furtherIterations greedy next target fuel p caps = (w.stop, w.captures ++ caps) := by
  have starts := (hnext p hp).starts
  induction bound generalizing fuel p w caps with
  | zero =>
    rw [firstInto_above_eq_none_of_eq_last hways inside (show p = last by omega)] at starts
    rw [iterations, firstInto_stay, Option.ite_none_right_eq_some, Option.some.injEq] at hw
    obtain ⟨htarget, rfl⟩ := hw
    exact furtherIterations_halt fuel htarget (fun _ => starts) caps
  | succ bound ih =>
    have hrest (v : Way) (hv : v ∈ ways p) (hlt : p < v.stop) :
        inside.testBit v.stop = (firstInto target (iterations greedy ways bound v.stop)).isSome :=
      (isSome_firstInto_iterations hways hinside (hways p hp v hv).2 (by omega)).symm
    rw [firstInto_iterations hrest] at hw
    cases hahead : firstInto (above inside p) (ways p) with
    | none =>
      rw [hahead] at hw starts
      have out : (if target.testBit p then some (Way.stay p) else none) = some w := by
        cases greedy <;> simpa using hw
      rw [Option.ite_none_right_eq_some, Option.some.injEq] at out
      obtain ⟨htarget, rfl⟩ := out
      exact furtherIterations_halt fuel htarget (fun _ => starts) caps
    | some v =>
      have hv := stop_of_firstInto hahead
      rw [testBit_above, Bool.and_eq_true, decide_eq_true_eq] at hv
      have hvl := (hways p hp v (mem_of_firstInto hahead)).2
      -- The loop can go on from where this iteration ends, because that is inside.
      obtain ⟨u, hu⟩ := Option.isSome_iff_exists.1
        ((hrest v (mem_of_firstInto hahead) hv.1).symm.trans hv.2)
      rw [hahead, Option.isSome_some] at starts
      rw [hahead, Option.bind_some, hu, Option.map_some] at hw
      obtain ⟨fuel, rfl⟩ : ∃ n, fuel = n + 1 := ⟨fuel - 1, by omega⟩
      have walk : furtherIterations greedy next target fuel ((next p).run p caps).1
          ((next p).run p caps).2 = ((v.andThen u).stop, (v.andThen u).captures ++ caps) := by
        rw [(hnext p hp).run v hahead caps,
          ih hvl (by omega) (by omega) hu _ (hnext v.stop hvl).starts]
        simp
      cases htarget : target.testBit p <;> cases greedy
      all_goals simp only [htarget, if_true, Bool.false_eq_true, if_false, Option.some_or,
        Option.none_or, Option.some.injEq] at hw
      case false.false | false.true | true.true =>
        subst hw
        simpa [furtherIterations, starts, htarget] using walk
      case true.false =>
        subst hw
        exact furtherIterations_halt _ htarget (fun h => by cases h) caps

/-- The first iteration ends in `middle` exactly when the rest of the loop reaches the target: it
is inside and ahead, or it was empty and the loop ends where it began. -/
lemma testBit_middle (greedy : Bool) {p : Nat} (hp : p ≤ last) {w : Way} (hw : w ∈ ways p) :
    (above inside p ||| only target p).testBit w.stop =
      (firstInto target (if p < w.stop then iterations greedy ways (last - w.stop) w.stop
        else [.stay w.stop])).isSome := by
  obtain ⟨hpw, hwl⟩ := hways p hp w hw
  rw [Nat.testBit_or, testBit_above, testBit_only]
  rcases Nat.eq_or_lt_of_le hpw with rfl | hlt
  · rw [if_neg (Nat.lt_irrefl _), isSome_firstInto_stay]
    simp
  · rw [if_pos hlt, isSome_firstInto_iterations hways hinside hwl (Nat.le_refl _)]
    simp [hlt, Nat.ne_of_gt hlt]

/-- For the question whether there is a way at all, the first iteration may end anywhere inside. -/
lemma isSome_firstInto_inside {p : Nat} (hp : p ≤ last) :
    (firstInto inside (ways p)).isSome =
      (firstInto (above inside p ||| only target p) (ways p)).isSome := by
  rw [isSome_firstInto, isSome_firstInto, Bool.eq_iff_iff, List.any_eq_true, List.any_eq_true]
  have open_iff := hinside p hp
  constructor
  · rintro ⟨w, hw, hin⟩
    rcases Nat.eq_or_lt_of_le (hways p hp w hw).1 with rfl | hlt
    · rw [hin, eq_comm, Bool.or_eq_true, isSome_firstInto, List.any_eq_true] at open_iff
      rcases open_iff with htarget | ⟨v, hv, hahead⟩
      · exact ⟨w, hw, by rw [Nat.testBit_or, testBit_only]; simp [htarget]⟩
      · exact ⟨v, hv, by rw [Nat.testBit_or, hahead, Bool.true_or]⟩
    · exact ⟨w, hw, by rw [Nat.testBit_or, testBit_above]; simp [hlt, hin]⟩
  · rintro ⟨w, hw, hmiddle⟩
    rw [Nat.testBit_or, testBit_above, testBit_only] at hmiddle
    refine ⟨w, hw, ?_⟩
    rcases Nat.eq_or_lt_of_le (hways p hp w hw).1 with heq | hlt
    · have htarget : target.testBit p = true := by simpa [← heq] using hmiddle
      rw [← heq, open_iff, htarget, Bool.true_or]
    · simpa [hlt, Nat.ne_of_gt hlt] using hmiddle

end Loop

/-! ## Expressions -/

/-- An expression that cannot be empty consumes something on every way. -/
lemma lt_stop_of_canBeEmpty_eq_false {text : List Char} (node : Node Leaf)
    (h : (node.map (·.lay text)).canBeEmpty = false) {p : Nat} (hp : p ≤ text.length) {w : Way}
    (hw : w ∈ node.ways text p) : p < w.stop := by
  induction node generalizing p w with
  | empty => simp [Node.map, Node.canBeEmpty] at h
  | leaf a =>
    cases a with
    | look cond => simp [Node.map, Node.canBeEmpty, Leaf.lay] at h
    | one set =>
      simp only [Node.ways, Option.mem_toList, Option.map_eq_some_iff, Leaf.step?,
        Option.ite_none_right_eq_some, Option.some.injEq] at hw
      obtain ⟨q, ⟨-, rfl⟩, rfl⟩ := hw
      exact Nat.lt_succ_self p
  | cat a b iha ihb =>
    simp only [Node.ways, List.mem_flatMap, List.mem_map] at hw
    obtain ⟨v, hv, u, hu, rfl⟩ := hw
    obtain ⟨hpv, hvl⟩ := a.ways_bounds hp hv
    obtain ⟨hvu, -⟩ := b.ways_bounds hvl hu
    rw [Node.map, Node.canBeEmpty, Bool.and_eq_false_iff] at h
    rcases h with ha | hb
    · exact Nat.lt_of_lt_of_le (iha ha hp hv) hvu
    · exact Nat.lt_of_le_of_lt hpv (ihb hb hvl hu : v.stop < u.stop)
  | alt a b iha ihb =>
    rw [Node.map, Node.canBeEmpty, Bool.or_eq_false_iff] at h
    rcases List.mem_append.1 hw with ha | hb
    · exact iha h.1 hp ha
    · exact ihb h.2 hp hb
  | plus greedy r ih =>
    simp only [Node.ways, List.mem_flatMap, List.mem_map] at hw
    obtain ⟨v, hv, u, hu, rfl⟩ := hw
    have hpv := ih h hp hv
    rw [if_pos hpv] at hu
    obtain ⟨hvu, -⟩ := iterations_bounds (fun _ hq _ hw => r.ways_bounds hq hw)
      (r.ways_bounds hp hv).2 hu
    exact Nat.lt_of_lt_of_le hpv hvu
  | group i r ih =>
    obtain ⟨v, hv, rfl⟩ := List.mem_map.1 hw
    exact (ih h hp hv : p < v.stop)

lemma step?_eq_lay (text : List Char) (a : Leaf) (p : Nat) :
    a.step? text p =
      if (a.lay text).positions.testBit p then some (p + (a.lay text).consumes.toNat)
      else none := by
  cases a with
  | one set =>
    rw [testBit_lay_one]
    rfl
  | look cond =>
    simp only [testBit_lay_look, decide_eq_true_eq]
    rfl

lemma plan_finds_leaf (text : List Char) (a : Leaf) (target p : Nat) :
    (((Node.leaf a).map (·.lay text)).plan text.length target).Finds target p
      ((Node.leaf a).ways text p) := by
  rw [Node.map, Node.plan, Node.ways, step?_eq_lay]
  obtain ⟨consumes, positions⟩ := a.lay text
  refine ⟨?_, fun w hw caps => ?_⟩
  · cases consumes <;> cases hpos : positions.testBit p <;>
      simp [hpos, Nat.testBit_shiftRight, Nat.add_comm 1 p]
  · have hstop : w = .stay (p + consumes.toNat) := by
      have := mem_of_firstInto hw
      simp_all
    subst hstop
    cases consumes <;> rfl

section Plan

variable {text : List Char} {r : Node Leaf}
  (ih : ∀ target p, p ≤ text.length →
    ((r.map (·.lay text)).plan text.length target).Finds target p (r.ways text p))

include ih

lemma isInside_growth (target : Nat) :
    IsInside (r.ways text) text.length target
      (growth (fun set => ((r.map (·.lay text)).plan text.length set).starts)
        (text.length + 1) target) := by
  have hstep : StepsBy (fun set => ((r.map (·.lay text)).plan text.length set).starts) text.length
      fun p => (r.ways text p).map (·.stop) := by
    intro set p hp
    rw [(ih set p hp).starts, isSome_firstInto, List.any_map]
    rfl
  have hnext : ∀ p, p ≤ text.length → ∀ q ∈ (r.ways text p).map (·.stop),
      p ≤ q ∧ q ≤ text.length := by
    intro p hp q hq
    obtain ⟨w, hw, rfl⟩ := List.mem_map.1 hq
    exact r.ways_bounds hp hw
  intro p hp
  rw [Bool.eq_iff_iff, testBit_growth_iff hstep hnext target p hp, Bool.or_eq_true,
    isSome_firstInto, List.any_eq_true]
  simp [testBit_above]

lemma plan_finds_plus (greedy : Bool) (target p : Nat) (hp : p ≤ text.length) :
    (((Node.plus greedy r).map (·.lay text)).plan text.length target).Finds target p
      ((Node.plus greedy r).ways text p) := by
  have hways : ∀ p ≤ text.length, ∀ w ∈ r.ways text p, p ≤ w.stop ∧ w.stop ≤ text.length :=
    fun _ hp _ hw => r.ways_bounds hp hw
  have hinside := isInside_growth ih target
  rw [Node.map, Node.plan, Node.ways]
  generalize (r.map (·.lay text)).plan text.length = plan at ih hinside ⊢
  generalize growth (fun set => (plan set).starts) (text.length + 1) target = inside
    at hinside ⊢
  have hmiddle : ∀ w ∈ r.ways text p, (above inside p ||| only target p).testBit w.stop = _ :=
    fun w hw => testBit_middle hways hinside greedy hp hw
  have starts : (plan inside).starts.testBit p =
      (firstInto target ((r.ways text p).flatMap fun w =>
        (if p < w.stop then iterations greedy (r.ways text) (text.length - w.stop) w.stop
          else [.stay w.stop]).map w.andThen)).isSome := by
    rw [(ih inside p hp).starts, isSome_firstInto_flatMap hmiddle,
      isSome_firstInto_inside hways hinside hp]
  split
  case isTrue hempty =>
    refine ⟨starts, fun w hw caps => ?_⟩
    obtain ⟨v, u, hv, hu, rfl⟩ := firstInto_flatMap_eq_some hmiddle hw
    dsimp only
    rw [(ih _ p hp).run v hv caps]
    by_cases hlt : p < v.stop
    · rw [if_pos hlt] at hu
      rw [if_pos hlt, furtherIterations_eq hways hinside (fun q hq => ih _ q hq)
        (hways p hp v (mem_of_firstInto hv)).2 (Nat.le_refl _) (by omega) hu]
      simp
    · rw [if_neg hlt, firstInto_stay, Option.ite_none_right_eq_some, Option.some.injEq] at hu
      obtain ⟨-, rfl⟩ := hu
      rw [if_neg hlt]
      rfl
  case isFalse hempty =>
    -- Every way consumes, so "inside" and "inside and ahead" are the same on the ways.
    have ahead (q : Nat) (hq : q ≤ text.length) (w : Way) (hw : w ∈ r.ways text q) :
        q < w.stop :=
      lt_stop_of_canBeEmpty_eq_false r (by simpa using hempty) hq hw
    refine ⟨starts, fun w hw caps => ?_⟩
    obtain ⟨v, u, hv, hu, rfl⟩ := firstInto_flatMap_eq_some hmiddle hw
    have hlt := ahead p hp v (mem_of_firstInto hv)
    have first : (plan inside).Finds (above inside p ||| only target p) p (r.ways text p) := by
      refine (ih inside p hp).congr fun w hw => ?_
      have := ahead p hp w hw
      rw [Nat.testBit_or, testBit_above, testBit_only]
      simp [this, Nat.ne_of_gt this]
    have further : ∀ q, q ≤ text.length → (plan inside).Finds (above inside q) q (r.ways text q) := by
      intro q hq
      refine (ih inside q hq).congr fun w hw => ?_
      rw [testBit_above, decide_eq_true (ahead q hq w hw), Bool.true_and]
    rw [if_pos hlt] at hu
    dsimp only
    rw [first.run v hv caps, furtherIterations_eq hways hinside further
      (hways p hp v (mem_of_firstInto hv)).2 (Nat.le_refl _) (by omega) hu]
    simp

end Plan

/-- A plan leads into the target exactly where some way does, and its walk is the first such way. -/
theorem plan_finds (text : List Char) (node : Node Leaf) (target p : Nat) (hp : p ≤ text.length) :
    ((node.map (·.lay text)).plan text.length target).Finds target p (node.ways text p) := by
  induction node generalizing target p with
  | empty =>
    refine ⟨?_, fun w hw caps => ?_⟩
    · rw [Node.map, Node.plan, Node.ways, isSome_firstInto_stay]
    · rw [Node.ways, firstInto_stay, Option.ite_none_right_eq_some, Option.some.injEq] at hw
      obtain ⟨-, rfl⟩ := hw
      rfl
  | leaf a => exact plan_finds_leaf text a target p
  | cat a b iha ihb =>
    have middle (w : Way) (hw : w ∈ a.ways text p) :=
      (ihb target w.stop (a.ways_bounds hp hw).2).starts
    refine ⟨?_, fun w hw caps => ?_⟩
    · rw [Node.ways, isSome_firstInto_flatMap middle]
      exact (iha _ p hp).starts
    · obtain ⟨v, u, hv, hu, rfl⟩ := firstInto_flatMap_eq_some middle hw
      have hvl := (a.ways_bounds hp (mem_of_firstInto hv)).2
      rw [Node.map, Node.plan]
      simp only [(iha _ p hp).run v hv caps, (ihb target v.stop hvl).run u hu]
      simp
  | alt a b iha ihb =>
    refine ⟨?_, fun w hw caps => ?_⟩
    · rw [Node.map, Node.plan, Node.ways, firstInto_append, Option.isSome_or,
        ← (iha target p hp).starts, ← (ihb target p hp).starts, Nat.testBit_or]
    · rw [Node.ways, firstInto_append, Option.or_eq_some_iff] at hw
      rw [Node.map, Node.plan]
      simp only [(iha target p hp).starts]
      rcases hw with ha | ⟨hnone, hb⟩
      · rw [ha, Option.isSome_some, if_pos rfl, (iha target p hp).run w ha]
      · rw [hnone, Option.isSome_none, if_neg Bool.false_ne_true, (ihb target p hp).run w hb]
  | plus greedy r ih => exact plan_finds_plus ih greedy target p hp
  | group i r ih =>
    have inner : firstInto target ((Node.group i r).ways text p) =
        (firstInto target (r.ways text p)).map fun w => ⟨w.stop, (i, p, w.stop) :: w.captures⟩ := by
      rw [Node.ways, firstInto, List.find?_map]
      rfl
    refine ⟨?_, fun w hw caps => ?_⟩
    · rw [inner, Option.isSome_map]
      exact (ih target p hp).starts
    · rw [inner, Option.map_eq_some_iff] at hw
      obtain ⟨v, hv, rfl⟩ := hw
      rw [Node.map, Node.plan]
      simp only [(ih target p hp).run v hv caps]
      rfl

/-! ## The search -/

/-- The search finds the leftmost match, and there the preferred one. -/
theorem search_eq_ways (node : Node Leaf) (text : List Char) :
    node.search text =
      (List.range (text.length + 1)).findSome? fun p =>
        (node.ways text p).head?.map fun w => (p, w.stop, w.captures) := by
  have whole (p : Nat) (hp : p ≤ text.length) :
      firstInto (1 <<< (text.length + 1) - 1) (node.ways text p) = (node.ways text p).head? := by
    cases hw : node.ways text p with
    | nil => rfl
    | cons w ways =>
      have hwl := (node.ways_bounds hp (hw ▸ List.mem_cons_self)).2
      rw [firstInto_cons, testBit_all, decide_eq_true hwl, if_pos rfl, List.head?_cons]
  have finds (p : Nat) (hp : p ≤ text.length) :=
    plan_finds text node (1 <<< (text.length + 1) - 1) p hp
  rw [Node.search, lay_eq_map]
  generalize (node.map (·.lay text)).plan text.length (1 <<< (text.length + 1) - 1) = plan
    at finds ⊢
  have hrange : ∀ p ∈ List.range (text.length + 1), p ≤ text.length :=
    fun p hp => Nat.lt_succ_iff.1 (List.mem_range.1 hp)
  dsimp only
  generalize List.range (text.length + 1) = positions at hrange ⊢
  induction positions with
  | nil => rfl
  | cons p ps ih =>
    have hp := hrange p List.mem_cons_self
    have starts := (finds p hp).starts
    have run := (finds p hp).run
    rw [whole p hp] at starts run
    cases hhead : (node.ways text p).head? with
    | none =>
      rw [hhead, Option.isSome_none] at starts
      simpa [starts, hhead] using ih fun q hq => hrange q (List.mem_cons_of_mem p hq)
    | some w =>
      rw [hhead, Option.isSome_some] at starts
      simp [starts, hhead, run w hhead]

end PullTriage.Regex
