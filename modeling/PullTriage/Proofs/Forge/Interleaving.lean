import PullTriage.Proofs.Forge.Answers
import Mathlib.Data.List.Flatten
import Mathlib.Data.List.Perm.Basic

/-!
# Programs that share a forge

Some programs run on one forge in memory at the same time.  A call is one step, and a schedule says
whose turn it is: `Pool.play` makes the calls in that order, and every interleaving of the calls is
played by a schedule.

No program notices the others.  What a call is answered does not depend on what has been written, so
each program has the exchanges and the result that it has alone, and the forge takes down the
exchanges of all of them, each program's in their order: a `Shuffle` (`runsAlone_of_hasEnded`).  So
what the forge is left with can be read off the exchanges that the programs have alone.

To run programs in turn (`inTurn`) is to take down the same exchanges, program by program.
-/

namespace PullTriage

/-! ## Shuffles -/

/-- The list is made of the other lists, each in its own order. -/
inductive Shuffle {α : Type} : List (List α) → List α → Prop
  | nil {lists : List (List α)} (empty : ∀ l ∈ lists, l = []) : Shuffle lists []
  | cons {before after : List (List α)} {a : α} {rest shuffled : List α}
      (h : Shuffle (before ++ rest :: after) shuffled) :
      Shuffle (before ++ (a :: rest) :: after) (a :: shuffled)

namespace Shuffle

variable {α β : Type} {lists : List (List α)} {shuffled : List α}

/-- A shuffle has what the lists have. -/
lemma perm (h : Shuffle lists shuffled) : shuffled.Perm lists.flatten := by
  induction h with
  | nil empty => rw [List.flatten_eq_nil_iff.2 empty]
  | @cons before after a rest shuffled _ ih =>
    have moved : (a :: (before ++ rest :: after).flatten).Perm
        (before ++ (a :: rest) :: after).flatten := by
      simp only [List.flatten_append, List.flatten_cons, List.cons_append]
      exact List.perm_middle.symm
    exact (ih.cons a).trans moved

/-- Each list is in the shuffle in its own order. -/
lemma sublist (h : Shuffle lists shuffled) : ∀ l ∈ lists, l.Sublist shuffled := by
  induction h with
  | nil empty =>
    intro l hl
    rw [empty l hl]
  | @cons before after a rest shuffled _ ih =>
    intro l hl
    rcases List.mem_append.1 hl with hbefore | htail
    · exact (ih l (List.mem_append_left _ hbefore)).cons a
    · rcases List.mem_cons.1 htail with rfl | hafter
      · exact (ih rest (by simp)).cons_cons a
      · exact (ih l (by simp [hafter])).cons a

/-- Where the items of the other lists give nothing, the shuffle gives what the one list gives, in
its order. -/
lemma flatMap_eq {before after : List (List α)} {l : List α}
    (h : Shuffle (before ++ l :: after) shuffled) {f : α → List β}
    (silent : ∀ other ∈ before ++ after, ∀ a ∈ other, f a = []) :
    shuffled.flatMap f = l.flatMap f := by
  have nothing {lists : List (List α)} (hlists : ∀ other ∈ lists, ∀ a ∈ other, f a = []) :
      lists.flatten.flatMap f = [] := by
    refine List.flatMap_eq_nil_iff.2 fun a ha => ?_
    obtain ⟨other, hother, hmem⟩ := List.mem_flatten.1 ha
    exact hlists other hother a hmem
  have hbefore : before.flatten.flatMap f = [] :=
    nothing fun other hother => silent other (List.mem_append_left after hother)
  have hafter : after.flatten.flatMap f = [] :=
    nothing fun other hother => silent other (List.mem_append_right before hother)
  have perm : (shuffled.flatMap f).Perm (l.flatMap f) := by
    have all := h.perm.flatMap_right f
    rwa [List.flatten_append, List.flatten_cons, List.flatMap_append, List.flatMap_append, hbefore,
      hafter, List.nil_append, List.append_nil] at all
  have sublist : (l.flatMap f).Sublist (shuffled.flatMap f) := (h.sublist l (by simp)).flatMap f
  exact (sublist.eq_of_length perm.length_eq.symm).symm

end Shuffle

/-- The result of a program that has ended. -/
def ForgeProgram.result? {α : Type} : ForgeProgram α → Option α
  | done result => some result
  | call .. => none

lemma ForgeProgram.eq_done_of_isSome_result? {α : Type} {program : ForgeProgram α}
    (h : program.result?.isSome = true) : ∃ result, program = .done result := by
  cases program with
  | done result => exact ⟨result, rfl⟩
  | call c next => cases h

namespace MemoryForge

open ForgeProgram

/-! ## Programs in turn -/

section

variable {α : Type} {forge : MemoryForge} {number : Nat}

/-- The state after some programs have run, one after the other. -/
def inTurn (programs : List (ForgeProgram α)) (forge : MemoryForge) : MemoryForge :=
  programs.foldl (fun forge program => (forge.run program).2) forge

/-- The exchange writes to a pull request. -/
def Writes (exchange : Exchange) (number : Nat) : Prop :=
  exchange.Succeeds ∧ ((∃ body, exchange.call = .createComment number body) ∨
    ∃ labels, exchange.call = .addLabels number labels)

/-- Alone on the forge, the program writes to a pull request. -/
def WritesTo (forge : MemoryForge) (program : ForgeProgram α) (number : Nat) : Prop :=
  ∃ exchange ∈ program.history perform forge, Writes exchange number

/-- To run programs in turn is to take down what each of them exchanges alone. -/
lemma inTurn_eq (programs : List (ForgeProgram α)) (forge : MemoryForge) :
    inTurn programs forge = (programs.flatMap (·.history perform forge)).foldl takeDown forge := by
  induction programs generalizing forge with
  | nil => rfl
  | cons program programs ih =>
    have alike : GivenAlike (forge.run program).2 forge := givenAlike_run program forge
    have histories (other : ForgeProgram α) := (run_of_givenAlike alike other).1
    have rest := ih (forge.run program).2
    simp only [histories] at rest
    rw [List.flatMap_cons, List.foldl_append, ← state_of_run]
    exact rest

lemma leaves_nothing {exchange : Exchange} (h : ¬ Writes exchange number) :
    (commentsIn exchange).filter (·.1 = number) = [] ∧ labelsIn number exchange = [] := by
  obtain ⟨call, reply⟩ := exchange
  cases reply with
  | error cause => exact ⟨rfl, rfl⟩
  | ok answer =>
    have succeeds := Exchange.succeeds_ok call answer
    cases call with
    | createComment other body =>
      have hne : other ≠ number := fun heq => h ⟨succeeds, .inl ⟨body, heq ▸ rfl⟩⟩
      simp [commentsIn, commentOf?, labelsIn, addedTo, hne]
    | addLabels other labels =>
      have hne : number ≠ other := fun heq => h ⟨succeeds, .inr ⟨labels, heq ▸ rfl⟩⟩
      simp [commentsIn, commentOf?, labelsIn, addedTo, hne]
    | _ => exact ⟨rfl, rfl⟩

end

/-! ## Pools -/

/-- Programs that share a forge, each as far as it has got. -/
structure Pool (α : Type) where
  programs : List (ForgeProgram α)
  forge : MemoryForge

namespace Pool

variable {α : Type} {pool : Pool α} {schedule : List Nat}

/-- The program at a place makes its next call; one that has ended makes none. -/
def step (pool : Pool α) (place : Nat) : Pool α :=
  match pool.programs[place]? with
  | some (.call c next) =>
    let (reply, forge) := perform c pool.forge
    ⟨pool.programs.set place (next reply), forge⟩
  | _ => pool

/-- The programs make calls in the order of a schedule. -/
def play (pool : Pool α) (schedule : List Nat) : Pool α :=
  schedule.foldl step pool

/-- All programs have ended. -/
def HasEnded (pool : Pool α) : Prop :=
  ∀ program ∈ pool.programs, program.result?.isSome = true

instance : Decidable pool.HasEnded :=
  inferInstanceAs (Decidable (∀ program ∈ pool.programs, program.result?.isSome = true))

/-- The program at a place has ended, or is not there, or it makes a call. -/
lemma step_cases (pool : Pool α) (place : Nat) :
    (pool.step place = pool ∧
        ∀ program, pool.programs[place]? = some program → ∃ result, program = .done result) ∨
      ∃ before c next after, before.length = place ∧
        pool.programs = before ++ .call c next :: after ∧
        pool.step place = ⟨before ++ next (pool.forge.answer c) :: after,
          pool.forge.takeDown ⟨c, pool.forge.answer c⟩⟩ := by
  rw [step]
  cases hprogram : pool.programs[place]? with
  | none => exact .inl ⟨rfl, nofun⟩
  | some program =>
    cases program with
    | done result => exact .inl ⟨rfl, fun _ h => ⟨result, (Option.some.inj h).symm⟩⟩
    | call c next =>
      obtain ⟨hplace, hcall⟩ := List.getElem?_eq_some_iff.1 hprogram
      refine .inr ⟨pool.programs.take place, c, next, pool.programs.drop (place + 1), ?_, ?_, ?_⟩
      · exact List.length_take_of_le (Nat.le_of_lt hplace)
      · rw [← hcall, ← List.drop_eq_getElem_cons hplace, List.take_append_drop]
      · change Pool.mk (pool.programs.set place (next (perform c pool.forge).1))
          (perform c pool.forge).2 = _
        rw [perform_eq, List.set_eq_take_append_cons_drop, if_pos hplace]

/-- Between two states of a pool each program got the result that it has alone, and the forge took
down the exchanges that the programs have alone, shuffled. -/
structure RunsAlone (pool final : Pool α) : Prop where
  programs : final.programs = pool.programs.map fun program => .done (pool.forge.run program).1
  trace : ∃ trace, Shuffle (pool.programs.map (·.history perform pool.forge)) trace ∧
    final.forge = trace.foldl takeDown pool.forge

lemma HasEnded.runsAlone (h : pool.HasEnded) : RunsAlone pool pool := by
  have done : ∀ program ∈ pool.programs, ∃ result, program = .done result :=
    fun program hprogram => eq_done_of_isSome_result? (h program hprogram)
  refine ⟨?_, [], .nil ?_, rfl⟩
  · have same : pool.programs.map (fun program => .done (pool.forge.run program).1) =
        pool.programs.map id := by
      refine List.map_congr_left fun program hprogram => ?_
      obtain ⟨result, rfl⟩ := done program hprogram
      rfl
    rw [same, List.map_id]
  · intro exchanges hexchanges
    obtain ⟨program, hprogram, rfl⟩ := List.mem_map.1 hexchanges
    obtain ⟨result, rfl⟩ := done program hprogram
    rfl

lemma RunsAlone.of_step {place : Nat} {final : Pool α} (h : RunsAlone (pool.step place) final) :
    RunsAlone pool final := by
  rcases step_cases pool place with ⟨hnone, -⟩ | ⟨before, c, next, after, -, hpool, hstep⟩
  · rwa [hnone] at h
  · rw [hstep] at h
    obtain ⟨hprograms, trace, hshuffle, hforge⟩ := h
    -- The call changes nothing that the programs can notice, so all of them run as before it.
    have alike : GivenAlike (pool.forge.takeDown ⟨c, pool.forge.answer c⟩) pool.forge :=
      givenAlike_takeDown _ _
    have results (program : ForgeProgram α) := (run_of_givenAlike alike program).2
    have histories (program : ForgeProgram α) := (run_of_givenAlike alike program).1
    refine ⟨?_, ⟨c, pool.forge.answer c⟩ :: trace, ?_, hforge⟩
    · rw [hprograms, hpool]
      simp only [List.map_append, List.map_cons, run_call, results]
    · simp only [List.map_append, List.map_cons, histories] at hshuffle
      rw [hpool]
      simp only [List.map_append, List.map_cons, history_call, histories]
      exact .cons hshuffle

/-- When all programs of a pool have ended, each has the result that it has alone, and the forge has
taken down the exchanges that they have alone, shuffled. -/
theorem runsAlone_of_hasEnded (ended : (pool.play schedule).HasEnded) :
    RunsAlone pool (pool.play schedule) := by
  induction schedule generalizing pool with
  | nil => exact HasEnded.runsAlone ended
  | cons place schedule ih => exact (ih ended).of_step

/-! ## Turns -/

/-- A turn of a program brings it one call closer to its end, and changes nothing for the others. -/
lemma length_history_step {place other : Nat} {program : ForgeProgram α}
    (h : (pool.step place).programs[other]? = some program) :
    ∃ earlier, pool.programs[other]? = some earlier ∧
      (program.history perform (pool.step place).forge).length =
        (earlier.history perform pool.forge).length - [place].count other := by
  rcases step_cases pool place with ⟨hnone, hdone⟩ | ⟨before, c, next, after, rfl, hpool, hstep⟩
  · rw [hnone] at h ⊢
    refine ⟨program, h, ?_⟩
    by_cases hplace : other = place
    · obtain ⟨result, rfl⟩ := hdone program (hplace ▸ h)
      exact (Nat.zero_sub _).symm
    · rw [List.count_singleton, if_neg (by simpa using Ne.symm hplace), Nat.sub_zero]
  · rw [hstep] at h ⊢
    have alike : GivenAlike (pool.forge.takeDown ⟨c, pool.forge.answer c⟩) pool.forge :=
      givenAlike_takeDown _ _
    rw [(run_of_givenAlike alike program).1, hpool]
    by_cases hplace : other = before.length
    · subst hplace
      simp only [List.getElem?_append_right (Nat.le_refl _), Nat.sub_self, List.getElem?_cons_zero,
        Option.some.injEq] at h
      subst h
      refine ⟨.call c next, by simp, ?_⟩
      rw [history_call, (run_of_givenAlike alike _).1]
      simp
    · have others : (before ++ next (pool.forge.answer c) :: after) =
          (before ++ .call c next :: after).set before.length (next (pool.forge.answer c)) := by
        simp
      rw [others, List.getElem?_set_ne (Ne.symm hplace)] at h
      refine ⟨program, h, ?_⟩
      rw [List.count_singleton, if_neg (by simpa using Ne.symm hplace), Nat.sub_zero]

/-- Programs that have had as many turns as they have calls to make have ended. -/
theorem hasEnded_of_turns (turns : ∀ place program, pool.programs[place]? = some program →
    (program.history perform pool.forge).length ≤ schedule.count place) :
    (pool.play schedule).HasEnded := by
  induction schedule generalizing pool with
  | nil =>
    intro program hprogram
    obtain ⟨place, hplace⟩ := List.mem_iff_getElem?.1 hprogram
    have hlength := turns place program hplace
    cases program with
    | done result => rfl
    | call c next => simp [history] at hlength
  | cons place schedule ih =>
    refine ih fun other program hprogram => ?_
    obtain ⟨earlier, hearlier, hlength⟩ := length_history_step hprogram
    have hturns := turns other earlier hearlier
    rw [List.count_cons] at hturns
    rw [hlength, List.count_cons, List.count_nil]
    omega

/-! ## What the forge is left with -/

namespace RunsAlone

variable {final : Pool α} {order : List (ForgeProgram α)}

lemma exists_trace (h : RunsAlone pool final) (horder : order.Perm pool.programs) :
    ∃ trace : List Exchange, trace.Perm (order.flatMap (·.history perform pool.forge)) ∧
      final.forge = trace.foldl takeDown pool.forge := by
  obtain ⟨trace, hshuffle, hforge⟩ := h.trace
  refine ⟨trace, hshuffle.perm.trans ?_, hforge⟩
  exact (horder.flatMap_right _).symm

lemma comments_perm (h : RunsAlone pool final) (horder : order.Perm pool.programs) :
    final.forge.comments.Perm (inTurn order pool.forge).comments := by
  obtain ⟨trace, hperm, hforge⟩ := h.exists_trace horder
  rw [hforge, inTurn_eq, comments_foldl_takeDown, comments_foldl_takeDown]
  exact (hperm.flatMap_right commentsIn).append_left _

lemma mem_labels_iff (h : RunsAlone pool final) (horder : order.Perm pool.programs) (number : Nat)
    (label : String) : label ∈ final.forge.labels number ↔
      label ∈ (inTurn order pool.forge).labels number := by
  obtain ⟨trace, hperm, hforge⟩ := h.exists_trace horder
  rw [hforge, inTurn_eq, labels_foldl_takeDown, labels_foldl_takeDown, mem_mergeLabels,
    mem_mergeLabels, (hperm.flatMap_right (labelsIn number)).mem_iff]

lemma nodup_labels (h : RunsAlone pool final) {number : Nat}
    (distinct : (pool.forge.labels number).Nodup) : (final.forge.labels number).Nodup := by
  obtain ⟨trace, -, hforge⟩ := h.trace
  rw [hforge, labels_foldl_takeDown]
  exact nodup_mergeLabels distinct

/-- Where only one program writes to a pull request, that has the comments and the labels that the
program leaves alone. -/
lemma only_writer (h : RunsAlone pool final) {before after : List (ForgeProgram α)}
    {program : ForgeProgram α} (hpool : pool.programs = before ++ program :: after) {number : Nat}
    (silent : ∀ other ∈ before ++ after, ¬ WritesTo pool.forge other number) :
    final.forge.comments.filter (·.1 = number) =
        (pool.forge.run program).2.comments.filter (·.1 = number) ∧
      final.forge.labels number = (pool.forge.run program).2.labels number := by
  obtain ⟨trace, hshuffle, hforge⟩ := h.trace
  rw [hpool, List.map_append, List.map_cons] at hshuffle
  have nothing : ∀ exchanges ∈ before.map (·.history perform pool.forge) ++
      after.map (·.history perform pool.forge), ∀ exchange ∈ exchanges,
        (commentsIn exchange).filter (·.1 = number) = [] ∧ labelsIn number exchange = [] := by
    intro exchanges hexchanges exchange hexchange
    rw [← List.map_append] at hexchanges
    obtain ⟨other, hother, rfl⟩ := List.mem_map.1 hexchanges
    exact leaves_nothing fun hwrites => silent other hother ⟨exchange, hexchange, hwrites⟩
  rw [hforge, state_of_run, comments_foldl_takeDown, comments_foldl_takeDown,
    labels_foldl_takeDown, labels_foldl_takeDown, List.filter_append, List.filter_append,
    List.filter_flatMap, List.filter_flatMap]
  constructor
  · rw [hshuffle.flatMap_eq fun other hother exchange hexchange =>
      (nothing other hother exchange hexchange).1]
  · rw [hshuffle.flatMap_eq fun other hother exchange hexchange =>
      (nothing other hother exchange hexchange).2]

end RunsAlone

end Pool

end MemoryForge

end PullTriage
