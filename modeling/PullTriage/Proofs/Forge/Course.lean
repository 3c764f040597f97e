import PullTriage.Forge.Basic
import Mathlib.Tactic.Lemma

/-!
# Courses of a program

A program that runs on a forge makes calls and gets a reply to each.  `Course` says which calls,
which replies and which result go together, whatever forge gives the replies: it is the tree of the
program, read along one branch.

A forge is anything that performs calls and may change its state by it.  `history` is what a program
and such a forge say to each other in a run, and a forge that takes down every exchange ends up with
it (`run_recorded`).  Every history is a course of the program, with the result of the run
(`course_history`), so what holds of all courses holds on every forge.  One program that goes on as
another one runs as the two, one after the other (`run_bind`).
-/

namespace PullTriage

/-- A call and the reply to it. -/
structure Exchange where
  call : ForgeCall
  reply : call.Reply

/-- The call gave an answer. -/
def Exchange.Succeeds (exchange : Exchange) : Prop :=
  ∃ answer, exchange.reply = .ok answer

@[simp] lemma Exchange.succeeds_ok (c : ForgeCall) (answer : c.Answer) :
    (⟨c, .ok answer⟩ : Exchange).Succeeds :=
  ⟨answer, rfl⟩

@[simp] lemma Exchange.not_succeeds_error (c : ForgeCall) (cause : ForgeError) :
    ¬ (⟨c, .error cause⟩ : Exchange).Succeeds := by
  rintro ⟨answer, ⟨⟩⟩

namespace ForgeProgram

variable {α β σ : Type}

/-- The program makes these calls when they get these replies, and ends with the result. -/
inductive Course : ForgeProgram α → List Exchange → α → Prop
  | done (result : α) : Course (.done result) [] result
  | call (c : ForgeCall) (next : c.Reply → ForgeProgram α) (reply : c.Reply)
      {history : List Exchange} {result : α} (rest : Course (next reply) history result) :
      Course (.call c next) (⟨c, reply⟩ :: history) result

lemma course_done_iff {value result : α} {history : List Exchange} :
    (done value).Course history result ↔ history = [] ∧ result = value := by
  constructor
  · rintro ⟨⟩
    exact ⟨rfl, rfl⟩
  · rintro ⟨rfl, rfl⟩
    exact .done result

lemma course_call_iff {c : ForgeCall} {next : c.Reply → ForgeProgram α} {result : α}
    {history : List Exchange} :
    (call c next).Course history result ↔
      ∃ reply rest, history = ⟨c, reply⟩ :: rest ∧ (next reply).Course rest result := by
  constructor
  · rintro ⟨⟩
    exact ⟨_, _, rfl, ‹_›⟩
  · rintro ⟨reply, rest, rfl, h⟩
    exact .call c next reply h

/-- The exchanges of a run on a forge, from a state of it. -/
def history (perform : (c : ForgeCall) → StateM σ c.Reply) : ForgeProgram α → σ → List Exchange
  | done _, _ => []
  | call c next, state =>
    ⟨c, (perform c state).1⟩ ::
      (next (perform c state).1).history perform (perform c state).2

/-- Performs a call and takes down the exchange. -/
def recorded (perform : (c : ForgeCall) → StateM σ c.Reply) (c : ForgeCall) :
    StateM (σ × List Exchange) c.Reply := fun (state, taken) =>
  let (reply, state) := perform c state
  (reply, state, taken ++ [⟨c, reply⟩])

/-- A forge that takes down every exchange runs a program as without that, and the history of the
run is what it adds. -/
theorem run_recorded (perform : (c : ForgeCall) → StateM σ c.Reply) (program : ForgeProgram α)
    (state : σ) (taken : List Exchange) :
    program.run (recorded perform) (state, taken) =
      ((program.run perform state).1, (program.run perform state).2,
        taken ++ program.history perform state) := by
  induction program generalizing state taken with
  | done result => simp only [history, List.append_nil]; rfl
  | call c next ih =>
    have rest := ih (perform c state).1 (perform c state).2
      (taken ++ [⟨c, (perform c state).1⟩])
    rw [List.append_assoc] at rest
    exact rest

/-- The history of a run is a course of the program. -/
theorem course_history (perform : (c : ForgeCall) → StateM σ c.Reply) (program : ForgeProgram α)
    (state : σ) :
    program.Course (program.history perform state) (program.run perform state).1 := by
  induction program generalizing state with
  | done result => exact .done result
  | call c next ih => exact .call c next _ (ih _ _)

/-- Every reply in the history of a run is what the forge said in some state of it. -/
lemma exists_reply_eq_of_mem_history {perform : (c : ForgeCall) → StateM σ c.Reply}
    {program : ForgeProgram α} {state : σ} {c : ForgeCall} {reply : c.Reply}
    (h : ⟨c, reply⟩ ∈ program.history perform state) :
    ∃ state', reply = (perform c state').1 := by
  induction program generalizing state with
  | done result => cases h
  | call asked next ih =>
    rcases List.mem_cons.1 h with heq | hmem
    · cases heq
      exact ⟨state, rfl⟩
    · exact ih _ hmem

/-- A program that goes on as another one runs as the two, one after the other. -/
theorem run_bind (perform : (c : ForgeCall) → StateM σ c.Reply) (program : ForgeProgram α)
    (f : α → ForgeProgram β) (state : σ) :
    (program.bind f).run perform state =
      (f (program.run perform state).1).run perform (program.run perform state).2 := by
  induction program generalizing state with
  | done result => rfl
  | call c next ih => exact ih (perform c state).1 (perform c state).2

end ForgeProgram

end PullTriage
