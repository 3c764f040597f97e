import PullTriage.Proofs.Forge.Course
import PullTriage.Proofs.Forge.Memory
import Mathlib.Data.List.Basic

/-!
# Runs on a forge in memory

What a forge in memory replies to a call is settled by what it was given and by the failure that it
is made to have, and no call changes these.  So in a run every call gets the reply that it would
have got at the start (`reply_of_mem_history`), and two runs from states that were given alike go
the same way (`run_of_givenAlike`), whatever has been written in between.

What a run leaves behind is what its exchanges leave behind, one after the other
(`state_of_run`): a call that fails is taken down and writes nothing, and so is a call that only
reads (`state_of_writesNothing`).
-/

namespace PullTriage.MemoryForge

open ForgeProgram

variable {α : Type} {forge forge' : MemoryForge}

/-! ## One call -/

/-- The reply to a call. -/
def answer (forge : MemoryForge) (call : ForgeCall) : call.Reply :=
  (perform call forge).1

lemma answer_eq_ok_iff {call : ForgeCall} {answer : call.Answer} :
    forge.answer call = .ok answer ↔
      forge.failureOf? call = none ∧ forge.reply call = .ok answer := by
  rw [MemoryForge.answer, perform]
  cases forge.failureOf? call with
  | some cause => simp
  | none => simp

lemma answer_eq_error_iff {call : ForgeCall} {cause : ForgeError} :
    forge.answer call = .error cause ↔ forge.failureOf? call = some cause ∨
      forge.failureOf? call = none ∧ forge.reply call = .error cause := by
  rw [answer, perform]
  cases forge.failureOf? call with
  | some cause' => simp
  | none => simp

lemma reply_compare_eq_ok_iff {base head : String} {files : List ChangedFile} :
    forge.reply (.compare base head) = .ok files ↔
      forge.comparisons.lookup (base, head) = some files := by
  rw [reply]
  cases forge.comparisons.lookup (base, head) with
  | none => exact ⟨nofun, nofun⟩
  | some found => exact ⟨fun h => congrArg some (Except.ok.inj h), fun h => by cases h; rfl⟩

lemma reply_readTextFile_eq_ok_iff {path text : String} :
    forge.reply (.readTextFile path) = .ok text ↔ forge.files.lookup path = some text := by
  rw [reply]
  cases forge.files.lookup path with
  | none => exact ⟨nofun, nofun⟩
  | some found => exact ⟨fun h => congrArg some (Except.ok.inj h), fun h => by cases h; rfl⟩

lemma failureOf?_eq_some_iff {call : ForgeCall} {cause : ForgeError} :
    forge.failureOf? call = some cause ↔ forge.failure = some (call.method, cause) := by
  rw [failureOf?]
  cases forge.failure with
  | none => simp
  | some failure =>
    obtain ⟨method, error⟩ := failure
    by_cases h : method = call.method <;> simp [h]

/-- The state after an exchange; a call that fails is taken down and nothing else. -/
def takeDown (forge : MemoryForge) (exchange : Exchange) : MemoryForge :=
  match exchange.reply with
  | .ok _ => forge.remember exchange.call
  | .error _ => { forge with calls := forge.calls ++ [exchange.call] }

lemma takeDown_reply (forge : MemoryForge) (call : ForgeCall) :
    forge.takeDown ⟨call, forge.reply call⟩ = forge.remember call := by
  rw [takeDown]
  cases hreply : forge.reply call with
  | ok answer => rfl
  | error cause =>
    -- Without a failure only reading gives an error, and to remember it changes nothing else.
    cases call with
    | createComment number body => cases hreply
    | addLabels number labels => cases hreply
    | _ => rfl

/-- A call gets its reply, and the exchange is taken down. -/
theorem perform_eq (call : ForgeCall) (forge : MemoryForge) :
    perform call forge = (forge.answer call, forge.takeDown ⟨call, forge.answer call⟩) := by
  rw [answer, perform]
  cases forge.failureOf? call with
  | some cause => rfl
  | none => exact congrArg (Prod.mk _) (forge.takeDown_reply call).symm

lemma reply_of_givenAlike (h : GivenAlike forge forge') (call : ForgeCall) :
    forge.reply call = forge'.reply call := by
  cases call with
  | getPullRequest number => rw [reply, h.pullRequests, reply]
  | compare base head => rw [reply, h.comparisons, reply]
  | readTextFile path => rw [reply, h.files, reply]
  | _ => rfl

lemma answer_of_givenAlike (h : GivenAlike forge forge') : forge.answer = forge'.answer := by
  funext call
  have failures : forge.failureOf? call = forge'.failureOf? call := by
    rw [failureOf?, h.failure, failureOf?]
  rw [answer, answer, perform, perform, failures]
  cases forge'.failureOf? call with
  | some cause => rfl
  | none => exact reply_of_givenAlike h call

lemma givenAlike_takeDown (forge : MemoryForge) (exchange : Exchange) :
    GivenAlike (forge.takeDown exchange) forge := by
  rw [takeDown]
  cases exchange.reply with
  | ok answer => exact givenAlike_remember forge exchange.call
  | error cause => exact ⟨rfl, rfl, rfl, rfl⟩

/-! ## A run -/

lemma run_call (c : ForgeCall) (next : c.Reply → ForgeProgram α) (forge : MemoryForge) :
    forge.run (.call c next) =
      (forge.takeDown ⟨c, forge.answer c⟩).run (next (forge.answer c)) := by
  change (next (perform c forge).1).run perform (perform c forge).2 = _
  rw [perform_eq]
  rfl

lemma history_call (c : ForgeCall) (next : c.Reply → ForgeProgram α) (forge : MemoryForge) :
    (ForgeProgram.call c next).history perform forge =
      ⟨c, forge.answer c⟩ ::
        (next (forge.answer c)).history perform (forge.takeDown ⟨c, forge.answer c⟩) := by
  rw [history, perform_eq]

/-- The state after a run is what its exchanges leave behind. -/
theorem state_of_run (program : ForgeProgram α) (forge : MemoryForge) :
    (forge.run program).2 = (program.history perform forge).foldl takeDown forge := by
  induction program generalizing forge with
  | done result => rfl
  | call c next ih => rw [run_call, history_call, List.foldl_cons, ih]

lemma calls_takeDown (forge : MemoryForge) (exchange : Exchange) :
    (forge.takeDown exchange).calls = forge.calls ++ [exchange.call] := by
  rw [takeDown]
  cases exchange.reply with
  | ok answer => exact calls_remember forge exchange.call
  | error cause => rfl

/-- The comment that an exchange leaves behind. -/
def commentsIn (exchange : Exchange) : List (Nat × String) :=
  match exchange.reply with
  | .ok _ => (commentOf? exchange.call).toList
  | .error _ => []

/-- The labels that an exchange adds to a pull request. -/
def labelsIn (number : Nat) (exchange : Exchange) : List String :=
  match exchange.reply with
  | .ok _ => addedTo number exchange.call
  | .error _ => []

lemma comments_takeDown (forge : MemoryForge) (exchange : Exchange) :
    (forge.takeDown exchange).comments = forge.comments ++ commentsIn exchange := by
  rw [takeDown, commentsIn]
  cases exchange.reply with
  | ok answer => exact comments_remember forge exchange.call
  | error cause => exact (List.append_nil _).symm

lemma labels_takeDown (forge : MemoryForge) (exchange : Exchange) (number : Nat) :
    (forge.takeDown exchange).labels number =
      mergeLabels (forge.labels number) (labelsIn number exchange) := by
  rw [takeDown, labelsIn]
  cases exchange.reply with
  | ok answer => exact labels_remember forge exchange.call number
  | error cause => rfl

/-- The comments that some exchanges leave behind stand in the order of the exchanges. -/
lemma comments_foldl_takeDown (forge : MemoryForge) (trace : List Exchange) :
    (trace.foldl takeDown forge).comments = forge.comments ++ trace.flatMap commentsIn :=
  view_foldl_append MemoryForge.comments comments_takeDown forge trace

/-- The labels that some exchanges add to a pull request are merged into those it has. -/
lemma labels_foldl_takeDown (forge : MemoryForge) (trace : List Exchange) (number : Nat) :
    (trace.foldl takeDown forge).labels number =
      mergeLabels (forge.labels number) (trace.flatMap (labelsIn number)) :=
  view_foldl (fun forge => forge.labels number) (fun _ => rfl) mergeLabels_append
    (fun forge exchange => labels_takeDown forge exchange number) forge trace

/-- A run changes nothing that the forge was given. -/
lemma givenAlike_run (program : ForgeProgram α) (forge : MemoryForge) :
    GivenAlike (forge.run program).2 forge := by
  induction program generalizing forge with
  | done result => exact .refl forge
  | call c next ih =>
    rw [run_call]
    exact (ih _ _).trans (givenAlike_takeDown forge _)

/-- Every call of a run is taken down. -/
theorem calls_of_run (program : ForgeProgram α) (forge : MemoryForge) :
    (forge.run program).2.calls =
      forge.calls ++ (program.history perform forge).map (·.call) := by
  have hcalls := view_foldl_append MemoryForge.calls calls_takeDown forge
    (program.history perform forge)
  rw [← List.map_eq_flatMap] at hcalls
  rw [state_of_run, hcalls]

/-- Every call of a run gets the reply that it would have got at the start. -/
theorem reply_of_mem_history {program : ForgeProgram α} {exchange : Exchange}
    (h : exchange ∈ program.history perform forge) :
    exchange.reply = forge.answer exchange.call := by
  induction program generalizing forge with
  | done result => cases h
  | call c next ih =>
    rw [history_call] at h
    rcases List.mem_cons.1 h with rfl | hrest
    · rfl
    · rw [ih _ hrest, answer_of_givenAlike (givenAlike_takeDown forge ⟨c, forge.answer c⟩)]

/-- Runs from states that were given alike go the same way. -/
theorem run_of_givenAlike (h : GivenAlike forge forge') (program : ForgeProgram α) :
    program.history perform forge = program.history perform forge' ∧
      (forge.run program).1 = (forge'.run program).1 := by
  induction program generalizing forge forge' with
  | done result => exact ⟨rfl, rfl⟩
  | call c next ih =>
    have after : GivenAlike (forge.takeDown ⟨c, forge.answer c⟩)
        (forge'.takeDown ⟨c, forge.answer c⟩) :=
      (givenAlike_takeDown forge _).trans (h.trans (givenAlike_takeDown forge' _).symm)
    rw [run_call, run_call, history_call, history_call, ← answer_of_givenAlike h]
    obtain ⟨hhistory, hresult⟩ := ih (forge.answer c) after
    exact ⟨congrArg _ hhistory, hresult⟩

/-- If all calls of a run succeed, they are remembered. -/
theorem state_of_succeeds {program : ForgeProgram α}
    (h : ∀ exchange ∈ program.history perform forge, exchange.Succeeds) :
    (forge.run program).2 =
      forge.rememberAll ((program.history perform forge).map (·.call)) := by
  rw [state_of_run, rememberAll, List.foldl_map]
  refine List.foldl_ext _ _ _ fun forge exchange hmem => ?_
  obtain ⟨answer, hanswer⟩ := h exchange hmem
  rw [takeDown, hanswer]

/-! ## A run that writes nothing -/

/-- The call is neither a comment nor labels. -/
def WritesNothing (call : ForgeCall) : Prop :=
  call.method ≠ .createComment ∧ call.method ≠ .addLabels

/-- A call that writes fails only if it is made to fail. -/
lemma failure_of_writes {call : ForgeCall} {cause : ForgeError}
    (h : forge.answer call = .error cause) (hwrites : ¬ WritesNothing call) :
    forge.failure = some (call.method, cause) := by
  rcases answer_eq_error_iff.1 h with hfailure | ⟨-, hreply⟩
  · exact failureOf?_eq_some_iff.1 hfailure
  · cases call with
    | createComment number body => cases hreply
    | addLabels number labels => cases hreply
    | _ => exact absurd ⟨nofun, nofun⟩ hwrites

lemma takeDown_of_writesNothing {exchange : Exchange} (h : WritesNothing exchange.call) :
    forge.takeDown exchange = { forge with calls := forge.calls ++ [exchange.call] } := by
  obtain ⟨call, reply⟩ := exchange
  obtain ⟨hcomment, hlabels⟩ := h
  cases reply with
  | error cause => rfl
  | ok answer =>
    cases call with
    | createComment number body => exact absurd rfl hcomment
    | addLabels number labels => exact absurd rfl hlabels
    | _ => rfl

/-- If no call of a run writes, they are taken down and nothing else. -/
theorem state_of_writesNothing {program : ForgeProgram α}
    (h : ∀ exchange ∈ program.history perform forge, WritesNothing exchange.call) :
    (forge.run program).2 =
      { forge with calls := forge.calls ++ (program.history perform forge).map (·.call) } := by
  rw [state_of_run]
  generalize program.history perform forge = history at h
  induction history generalizing forge with
  | nil => rw [List.map_nil, List.append_nil]; rfl
  | cons exchange history ih =>
    obtain ⟨hhead, hrest⟩ := List.forall_mem_cons.1 h
    rw [List.foldl_cons, takeDown_of_writesNothing hhead, ih hrest, List.map_cons,
      List.append_assoc, List.singleton_append]

end PullTriage.MemoryForge
