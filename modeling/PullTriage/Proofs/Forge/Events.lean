import PullTriage.Proofs.Forge.Answers

/-!
# What a forge in memory has been through

A forge in memory starts empty.  Then it is given pull requests, comparisons and files, it gets
calls, and it is made to fail or not to fail, in any order: these are its events, and everything
that can be seen of the forge can be read off their list (`accounts_made`).

The calls are all remembered.  The comments and the labels are those of the calls that were not made
to fail (`passing`).  A call that is made to fail gets the error that was set last, and nothing but
the call is remembered.  Any other call is answered from what was given, where the last counts
(`AnswersFrom`).
-/

namespace PullTriage.MemoryForge

/-- What a forge can be given. -/
inductive Seed where
  | pullRequest (pr : PullRequest)
  | comparison (base head : String) (files : List ChangedFile)
  | file (path text : String)

/-- What can happen to a forge. -/
inductive Event where
  | give (seed : Seed)
  | call (c : ForgeCall)
  | failOn (method : ForgeMethod) (error : ForgeError)
  | clearFailure

variable {forge : MemoryForge} {seeds : List Seed} {events : List Event}

/-- Gives the forge something. -/
def give (forge : MemoryForge) : Seed → MemoryForge
  | .pullRequest pr => forge.withPullRequest pr
  | .comparison base head files => forge.withComparison base head files
  | .file path text => forge.withFile path text

/-- The state after an event. -/
def undergo (forge : MemoryForge) : Event → MemoryForge
  | .give seed => forge.give seed
  | .call c => (perform c forge).2
  | .failOn method error => forge.failOn method error
  | .clearFailure => forge.clearFailure

/-- The state after some events. -/
def undergoAll (forge : MemoryForge) (events : List Event) : MemoryForge :=
  events.foldl undergo forge

/-- The forge that these events have made. -/
def made (events : List Event) : MemoryForge :=
  undergoAll {} events

/-! ## What the events say -/

namespace Event

/-- What is given in an event. -/
def seed? : Event → Option Seed
  | give seed => some seed
  | _ => none

/-- The call in an event. -/
def call? : Event → Option ForgeCall
  | call c => some c
  | _ => none

/-- The failure that is set after an event, where `failure` was set before. -/
def set (failure : Option (ForgeMethod × ForgeError)) : Event → Option (ForgeMethod × ForgeError)
  | failOn method error => some (method, error)
  | clearFailure => none
  | _ => failure

/-- The call in an event, unless it is made to fail where `failure` is set. -/
def passing? (failure : Option (ForgeMethod × ForgeError)) : Event → Option ForgeCall
  | call c => if failure.any (·.1 = c.method) then none else some c
  | _ => none

end Event

/-- The failure that is set after some events. -/
def failureSet (events : List Event) : Option (ForgeMethod × ForgeError) :=
  events.foldl Event.set none

/-- The calls that are not made to fail, where `failure` is set at first. -/
def passing (failure : Option (ForgeMethod × ForgeError)) : List Event → List ForgeCall
  | [] => []
  | event :: events => (event.passing? failure).toList ++ passing (event.set failure) events

/-- The answer that a seed has for a call. -/
def Seed.answer? : Seed → (c : ForgeCall) → Option c.Answer
  | pullRequest pr, .getPullRequest number => if pr.number = number then some pr else none
  | comparison base head files, .compare base' head' =>
    if (base, head) = (base', head') then some files else none
  | file path text, .readTextFile path' => if path = path' then some text else none
  | _, _ => none

/-- What a call asks for, as a forge that does not have it says. -/
def subject? : ForgeCall → Option String
  | .getPullRequest number => some ("PR #" ++ toString number)
  | .compare base head => some ("comparison " ++ base ++ "..." ++ head)
  | .readTextFile path => some path
  | .createComment .. => none
  | .addLabels .. => none

/-- The reply to a call that is not made to fail: the answer of the last seed that has one, and
"not found" if none has.  A call that writes succeeds. -/
inductive AnswersFrom (seeds : List Seed) : (c : ForgeCall) → c.Reply → Prop
  | given {c : ForgeCall} {answer : c.Answer} {before after : List Seed} {seed : Seed}
      (among : seeds = before ++ seed :: after) (answers : seed.answer? c = some answer)
      (last : ∀ later ∈ after, later.answer? c = none) : AnswersFrom seeds c (.ok answer)
  | missing {c : ForgeCall} {subject : String} (reads : subject? c = some subject)
      (unanswered : ∀ seed ∈ seeds, seed.answer? c = none) :
      AnswersFrom seeds c (.error (.notFound subject))
  | written {c : ForgeCall} (writes : subject? c = none) (answer : c.Answer) :
      AnswersFrom seeds c (.ok answer)

/-! ## One event -/

lemma perform_of_fails {c : ForgeCall} {cause : ForgeError}
    (h : forge.failure = some (c.method, cause)) :
    perform c forge = (.error cause, { forge with calls := forge.calls ++ [c] }) := by
  rw [perform, failureOf?_eq_some_iff.2 h]

lemma perform_of_passes {c : ForgeCall} (h : ∀ cause, forge.failure ≠ some (c.method, cause)) :
    perform c forge = (forge.reply c, forge.remember c) := by
  have passes : forge.failureOf? c = none := by
    rw [Option.eq_none_iff_forall_ne_some]
    exact fun cause hcause => h cause (failureOf?_eq_some_iff.1 hcause)
  rw [perform, passes]
  rfl

/-- A call is made to fail, and only taken down, or it passes and is remembered. -/
lemma undergo_call_cases (forge : MemoryForge) (c : ForgeCall) :
    (Event.passing? forge.failure (.call c) = none ∧
        forge.undergo (.call c) = { forge with calls := forge.calls ++ [c] }) ∨
      (Event.passing? forge.failure (.call c) = some c ∧
        forge.undergo (.call c) = forge.remember c) := by
  by_cases hfails : ∃ cause, forge.failure = some (c.method, cause)
  · obtain ⟨cause, hcause⟩ := hfails
    left
    have made := perform_of_fails hcause
    exact ⟨by simp [Event.passing?, hcause], congrArg Prod.snd made⟩
  · have hpasses : ∀ cause, forge.failure ≠ some (c.method, cause) :=
      fun cause hcause => hfails ⟨cause, hcause⟩
    right
    refine ⟨?_, congrArg Prod.snd (perform_of_passes hpasses)⟩
    cases hfailure : forge.failure with
    | none => rfl
    | some failure =>
      have hmethod : failure.1 ≠ c.method := by
        intro heq
        exact hpasses failure.2 (by rw [hfailure, ← heq])
      simp [Event.passing?, hmethod]

lemma lookup_cons_eq {κ β : Type} [BEq κ] [LawfulBEq κ] [DecidableEq κ] (key other : κ) (value : β)
    (l : List (κ × β)) : List.lookup other ((key, value) :: l) =
      if key = other then some value else l.lookup other := by
  by_cases h : key = other
  · simp [h]
  · rw [List.lookup_cons, beq_false_of_ne (Ne.symm h), if_neg h]

/-- What is given last counts. -/
lemma reply_give (forge : MemoryForge) (seed : Seed) (c : ForgeCall) :
    (forge.give seed).reply c =
      match seed.answer? c with
      | some answer => .ok answer
      | none => forge.reply c := by
  cases seed with
  | pullRequest pr =>
    cases c with
    | getPullRequest number =>
      rw [give, withPullRequest, reply, lookup_cons_eq, Seed.answer?]
      by_cases h : pr.number = number
      · rw [if_pos h, if_pos h]
      · rw [if_neg h, if_neg h, reply]
    | _ => rfl
  | comparison base head files =>
    cases c with
    | compare base' head' =>
      rw [give, withComparison, reply, lookup_cons_eq, Seed.answer?]
      by_cases h : (base, head) = (base', head')
      · rw [if_pos h, if_pos h]
      · rw [if_neg h, if_neg h, reply]
    | _ => rfl
  | file path text =>
    cases c with
    | readTextFile path' =>
      rw [give, withFile, reply, lookup_cons_eq, Seed.answer?]
      by_cases h : path = path'
      · rw [if_pos h, if_pos h]
      · rw [if_neg h, if_neg h, reply]
    | _ => rfl

/-- What an event changes. -/
structure Changes (forge : MemoryForge) (event : Event) (after : MemoryForge) : Prop where
  failure : after.failure = event.set forge.failure
  calls : after.calls = forge.calls ++ event.call?.toList
  comments : after.comments =
    forge.comments ++ (event.passing? forge.failure).toList.filterMap commentOf?
  labels : ∀ number, after.labels number = mergeLabels (forge.labels number)
    ((event.passing? forge.failure).toList.flatMap (addedTo number))
  reply : ∀ c, after.reply c =
    match event.seed?.bind (·.answer? c) with
    | some answer => .ok answer
    | none => forge.reply c

lemma changes_undergo (forge : MemoryForge) (event : Event) :
    Changes forge event (forge.undergo event) := by
  have nothing {α : Type} (l : List α) : l = l ++ [] := (List.append_nil l).symm
  cases event with
  | give seed =>
    refine ⟨?_, ?_, ?_, fun number => ?_, reply_give forge seed⟩
    · cases seed <;> rfl
    · cases seed <;> exact nothing _
    · cases seed <;> exact nothing _
    · cases seed <;> rfl
  | call c =>
    rcases undergo_call_cases forge c with ⟨hpassing, h⟩ | ⟨hpassing, h⟩
    · rw [h]
      refine ⟨rfl, rfl, ?_, fun number => ?_, fun c => ?_⟩
      · rw [hpassing]
        exact nothing _
      · rw [hpassing]
        rfl
      · exact reply_of_givenAlike ⟨rfl, rfl, rfl, rfl⟩ c
    · have given := givenAlike_remember forge c
      rw [h]
      refine ⟨given.failure, calls_remember forge c, ?_, fun number => ?_, fun c => ?_⟩
      · rw [hpassing, comments_remember, Option.toList_some, List.filterMap_cons]
        cases commentOf? c <;> rfl
      · rw [hpassing, labels_remember, Option.toList_some, List.flatMap_singleton]
      · exact reply_of_givenAlike given c
  | failOn method error =>
    exact ⟨rfl, nothing _, nothing _, fun _ => rfl, fun c => by cases c <;> rfl⟩
  | clearFailure =>
    exact ⟨rfl, nothing _, nothing _, fun _ => rfl, fun c => by cases c <;> rfl⟩

/-! ## All events -/

lemma failure_undergoAll (forge : MemoryForge) (events : List Event) :
    (forge.undergoAll events).failure = events.foldl Event.set forge.failure := by
  induction events generalizing forge with
  | nil => rfl
  | cons event events ih =>
    have step := changes_undergo forge event
    rw [List.foldl_cons, ← step.failure]
    exact ih (forge.undergo event)

lemma calls_undergoAll (forge : MemoryForge) (events : List Event) :
    (forge.undergoAll events).calls = forge.calls ++ events.filterMap Event.call? := by
  rw [List.filterMap_eq_flatMap_toList]
  exact view_foldl_append MemoryForge.calls (fun forge event => (changes_undergo forge event).calls)
    forge events

/-- Where each event puts the parts of the call that passes behind what can be seen, many events put
there the parts of all calls that pass. -/
lemma view_undergoAll {β : Type} (view : MemoryForge → List β) {put : List β → List β → List β}
    (put_nil : ∀ seen, put seen [] = seen)
    (put_append : ∀ seen part more, put seen (part ++ more) = put (put seen part) more)
    {part : ForgeCall → List β}
    (view_undergo : ∀ forge event, view (undergo forge event) =
      put (view forge) ((event.passing? forge.failure).toList.flatMap part))
    (forge : MemoryForge) (events : List Event) : view (forge.undergoAll events) =
      put (view forge) ((passing forge.failure events).flatMap part) := by
  induction events generalizing forge with
  | nil => exact (put_nil _).symm
  | cons event events ih =>
    have rest := ih (forge.undergo event)
    rw [view_undergo, (changes_undergo forge event).failure, ← put_append,
      ← List.flatMap_append] at rest
    exact rest

lemma comments_undergoAll (forge : MemoryForge) (events : List Event) :
    (forge.undergoAll events).comments =
      forge.comments ++ (passing forge.failure events).filterMap commentOf? := by
  rw [List.filterMap_eq_flatMap_toList]
  refine view_undergoAll MemoryForge.comments List.append_nil
    (fun _ _ _ => (List.append_assoc _ _ _).symm) (fun forge event => ?_) forge events
  rw [(changes_undergo forge event).comments, List.filterMap_eq_flatMap_toList]

lemma labels_undergoAll (forge : MemoryForge) (events : List Event) (number : Nat) :
    (forge.undergoAll events).labels number = mergeLabels (forge.labels number)
      ((passing forge.failure events).flatMap (addedTo number)) :=
  view_undergoAll (fun forge => forge.labels number) (fun _ => rfl) mergeLabels_append
    (fun forge event => (changes_undergo forge event).labels number) forge events

/-- The labels of a forge stand where they were added first, and none of them stands twice. -/
lemma labels_made (events : List Event) (number : Nat) : (made events).labels number =
    ((passing none events).flatMap (addedTo number)).eraseDups := by
  refine (labels_undergoAll {} events number).trans ?_
  rw [mergeLabels_eq]
  simp [labels]

lemma nodup_labels_made (events : List Event) (number : Nat) :
    ((made events).labels number).Nodup := by
  rw [labels_made]
  exact Distinct.nodup_eraseDups _

lemma answersFrom_nil (c : ForgeCall) : AnswersFrom [] c (reply {} c) := by
  cases c with
  | getPullRequest number => exact .missing rfl nofun
  | compare base head => exact .missing rfl nofun
  | readTextFile path => exact .missing rfl nofun
  | createComment number body => exact .written rfl _
  | addLabels number labels => exact .written rfl _

/-- A seed with no answer to a call changes nothing about it. -/
lemma AnswersFrom.append {c : ForgeCall} {reply : c.Reply} (h : AnswersFrom seeds c reply)
    {seed : Seed} (hseed : seed.answer? c = none) : AnswersFrom (seeds ++ [seed]) c reply := by
  cases h with
  | @given answer before after found among answers last =>
    have more : seeds ++ [seed] = before ++ found :: (after ++ [seed]) := by
      rw [among, List.append_assoc, List.cons_append]
    refine .given more answers fun later hlater => ?_
    rcases List.mem_append.1 hlater with hafter | hlast
    · exact last later hafter
    · exact List.mem_singleton.1 hlast ▸ hseed
  | missing reads unanswered =>
    refine .missing reads fun other hother => ?_
    rcases List.mem_append.1 hother with hbefore | hlast
    · exact unanswered other hbefore
    · exact List.mem_singleton.1 hlast ▸ hseed
  | written writes answer => exact .written writes answer

/-- The forge answers from what it was given, whatever else has happened to it. -/
lemma answersFrom_made (events : List Event) (c : ForgeCall) :
    AnswersFrom (events.filterMap Event.seed?) c ((made events).reply c) := by
  induction events using List.reverseRecOn with
  | nil => exact answersFrom_nil c
  | append_singleton events event ih =>
    have last : made (events ++ [event]) = (made events).undergo event := List.foldl_append
    rw [last, (changes_undergo (made events) event).reply, List.filterMap_append]
    cases hseed : event.seed? with
    | none =>
      rw [List.filterMap_cons_none hseed, List.filterMap_nil, List.append_nil]
      exact ih
    | some seed =>
      rw [List.filterMap_cons_some hseed, List.filterMap_nil, Option.bind_some]
      cases hanswer : seed.answer? c with
      | none => exact ih.append hanswer
      | some answer => exact .given rfl hanswer nofun

/-! ## The account -/

/-- What can be seen of a forge, as its events account for it. -/
structure Accounts (events : List Event) (forge : MemoryForge) : Prop where
  /-- Every call is remembered. -/
  calls : forge.calls = events.filterMap Event.call?
  /-- The comments are those of the calls that were not made to fail. -/
  comments : forge.comments = (passing none events).filterMap commentOf?
  /-- So are the labels, and each stands where it came first. -/
  labels : ∀ number, forge.labels number =
    ((passing none events).flatMap (addedTo number)).eraseDups
  /-- A call that is made to fail gets the error that is set, and only the call is remembered. -/
  fails : ∀ c cause, failureSet events = some (c.method, cause) →
    perform c forge = (.error cause, { forge with calls := forge.calls ++ [c] })
  /-- Any other call is answered from what was given. -/
  answers : ∀ c, (∀ cause, failureSet events ≠ some (c.method, cause)) →
    AnswersFrom (events.filterMap Event.seed?) c (perform c forge).1

/-- All that can be seen of a forge is what its events account for. -/
theorem accounts_made (events : List Event) : Accounts events (made events) := by
  have failure : (made events).failure = failureSet events := failure_undergoAll {} events
  refine ⟨calls_undergoAll {} events, comments_undergoAll {} events, labels_made events,
    fun c cause hfails => ?_, fun c hpasses => ?_⟩
  · exact perform_of_fails (failure.trans hfails)
  · rw [perform_of_passes (fun cause => failure ▸ hpasses cause)]
    exact answersFrom_made events c

example : (made [.failOn .addLabels .rateLimited, .call (.addLabels 1 ["x"]), .clearFailure,
    .call (.addLabels 1 ["b", "a", "b"]), .call (.addLabels 1 ["a", "c"])]).labels 1 =
      ["b", "a", "c"] := by decide +kernel

end PullTriage.MemoryForge
