import PullTriage.Forge.Memory
import PullTriage.Proofs.Distinct

/-!
# What a forge in memory remembers

As long as no call is made to fail, a forge in memory replies from what it was given, and takes down
each call and what it writes.  So after some calls its state is where these calls lead
(`rememberAll`): what it was given is unchanged, the calls and the comments stand behind those that
were there, and each pull request has the labels that it had with those added to it.

To add labels is to put those that are not there behind those that are (`mergeLabels_eq`).
-/

namespace PullTriage.MemoryForge

/-- Where each step puts its part behind what can be seen, many steps put all their parts there. -/
lemma view_foldl {σ ι β : Type} (view : σ → List β) {put : List β → List β → List β}
    (put_nil : ∀ seen, put seen [] = seen)
    (put_append : ∀ seen part more, put seen (part ++ more) = put (put seen part) more)
    {step : σ → ι → σ} {part : ι → List β}
    (view_step : ∀ state i, view (step state i) = put (view state) (part i)) (state : σ)
    (l : List ι) : view (l.foldl step state) = put (view state) (l.flatMap part) := by
  induction l generalizing state with
  | nil => exact (put_nil _).symm
  | cons i l ih => rw [List.foldl_cons, ih, view_step, List.flatMap_cons, put_append]

lemma view_foldl_append {σ ι β : Type} (view : σ → List β) {step : σ → ι → σ} {part : ι → List β}
    (view_step : ∀ state i, view (step state i) = view state ++ part i) (state : σ) (l : List ι) :
    view (l.foldl step state) = view state ++ l.flatMap part :=
  view_foldl view List.append_nil (fun _ _ _ => (List.append_assoc _ _ _).symm) view_step state l

variable (forge : MemoryForge) (call : ForgeCall) (calls : List ForgeCall)

/-- The state after a call that is not made to fail. -/
def remember : MemoryForge :=
  { forge with calls := forge.calls ++ [call] }.apply call

/-- The comment that a call writes, and where. -/
def commentOf? : ForgeCall → Option (Nat × String)
  | .createComment number body => some (number, body)
  | _ => none

/-- The labels that a call adds to a pull request. -/
def addedTo (number : Nat) : ForgeCall → List String
  | .addLabels labeled labels => if number = labeled then labels else []
  | _ => []

/-- The forges were given the same, and the same calls are made to fail. -/
structure GivenAlike (forge forge' : MemoryForge) : Prop where
  pullRequests : forge.pullRequests = forge'.pullRequests
  comparisons : forge.comparisons = forge'.comparisons
  files : forge.files = forge'.files
  failure : forge.failure = forge'.failure

lemma GivenAlike.refl : GivenAlike forge forge :=
  ⟨rfl, rfl, rfl, rfl⟩

lemma GivenAlike.symm {forge forge' : MemoryForge} (h : GivenAlike forge forge') :
    GivenAlike forge' forge :=
  ⟨h.pullRequests.symm, h.comparisons.symm, h.files.symm, h.failure.symm⟩

lemma GivenAlike.trans {forge forge' forge'' : MemoryForge} (h : GivenAlike forge forge')
    (h' : GivenAlike forge' forge'') : GivenAlike forge forge'' :=
  ⟨h.pullRequests.trans h'.pullRequests, h.comparisons.trans h'.comparisons,
    h.files.trans h'.files, h.failure.trans h'.failure⟩

lemma givenAlike_remember : GivenAlike (forge.remember call) forge := by
  cases call <;> exact ⟨rfl, rfl, rfl, rfl⟩

@[simp] lemma calls_remember : (forge.remember call).calls = forge.calls ++ [call] := by
  cases call <;> rfl

@[simp] lemma comments_remember :
    (forge.remember call).comments = forge.comments ++ (commentOf? call).toList := by
  cases call <;> simp [remember, apply, commentOf?]

lemma mergeLabels_append (labels added more : List String) :
    mergeLabels labels (added ++ more) = mergeLabels (mergeLabels labels added) more :=
  List.foldl_append

@[simp] lemma labels_remember (number : Nat) :
    (forge.remember call).labels number =
      mergeLabels (forge.labels number) (addedTo number call) := by
  cases call with
  | addLabels labeled added =>
    rw [remember, apply, addedTo, labels, List.lookup_cons]
    by_cases h : number = labeled
    · subst h
      simp [labels]
    · rw [if_neg h, beq_false_of_ne h]
      rfl
  | _ => rfl

/-- The state after some calls that are not made to fail. -/
def rememberAll : MemoryForge :=
  calls.foldl remember forge

variable {forge call calls}

lemma rememberAll_concat : forge.rememberAll (calls ++ [call]) =
    (forge.rememberAll calls).remember call := by
  rw [rememberAll, List.foldl_append]
  rfl

/-- What the forge was given is unchanged. -/
lemma givenAlike_rememberAll (forge : MemoryForge) (calls : List ForgeCall) :
    GivenAlike (forge.rememberAll calls) forge := by
  induction calls generalizing forge with
  | nil => exact .refl forge
  | cons call calls ih => exact (ih (forge.remember call)).trans (givenAlike_remember forge call)

/-- The calls and the comments stand behind those before. -/
lemma remembered_rememberAll (forge : MemoryForge) (calls : List ForgeCall) :
    (forge.rememberAll calls).calls = forge.calls ++ calls ∧
    (forge.rememberAll calls).comments = forge.comments ++ calls.filterMap commentOf? := by
  have hcalls := view_foldl_append MemoryForge.calls calls_remember forge calls
  have hcomments := view_foldl_append MemoryForge.comments comments_remember forge calls
  rw [List.flatMap_singleton'] at hcalls
  rw [← List.filterMap_eq_flatMap_toList] at hcomments
  exact ⟨hcalls, hcomments⟩

/-- What the calls add to a pull request is merged into its labels. -/
lemma labels_rememberAll (forge : MemoryForge) (calls : List ForgeCall) (number : Nat) :
    (forge.rememberAll calls).labels number =
      mergeLabels (forge.labels number) (calls.flatMap (addedTo number)) :=
  view_foldl (fun forge => forge.labels number) (fun _ => rfl) mergeLabels_append
    (fun forge call => labels_remember forge call number) forge calls

/-- A call that is not made to fail gets its reply, and is remembered. -/
lemma perform_of_no_failure (h : forge.failure = none) :
    perform call forge = (forge.reply call, forge.remember call) := by
  have succeeds : forge.failureOf? call = none := by
    rw [failureOf?, h]
  rw [perform, succeeds]
  rfl

/-! ## Labels that are there -/

variable {labels added : List String}

/-- Labels are put behind those that are there, each once, unless they are there. -/
lemma mergeLabels_eq (labels added : List String) :
    mergeLabels labels added = labels ++ added.eraseDups.filter (· ∉ labels) := by
  induction added using List.reverseRecOn with
  | nil => exact (List.append_nil labels).symm
  | append_singleton added label ih =>
    have last (merged : List String) :
        mergeLabels merged [label] = if label ∈ merged then merged else merged ++ [label] := by
      simp [mergeLabels]
    rw [mergeLabels_append, ih, last, Distinct.eraseDups_append_singleton]
    by_cases hadded : label ∈ added
    · by_cases hlabels : label ∈ labels <;> simp [hadded, hlabels]
    · by_cases hlabels : label ∈ labels <;> simp [hadded, hlabels]

lemma mem_mergeLabels {label : String} :
    label ∈ mergeLabels labels added ↔ label ∈ labels ∨ label ∈ added := by
  rw [mergeLabels_eq, List.mem_append, List.mem_filter, List.mem_eraseDups]
  by_cases h : label ∈ labels <;> simp [h]

lemma nodup_mergeLabels (h : labels.Nodup) : (mergeLabels labels added).Nodup := by
  rw [mergeLabels_eq, List.nodup_append]
  refine ⟨h, (Distinct.nodup_eraseDups added).filter _, fun label hlabel other hother heq => ?_⟩
  have hnew := (List.mem_filter.1 hother).2
  simp [← heq, hlabel] at hnew

/-- Different labels are put behind those that are there, unless they are there. -/
lemma mergeLabels_of_nodup (h : added.Nodup) :
    mergeLabels labels added = labels ++ added.filter (· ∉ labels) := by
  rw [mergeLabels_eq, Distinct.eraseDups_of_nodup h]

end PullTriage.MemoryForge
