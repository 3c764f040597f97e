import PullTriage.Proofs.Triage.Calls

/-!
# Two forges that reply alike

Triage looks at the answers of a forge and at nothing else: a call that fails ends it, whatever the
error says.  So on two forges whose replies agree up to the details of errors it ends alike
(`Asks.simulates`).  What is to be shown of the two is one step: that from related states a call
that triage can make (`MayCall`) gets replies that agree, and leaves related states.
-/

namespace PullTriage

/-! ## Outcomes that agree -/

/-- Both give the same, or both fail, with errors of one kind. -/
inductive AgreeUpTo {ε κ α : Type} (kind : ε → κ) : Except ε α → Except ε α → Prop
  | ok (a : α) : AgreeUpTo kind (.ok a) (.ok a)
  | error {e e' : ε} (h : kind e = kind e') : AgreeUpTo kind (.error e) (.error e')

lemma AgreeUpTo.refl {ε κ α : Type} (kind : ε → κ) (x : Except ε α) : AgreeUpTo kind x x := by
  cases x with
  | ok a => exact .ok a
  | error e => exact .error rfl

/-- The kind of an error of a forge: the error without its details. -/
def ForgeError.kind : ForgeError → ForgeError
  | authRequired => authRequired
  | authFailed _ => authFailed ""
  | notFound _ => notFound ""
  | rateLimited => rateLimited
  | apiError status _ => apiError status ""
  | networkError _ => networkError ""
  | decode _ => decode ""

/-- The kind of an error of triage, which is that of the forge if the error comes from there. -/
def TriageError.kind : TriageError → TriageError
  | forge cause => forge cause.kind
  | e => e

namespace Triage

open ForgeProgram

variable {triage : Triage} {pr : PullRequestContext} {σ τ : Type}

/-! ## Runs that agree -/

lemma run_ask (perform : (c : ForgeCall) → StateM σ c.Reply) (c : ForgeCall)
    (next : c.Answer → Flow) (state : σ) : (ask c next).run perform state =
      match (perform c state).1 with
      | .ok answer => (next answer).run perform (perform c state).2
      | .error cause => (.error (.forge cause), (perform c state).2) := by
  change (ForgeProgram.run perform _) (perform c state).2 = _
  cases (perform c state).1 with
  | ok answer => rfl
  | error cause => rfl

lemma history_ask_of_ok {perform : (c : ForgeCall) → StateM σ c.Reply} {c : ForgeCall}
    {next : c.Answer → Flow} {state : σ} {answer : c.Answer}
    (h : (perform c state).1 = .ok answer) : (ask c next).history perform state =
      ⟨c, .ok answer⟩ :: (next answer).history perform (perform c state).2 := by
  rw [ask, history, h]

lemma call_mem_history_ask (perform : (c : ForgeCall) → StateM σ c.Reply) (c : ForgeCall)
    (next : c.Answer → Flow) (state : σ) :
    ∃ reply, ⟨c, reply⟩ ∈ (ask c next).history perform state :=
  ⟨_, List.mem_cons_self⟩

/-- If one call gets replies that agree and leaves related states, so does a flow.  Only the calls
that are made have to be like that. -/
theorem Asks.simulates {perform : (c : ForgeCall) → StateM σ c.Reply}
    {perform' : (c : ForgeCall) → StateM τ c.Reply} {related : σ → τ → Prop}
    {allowed : ForgeCall → Prop}
    (step : ∀ c s t, allowed c → related s t →
      AgreeUpTo ForgeError.kind (perform c s).1 (perform' c t).1 ∧
        related (perform c s).2 (perform' c t).2)
    {flow : Flow} (hflow : Asks flow) {s : σ} {t : τ} (hst : related s t)
    (hcalls : ∀ exchange ∈ flow.history perform' t, allowed exchange.call) :
    AgreeUpTo TriageError.kind (flow.run perform s).1 (flow.run perform' t).1 ∧
      related (flow.run perform s).2 (flow.run perform' t).2 := by
  induction hflow generalizing s t with
  | done result => exact ⟨.refl _ result, hst⟩
  | @ask c next _ ih =>
    obtain ⟨reply, hmem⟩ := call_mem_history_ask perform' c next t
    obtain ⟨hreplies, hstates⟩ := step c s t (hcalls _ hmem) hst
    rw [run_ask, run_ask]
    -- The flow goes on with the one answer that both have, or ends with the errors.
    generalize hx : (perform c s).1 = x at hreplies ⊢
    generalize hy : (perform' c t).1 = y at hreplies ⊢
    cases hreplies with
    | ok answer =>
      rw [history_ask_of_ok hy] at hcalls
      exact ih answer hstates fun exchange hmem => hcalls exchange (List.mem_cons_of_mem _ hmem)
    | error hkind => exact ⟨.error (congrArg TriageError.forge hkind), hstates⟩

/-! ## The calls that triage can make -/

/-- The calls that triage of a pull request can make: it compares the revisions, reads the manifest
and writes. -/
inductive MayCall (triage : Triage) (pr : PullRequestContext) : ForgeCall → Prop
  | compare {base head : String} (h : pr.HasRevisions base head) :
      MayCall triage pr (.compare base head)
  | readTextFile : MayCall triage pr (.readTextFile triage.manifestPath)
  | createComment (number : Nat) (body : String) : MayCall triage pr (.createComment number body)
  | addLabels (number : Nat) (labels : List String) : MayCall triage pr (.addLabels number labels)

lemma mayCall_of_mem_history (perform : (c : ForgeCall) → StateM σ c.Reply) (state : σ) :
    ∀ exchange ∈ (triage.run pr).history perform state, triage.MayCall pr exchange.call := by
  intro exchange hmem
  have outcome := outcome_of_course (course_history perform (triage.run pr) state)
  by_cases known : ∃ base head, pr.HasRevisions base head
  · obtain ⟨base, head, known⟩ := known
    obtain ⟨comment, labels, horder⟩ := outcome.calls_in_order known
    have hcall := horder.subset (List.mem_map_of_mem hmem)
    simp only [List.mem_cons, List.not_mem_nil, or_false] at hcall
    rcases hcall with hcall | hcall | hcall | hcall
    · exact hcall ▸ .compare known
    · exact hcall ▸ .readTextFile
    · exact hcall ▸ .createComment _ _
    · exact hcall ▸ .addLabels _ _
  · obtain ⟨hnil, -⟩ := outcome.silent fun base head h => known ⟨base, head, h⟩
    rw [hnil] at hmem
    cases hmem

end Triage

end PullTriage
