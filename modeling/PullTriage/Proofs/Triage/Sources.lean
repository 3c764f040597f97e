import PullTriage.Event
import PullTriage.Proofs.Triage.Effect

/-!
# The two sources of a pull request

The facts about a pull request come from the payload of an event or from the forge.  What the forge
reports as an empty text, a payload may have as an empty text or may leave out, and triage does not
tell these apart: an empty revision is not known, and an empty name of a branch has no release line.

So triage of a pull request is one program of calls, whichever source its facts come from
(`run_eq_of_describes`), and goes the same way on every forge.
-/

namespace PullTriage

/-- The value states the text; an empty text may be left out. -/
inductive States : Option String → String → Prop
  | stated (text : String) : States (some text) text
  | leftOut : States none ""

lemma states_nonEmpty? (text : String) : States (nonEmpty? text) text := by
  rw [nonEmpty?]
  by_cases h : text.isEmpty = true
  · rw [if_pos h, String.isEmpty_iff.1 h]
    exact .leftOut
  · rw [if_neg h]
    exact .stated text

/-- What finds nothing in the empty text does not tell how a text is stated. -/
lemma States.bind_eq {α : Type} {value : Option String} {text : String} (h : States value text)
    {f : String → Option α} (hf : f "" = none) : value.bind f = f text := by
  cases h with
  | stated text => rfl
  | leftOut => exact hf.symm

/-- The facts are those that the forge reports; empty texts may be left out. -/
structure PullRequestContext.Describes (context : PullRequestContext) (pr : PullRequest) :
    Prop where
  number : context.number = pr.number
  body : context.body = pr.body
  baseRef : States context.baseRef pr.baseRef
  baseSha : States context.baseSha pr.baseSha
  headSha : States context.headSha pr.headSha

lemma PullRequest.describes_context (pr : PullRequest) : pr.context.Describes pr :=
  ⟨rfl, rfl, states_nonEmpty? _, states_nonEmpty? _, states_nonEmpty? _⟩

namespace Triage

open ForgeProgram MemoryForge

variable {context context' : PullRequestContext} {pr : PullRequest}

lemma revisions?_eq_of_describes (h : context.Describes pr) (h' : context'.Describes pr) :
    context.revisions? = context'.revisions? := by
  have empty : nonEmpty? "" = none := rfl
  rw [PullRequestContext.revisions?, PullRequestContext.revisions?, h.baseSha.bind_eq empty,
    h.headSha.bind_eq empty, h'.baseSha.bind_eq empty, h'.headSha.bind_eq empty]

lemma report_eq_of_describes (triage : Triage) (h : context.Describes pr)
    (h' : context'.Describes pr) (manifest : Manifest) (paths : List String) :
    triage.report context manifest paths = triage.report context' manifest paths := by
  have empty : releaseLine? "" = none := rfl
  have labels : triage.classifier.classify paths context.body context.baseRef =
      triage.classifier.classify paths context'.body context'.baseRef := by
    simp only [LabelClassifier.classify, LabelClassifier.accumulate, LabelClassifier.candidates,
      h.baseRef.bind_eq empty, h'.baseRef.bind_eq empty, h.body, h'.body]
  rw [report, report, h.number, h'.number, labels]

/-- Triage is the same program of calls for all statements of the same facts. -/
theorem run_eq_of_describes (triage : Triage) (h : context.Describes pr)
    (h' : context'.Describes pr) : triage.run context = triage.run context' := by
  have reports := funext fun manifest => funext (report_eq_of_describes triage h h' manifest)
  rw [run, run, revisions?_eq_of_describes h h', reports]

/-- A payload that leaves out the name of the branch. -/
def sparseEvent : PullRequestEvent :=
  ⟨42, some "http, fs: close", none, some "aaa", some "bbb"⟩

/-- The pull request as the forge reports it. -/
def sparsePullRequest : PullRequest :=
  ⟨42, some "http, fs: close", "", "aaa", "bbb"⟩

end Triage

end PullTriage
