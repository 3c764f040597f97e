import PullTriage.Glob
import Mathlib.Data.List.Basic

/-!
# Reading a glob

How a glob is divided, said as rules and not as a function.  `Scans` reads from left to right and
takes the longest wildcard that is next; `Tokenizes` sets two stars at the end aside before that.
`tokenizes_iff` says that the tokens of a glob are the one reading that the rules allow.

A slash in front is read by itself and changes nothing after it (`tokens_cons_slash`), not even
which stars are at the end.  So the glob from the root and the one relative to it have the same
tokens but for one slash.
-/

namespace PullTriage.Glob

/-! ## The rules -/

/-- Reading from left to right, the longest wildcard first. -/
inductive Scans : List Char → List Token → Prop where
  | nil : Scans [] []
  | directories {rest : List Char} {ts : List Token} (h : Scans rest ts) :
    Scans ('*' :: '*' :: '/' :: rest) (.directories :: ts)
  | descend {rest : List Char} {ts : List Token} (hrest : rest.head? ≠ some '/')
    (h : Scans rest ts) : Scans ('*' :: '*' :: rest) (.descend :: ts)
  | segment {rest : List Char} {ts : List Token} (hrest : rest.head? ≠ some '*')
    (h : Scans rest ts) : Scans ('*' :: rest) (.segment :: ts)
  | literal {c : Char} {rest : List Char} {ts : List Token} (hc : c ≠ '*') (h : Scans rest ts) :
    Scans (c :: rest) (.literal c :: ts)

/-- Reading a glob: two stars at its end are one token, whatever is before them. -/
inductive Tokenizes : List Char → List Token → Prop where
  | below {body : List Char} {ts : List Token} (h : Scans body ts) :
    Tokenizes (body ++ ['*', '*']) (ts ++ [.below])
  | plain {glob : List Char} {ts : List Token} (hend : ¬ ['*', '*'] <:+ glob)
    (h : Scans glob ts) : Tokenizes glob ts

/-! ## The reading is the one that the rules allow -/

lemma scans_scan (text : List Char) : Scans text (scan text) := by
  fun_induction scan text with
  | case1 => exact .nil
  | case2 rest ih => exact .directories ih
  | case3 rest hnot ih =>
    refine .descend (fun hhead => ?_) ih
    obtain ⟨rest', rfl⟩ := List.head?_eq_some_iff.1 hhead
    exact hnot rest' rfl
  | case4 rest hnot hnot' ih =>
    refine .segment (fun hhead => ?_) ih
    obtain ⟨rest', rfl⟩ := List.head?_eq_some_iff.1 hhead
    exact hnot' rest' rfl
  | case5 c rest hnot hnot' hnot'' ih => exact .literal (fun hc => hnot'' hc) ih

lemma Scans.eq_scan {text : List Char} {ts : List Token} (h : Scans text ts) : ts = scan text := by
  induction h with
  | nil => rfl
  | directories h ih => rw [ih, scan]
  | descend hrest h ih =>
    rw [ih, scan]
    intro rest' heq
    simp [heq] at hrest
  | segment hrest h ih =>
    rw [ih, scan] <;> rintro rest' rfl <;> simp at hrest
  | literal hc h ih =>
    rw [ih, scan] <;> simp_all

lemma isSuffixOf?_eq_none_iff (glob : List Char) :
    ['*', '*'].isSuffixOf? glob = none ↔ ¬ ['*', '*'] <:+ glob := by
  rw [← List.isSuffixOf_iff_suffix, ← List.isSome_isSuffixOf?_eq_isSuffixOf]
  cases ['*', '*'].isSuffixOf? glob <;> simp

/-- A glob has exactly one reading, and that is its list of tokens. -/
theorem tokenizes_iff {glob : List Char} {ts : List Token} :
    Tokenizes glob ts ↔ ts = tokens glob := by
  rw [tokens]
  constructor
  · intro h
    cases h with
    | @below body ts h =>
      rw [List.isSuffixOf?_eq_some_iff_append_eq.2 rfl, h.eq_scan]
    | plain hend h =>
      rw [(isSuffixOf?_eq_none_iff glob).2 hend, h.eq_scan]
  · rintro rfl
    cases hbody : ['*', '*'].isSuffixOf? glob with
    | some body =>
      obtain rfl := List.append_eq_of_isSuffixOf?_eq_some hbody
      exact .below (scans_scan body)
    | none => exact .plain ((isSuffixOf?_eq_none_iff glob).1 hbody) (scans_scan glob)

/-! ## Paths and globs from the root -/

lemma rooted_eq_cons (path : List Char) : rooted path = '/' :: relative path := by
  unfold rooted relative
  split <;> simp_all

lemma Tokenizes.cons_slash {glob : List Char} {ts : List Token} (h : Tokenizes glob ts) :
    Tokenizes ('/' :: glob) (.literal '/' :: ts) := by
  have hslash : '/' ≠ '*' := by decide
  cases h with
  | below h => exact .below (.literal hslash h)
  | plain hend h =>
    refine .plain (fun hsuffix => ?_) (.literal hslash h)
    rcases List.suffix_cons_iff.1 hsuffix with heq | hsuffix
    · exact hslash (List.cons.inj heq).1.symm
    · exact hend hsuffix

/-- A slash in front of a glob is a token of its own. -/
theorem tokens_cons_slash (glob : List Char) :
    tokens ('/' :: glob) = .literal '/' :: tokens glob :=
  (tokenizes_iff.1 (tokenizes_iff.2 rfl).cons_slash).symm

/-- The glob from the root has one token more than the glob relative to it. -/
theorem tokens_rooted (glob : List Char) :
    tokens (rooted glob) = .literal '/' :: tokens (relative glob) := by
  rw [rooted_eq_cons, tokens_cons_slash]

end PullTriage.Glob
