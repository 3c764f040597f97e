import PullTriage.Label.Template
import PullTriage.Proofs.Text.Decimal
import Mathlib.Data.List.Chain
import Mathlib.Data.List.TakeWhile

/-!
# What a template says

A reference is a dollar sign with the digits of a number below 2 to the 64th behind it, and no digit
behind these (`IsReference`).  Every place of a text where one stands is a segment of the template,
and the text between them is literal: `referenceAt_iff`.

All statements follow the reading of a text from its front.  A text is empty, or begins with a
reference, or begins with a character that no reference begins with, and there is an equation for
the segments in each of the three cases.  The induction along them is `reading_induction`.

Rendering is a second such reading (`Renders`).  What a group stands for is put out and not looked
at again, so it does not matter whether it looks like a reference.
-/

namespace PullTriage

namespace LabelTemplate

/-! ## References in a text -/

/-- The digits write the number of a group, which is below 2 to the 64th, and what stands behind them
begins with no digit. -/
structure IsReference (index : Nat) (digits after : List Char) : Prop where
  ne_nil : digits ≠ []
  isDigit : ∀ c ∈ digits, c.isDigit = true
  ends : ∀ c rest, after = c :: rest → c.isDigit = false
  value : Nat.ofDigitChars 10 digits 0 = index
  inRange : index < UInt64.size

/-- Between these two parts of the text stands a reference to a group, written with these digits. -/
def RefersAt (text before : List Char) (index : Nat) (digits after : List Char) : Prop :=
  text = before ++ '$' :: (digits ++ after) ∧ IsReference index digits after

/-- The text begins with a reference. -/
def BeginsWithReference (text : List Char) : Prop :=
  ∃ index digits after, RefersAt text [] index digits after

variable {index : Nat} {digits after : List Char}

lemma IsReference.takeWhile_eq (h : IsReference index digits after) :
    (digits ++ after).takeWhile Char.isDigit = digits := by
  have stops : after.takeWhile Char.isDigit = [] := by
    cases after with
    | nil => rfl
    | cons c rest => exact List.takeWhile_cons_of_neg (by simp [h.ends c rest rfl])
  rw [List.takeWhile_append_of_pos h.isDigit, stops, List.append_nil]

/-- The digits that are read behind a dollar sign are those of the reference there. -/
lemma reference?_eq_some_iff {text : List Char} :
    reference? text = some (index, digits) ↔
      ∃ after, text = digits ++ after ∧ IsReference index digits after := by
  unfold reference?
  simp only [Option.map_eq_some_iff, Prod.mk.injEq, Text.decimalBelow?_eq_some_iff]
  constructor
  · rintro ⟨n, ⟨hne, hall, hvalue, hbound⟩, rfl, rfl⟩
    refine ⟨text.dropWhile Char.isDigit, List.takeWhile_append_dropWhile.symm, hne, hall, ?_,
      hvalue, hbound⟩
    intro c rest hrest
    have stops := List.head?_dropWhile_not Char.isDigit text
    rw [hrest] at stops
    exact stops
  · rintro ⟨after, rfl, h⟩
    rw [h.takeWhile_eq]
    exact ⟨index, ⟨h.ne_nil, h.isDigit, h.value, h.inRange⟩, rfl, rfl⟩

lemma reference?_append (h : IsReference index digits after) :
    reference? (digits ++ after) = some (index, digits) :=
  reference?_eq_some_iff.2 ⟨after, rfl, h⟩

lemma reference?_eq_none {rest : List Char} (h : ¬ BeginsWithReference ('$' :: rest)) :
    reference? rest = none := by
  cases hfound : reference? rest with
  | none => rfl
  | some found =>
    obtain ⟨after, hrest, hreference⟩ := reference?_eq_some_iff.1 hfound
    exact absurd ⟨found.1, found.2, after, by rw [hrest]; rfl, hreference⟩ h

/-! ## Reading from the front -/

lemma segmentsOf_eq_drop (skip : Nat) (text : List Char) :
    segmentsOf skip text = segmentsOf 0 (text.drop skip) := by
  induction text generalizing skip with
  | nil => cases skip <;> rfl
  | cons c rest ih =>
    cases skip with
    | zero => rfl
    | succ skip => exact ih skip

lemma segmentsOf_reference (h : IsReference index digits after) :
    segmentsOf 0 ('$' :: (digits ++ after)) =
      .group index (String.ofList digits) :: segmentsOf 0 after := by
  rw [segmentsOf, if_pos rfl, reference?_append h]
  dsimp only
  rw [segmentsOf_eq_drop, List.drop_left]

lemma segmentsOf_literal {c : Char} {rest : List Char} (h : ¬ BeginsWithReference (c :: rest)) :
    segmentsOf 0 (c :: rest) = literalThen c (segmentsOf 0 rest) := by
  rw [segmentsOf]
  by_cases hc : c = '$'
  · subst hc
    rw [if_pos rfl, reference?_eq_none h]
  · rw [if_neg hc]

/-- What holds of the empty text, and of a text if it holds of what stands behind the reference or
else behind the character that it begins with, holds of every text. -/
@[elab_as_elim]
lemma reading_induction {motive : List Char → Prop} (nil : motive [])
    (reference : ∀ index digits after, IsReference index digits after → motive after →
      motive ('$' :: (digits ++ after)))
    (literal : ∀ c rest, ¬ BeginsWithReference (c :: rest) → motive rest → motive (c :: rest))
    (text : List Char) : motive text := by
  induction hlength : text.length using Nat.strong_induction_on generalizing text with
  | _ n ih =>
    cases text with
    | nil => exact nil
    | cons c rest =>
      by_cases hbegins : BeginsWithReference (c :: rest)
      · obtain ⟨index, digits, after, htext, h⟩ := hbegins
        rw [List.nil_append] at htext
        rw [htext] at hlength ⊢
        have shorter : after.length < n := by
          simp only [List.length_cons, List.length_append] at hlength
          omega
        exact reference index digits after h (ih after.length shorter after rfl)
      · have shorter : rest.length < n := by
          rw [List.length_cons] at hlength
          omega
        exact literal c rest hbegins (ih rest.length shorter rest rfl)

/-! ## Nothing is lost -/

/-- Some segments as they are written. -/
def writtenAll (segments : List Segment) : List Char :=
  segments.flatMap fun segment => segment.written.toList

lemma writtenAll_literalThen (c : Char) (segments : List Segment) :
    writtenAll (literalThen c segments) = c :: writtenAll segments := by
  cases segments with
  | nil => simp [literalThen, writtenAll, Segment.written]
  | cons segment segments =>
    cases segment <;> simp [literalThen, writtenAll, Segment.written]

lemma writtenAll_group_cons (index : Nat) (digits : List Char) (segments : List Segment) :
    writtenAll (.group index (String.ofList digits) :: segments) =
      '$' :: (digits ++ writtenAll segments) := by
  simp [writtenAll, Segment.written]

lemma writtenAll_segmentsOf (text : List Char) : writtenAll (segmentsOf 0 text) = text := by
  induction text using reading_induction with
  | nil => rfl
  | reference index digits after h ih => rw [segmentsOf_reference h, writtenAll_group_cons, ih]
  | literal c rest h ih => rw [segmentsOf_literal h, writtenAll_literalThen, ih]

/-- Of two segments at least one is a reference. -/
def Separates (first second : Segment) : Prop :=
  first.index?.isSome = true ∨ second.index?.isSome = true

lemma mem_literalThen {c : Char} {segments : List Segment} {text : String}
    (h : .literal text ∈ literalThen c segments) :
    (∃ rest, text = String.singleton c ++ rest) ∨ .literal text ∈ segments := by
  cases segments with
  | nil =>
    have heq : text = String.singleton c := by simpa [literalThen] using h
    exact .inl ⟨"", by simpa using heq⟩
  | cons segment segments =>
    cases segment with
    | literal first =>
      rcases List.mem_cons.1 h with heq | hmem
      · cases heq
        exact .inl ⟨first, rfl⟩
      · exact .inr (List.mem_cons_of_mem _ hmem)
    | group index digits =>
      rcases List.mem_cons.1 h with heq | hmem
      · cases heq
        exact .inl ⟨"", by simp⟩
      · exact .inr hmem

lemma ne_empty_of_mem_segmentsOf (text : List Char) :
    ∀ literal, .literal literal ∈ segmentsOf 0 text → literal ≠ "" := by
  induction text using reading_induction with
  | nil => nofun
  | reference index digits after h ih =>
    intro literal hmem
    rw [segmentsOf_reference h] at hmem
    exact ih literal (by simpa using hmem)
  | literal c rest h ih =>
    intro literal hmem
    rw [segmentsOf_literal h] at hmem
    rcases mem_literalThen hmem with ⟨more, rfl⟩ | hmem
    · intro hempty
      have characters := congrArg String.toList hempty
      simp at characters
    · exact ih literal hmem

lemma isChain_literalThen {c : Char} {segments : List Segment}
    (h : segments.IsChain Separates) : (literalThen c segments).IsChain Separates := by
  cases segments with
  | nil => exact List.isChain_singleton _
  | cons segment segments =>
    cases segment with
    | literal first =>
      obtain ⟨hfirst, hrest⟩ := List.isChain_cons.1 h
      exact List.isChain_cons.2 ⟨hfirst, hrest⟩
    | group index digits => exact List.isChain_cons_cons.2 ⟨.inr rfl, h⟩

lemma isChain_segmentsOf (text : List Char) : (segmentsOf 0 text).IsChain Separates := by
  induction text using reading_induction with
  | nil => exact List.isChain_nil
  | reference index digits after h ih =>
    rw [segmentsOf_reference h]
    exact List.isChain_cons.2 ⟨fun _ _ => .inl rfl, ih⟩
  | literal c rest h ih =>
    rw [segmentsOf_literal h]
    exact isChain_literalThen ih

/-! ## The references are the segments -/

/-- Between segments that write these two parts stands a reference to a group. -/
def ReferenceAt (segments : List Segment) (before : List Char) (index : Nat)
    (digits after : List Char) : Prop :=
  ∃ front back, segments = front ++ .group index (String.ofList digits) :: back ∧
    writtenAll front = before ∧ writtenAll back = after

variable {before : List Char} {segments : List Segment}

lemma literalThen_append (c : Char) (front : List Segment) (index : Nat) (digits : String)
    (back : List Segment) :
    literalThen c (front ++ .group index digits :: back) =
      literalThen c front ++ .group index digits :: back := by
  cases front with
  | nil => rfl
  | cons segment front => cases segment <;> rfl

/-- A character in front makes or lengthens a literal, and no reference comes from it. -/
lemma exists_of_literalThen_eq {c : Char} {front back : List Segment} {digits : String}
    (h : literalThen c segments = front ++ .group index digits :: back) :
    ∃ others, segments = others ++ .group index digits :: back ∧
      writtenAll front = c :: writtenAll others := by
  cases front with
  | nil =>
    cases segments with
    | nil => cases h
    | cons segment segments => cases segment <;> cases h
  | cons first front =>
    cases segments with
    | nil =>
      obtain ⟨-, hrest⟩ := List.cons.inj h
      simp at hrest
    | cons segment segments =>
      cases segment with
      | literal text =>
        obtain ⟨rfl, rfl⟩ := List.cons.inj h
        exact ⟨.literal text :: front, rfl, by simp [writtenAll, Segment.written]⟩
      | group n written =>
        obtain ⟨rfl, hrest⟩ := List.cons.inj h
        exact ⟨front, hrest, by simp [writtenAll, Segment.written]⟩

lemma referenceAt_literalThen_iff {c : Char} :
    ReferenceAt (literalThen c segments) before index digits after ↔
      ∃ more, before = c :: more ∧ ReferenceAt segments more index digits after := by
  constructor
  · rintro ⟨front, back, hsegments, rfl, rfl⟩
    obtain ⟨others, rfl, hfront⟩ := exists_of_literalThen_eq hsegments
    exact ⟨writtenAll others, hfront, others, back, rfl, rfl, rfl⟩
  · rintro ⟨_, rfl, front, back, rfl, rfl, rfl⟩
    exact ⟨literalThen c front, back, literalThen_append c front index _ back,
      writtenAll_literalThen c front, rfl⟩

lemma referenceAt_group_cons_iff {n : Nat} {written : List Char} :
    ReferenceAt (.group n (String.ofList written) :: segments) before index digits after ↔
      before = [] ∧ index = n ∧ digits = written ∧ after = writtenAll segments ∨
        ∃ more, before = '$' :: (written ++ more) ∧
          ReferenceAt segments more index digits after := by
  constructor
  · rintro ⟨front, back, hsegments, rfl, rfl⟩
    cases front with
    | nil =>
      obtain ⟨hgroup, rfl⟩ := List.cons.inj hsegments
      obtain ⟨rfl, hdigits⟩ := Segment.group.inj hgroup
      have hdigits := congrArg String.toList hdigits
      rw [String.toList_ofList, String.toList_ofList] at hdigits
      exact .inl ⟨rfl, rfl, hdigits.symm, rfl⟩
    | cons segment front =>
      cases hsegments
      exact .inr ⟨writtenAll front, writtenAll_group_cons n written front, front, back, rfl, rfl, rfl⟩
  · rintro (⟨rfl, rfl, rfl, rfl⟩ | ⟨_, rfl, front, back, rfl, rfl, rfl⟩)
    · exact ⟨[], segments, rfl, rfl, rfl⟩
    · exact ⟨.group n (String.ofList written) :: front, back, rfl,
        writtenAll_group_cons n written front, rfl⟩

lemma IsReference.dollar_not_mem (h : IsReference index digits after) : '$' ∉ digits := by
  intro hmem
  have isDigit := h.isDigit '$' hmem
  simp at isDigit

/-- Behind a reference the next one stands behind its digits. -/
lemma refersAt_reference_iff {n : Nat} {written rest : List Char} (h : IsReference n written rest) :
    RefersAt ('$' :: (written ++ rest)) before index digits after ↔
      before = [] ∧ index = n ∧ digits = written ∧ after = rest ∨
        ∃ more, before = '$' :: (written ++ more) ∧ RefersAt rest more index digits after := by
  constructor
  · rintro ⟨htext, hreference⟩
    cases before with
    | nil =>
      obtain ⟨-, htext⟩ := List.cons.inj htext
      have same : written = digits := by
        rw [← h.takeWhile_eq, htext, hreference.takeWhile_eq]
      subst same
      exact .inl ⟨rfl, hreference.value.symm.trans h.value, rfl,
        (List.append_cancel_left htext).symm⟩
    | cons c before =>
      obtain ⟨rfl, hbehind⟩ := List.cons.inj htext
      rcases List.append_eq_append_iff.1 hbehind with ⟨more, rfl, hrest⟩ | ⟨more, hwritten, htail⟩
      · exact .inr ⟨more, rfl, hrest, hreference⟩
      · cases more with
        | nil =>
          rw [List.append_nil] at hwritten
          exact .inr ⟨[], by rw [hwritten, List.append_nil], htail.symm, hreference⟩
        | cons d more =>
          obtain ⟨rfl, -⟩ := List.cons.inj htail
          exact absurd (by simp [hwritten]) h.dollar_not_mem
  · rintro (⟨rfl, rfl, rfl, rfl⟩ | ⟨more, rfl, rfl, hreference⟩)
    · exact ⟨rfl, h⟩
    · exact ⟨by simp, hreference⟩

lemma refersAt_literal_iff {c : Char} {rest : List Char} (h : ¬ BeginsWithReference (c :: rest)) :
    RefersAt (c :: rest) before index digits after ↔
      ∃ more, before = c :: more ∧ RefersAt rest more index digits after := by
  constructor
  · intro hrefers
    cases before with
    | nil => exact absurd ⟨index, digits, after, hrefers⟩ h
    | cons d before =>
      obtain ⟨htext, hreference⟩ := hrefers
      obtain ⟨rfl, hrest⟩ := List.cons.inj htext
      exact ⟨before, rfl, hrest, hreference⟩
  · rintro ⟨more, rfl, rfl, hreference⟩
    exact ⟨rfl, hreference⟩

/-- The references among the segments are those in the text, each at its place. -/
theorem referenceAt_iff (text before : List Char) (index : Nat) (digits after : List Char) :
    ReferenceAt (segmentsOf 0 text) before index digits after ↔
      RefersAt text before index digits after := by
  induction text using reading_induction generalizing before with
  | nil =>
    constructor
    · rintro ⟨front, back, hsegments, -⟩
      simp [segmentsOf] at hsegments
    · rintro ⟨htext, -⟩
      simp at htext
  | reference n written rest h ih =>
    rw [segmentsOf_reference h, referenceAt_group_cons_iff, refersAt_reference_iff h,
      writtenAll_segmentsOf]
    simp only [ih]
  | literal c rest h ih =>
    rw [segmentsOf_literal h, referenceAt_literalThen_iff, refersAt_literal_iff h]
    simp only [ih]

/-! ## Rendering -/

/-- The text with what the groups stand for in place of the references, in one pass from its front.
What a group stands for goes out as it is, and a reference to a group without a text stays. -/
inductive Renders (group : Nat → Option String) : List Char → List Char → Prop where
  | nil : Renders group [] []
  | replaced {index : Nat} {digits after out : List Char} {text : String} :
    IsReference index digits after → group index = some text → Renders group after out →
      Renders group ('$' :: (digits ++ after)) (text.toList ++ out)
  | kept {index : Nat} {digits after out : List Char} :
    IsReference index digits after → group index = none → Renders group after out →
      Renders group ('$' :: (digits ++ after)) ('$' :: (digits ++ out))
  | literal {c : Char} {rest out : List Char} :
    ¬ BeginsWithReference (c :: rest) → Renders group rest out →
      Renders group (c :: rest) (c :: out)

variable {found : Regex.Match}

/-- What some segments stand for in a match. -/
def renderedAll (found : Regex.Match) (segments : List Segment) : List Char :=
  segments.flatMap fun segment => (segment.render found).toList

lemma toList_render (template : LabelTemplate) (found : Regex.Match) :
    (template.render found).toList = renderedAll found template.segments := by
  rw [render, String.toList_join, List.flatMap_map, renderedAll]

lemma renderedAll_literalThen (c : Char) (segments : List Segment) :
    renderedAll found (literalThen c segments) = c :: renderedAll found segments := by
  cases segments with
  | nil => simp [literalThen, renderedAll, Segment.render]
  | cons segment segments =>
    cases segment <;> simp [literalThen, renderedAll, Segment.render]

lemma renderedAll_replaced {text : String} (h : found.group index = some text) (digits : String) :
    renderedAll found (.group index digits :: segments) =
      text.toList ++ renderedAll found segments := by
  simp [renderedAll, Segment.render, h]

lemma renderedAll_kept (h : found.group index = none) (digits : List Char) :
    renderedAll found (.group index (String.ofList digits) :: segments) =
      '$' :: (digits ++ renderedAll found segments) := by
  simp [renderedAll, Segment.render, h]

lemma renders_segmentsOf (found : Regex.Match) (text : List Char) :
    Renders found.group text (renderedAll found (segmentsOf 0 text)) := by
  induction text using reading_induction with
  | nil => exact .nil
  | reference index digits after h ih =>
    rw [segmentsOf_reference h]
    cases hgroup : found.group index with
    | none =>
      rw [renderedAll_kept hgroup]
      exact .kept h hgroup ih
    | some text =>
      rw [renderedAll_replaced hgroup]
      exact .replaced h hgroup ih
  | literal c rest h ih =>
    rw [segmentsOf_literal h, renderedAll_literalThen]
    exact .literal h ih

lemma Renders.eq_renderedAll {text out : List Char} (h : Renders found.group text out) :
    out = renderedAll found (segmentsOf 0 text) := by
  induction h with
  | nil => rfl
  | replaced hreference hgroup _ ih =>
    rw [segmentsOf_reference hreference, renderedAll_replaced hgroup, ← ih]
  | kept hreference hgroup _ ih =>
    rw [segmentsOf_reference hreference, renderedAll_kept hgroup, ← ih]
  | literal hliteral _ ih => rw [segmentsOf_literal hliteral, renderedAll_literalThen, ← ih]

/-- A text is rendered as itself if no group that it refers to has a text. -/
lemma renderedAll_eq_self {text : List Char}
    (h : ∀ before index digits after, RefersAt text before index digits after →
      found.group index = none) : renderedAll found (segmentsOf 0 text) = text := by
  induction text using reading_induction with
  | nil => rfl
  | reference index digits after hreference ih =>
    have here := h [] index digits after ⟨rfl, hreference⟩
    rw [segmentsOf_reference hreference, renderedAll_kept here, ih]
    intro before n written rest hrefers
    refine h ('$' :: (digits ++ before)) n written rest ?_
    exact (refersAt_reference_iff hreference).2 (.inr ⟨before, rfl, hrefers⟩)
  | literal c rest hliteral ih =>
    rw [segmentsOf_literal hliteral, renderedAll_literalThen, ih]
    intro before n written behind hrefers
    refine h (c :: before) n written behind ?_
    exact (refersAt_literal_iff hliteral).2 ⟨before, rfl, hrefers⟩

lemma isLiteral_iff {template : LabelTemplate} :
    template.isLiteral = true ↔ ∀ index digits, .group index digits ∉ template.segments := by
  rw [isLiteral, maxGroup?, Option.isNone_iff_eq_none, List.max?_eq_none_iff,
    List.filterMap_eq_nil_iff]
  constructor
  · intro h index digits hmem
    cases h _ hmem
  · intro h segment hmem
    cases segment with
    | literal text => rfl
    | group index digits => exact absurd hmem (h index digits)

/-! ## Templates -/

/-- The template says what the text says: it is written as the text, its literals are not empty and
stand apart, its references are those of the text, and it is rendered as the text is. -/
structure IsReadFrom (template : LabelTemplate) (text : String) : Prop where
  written : String.join (template.segments.map Segment.written) = text
  nonempty : ∀ literal, .literal literal ∈ template.segments → literal ≠ ""
  apart : template.segments.IsChain Separates
  references : ∀ before index digits after,
    ReferenceAt template.segments before index digits after ↔
      RefersAt text.toList before index digits after
  renders : ∀ (found : Regex.Match) (out : String),
    Renders found.group text.toList out.toList ↔ template.render found = out
  unchanged : ∀ found : Regex.Match,
    (∀ before index digits after, RefersAt text.toList before index digits after →
      found.group index = none) → template.render found = text
  literal : template.isLiteral = true ↔
    ∀ index digits, .group index digits ∉ template.segments

/-- A template that is read from a text says what the text says. -/
theorem isReadFrom_parse (text : String) : (parse text).IsReadFrom text where
  written := by
    apply String.toList_inj.1
    rw [String.toList_join, List.flatMap_map]
    exact writtenAll_segmentsOf text.toList
  nonempty := ne_empty_of_mem_segmentsOf text.toList
  apart := isChain_segmentsOf text.toList
  references := fun before index digits after =>
    referenceAt_iff text.toList before index digits after
  renders := by
    intro found out
    constructor
    · intro h
      apply String.toList_inj.1
      rw [toList_render]
      exact h.eq_renderedAll.symm
    · rintro rfl
      rw [toList_render]
      exact renders_segmentsOf found text.toList
  unchanged := by
    intro found h
    apply String.toList_inj.1
    rw [toList_render]
    exact renderedAll_eq_self h
  literal := isLiteral_iff

/-- A dollar sign before another one is text, and so is one with a number that is too high; a zero in
front of a number changes nothing. -/
example : (parse "$$01 $18446744073709551616$").segments =
    [.literal "$", .group 1 "01", .literal " $18446744073709551616$"] := by
  decide

end LabelTemplate

end PullTriage
