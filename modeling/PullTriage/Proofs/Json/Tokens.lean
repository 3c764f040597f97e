import PullTriage.Json.Token
import PullTriage.Proofs.Text.Encoding
import Mathlib.Data.List.TakeWhile

/-!
# Texts and their tokens

The tokens of a JSON text, without the scanner: a text `Cuts` into tokens if these stand in it one
behind the other, with white space anywhere between them, and a word or a number goes on for as long
as its characters do.  A string is any sequence of characters and escapes between quotes (`Spells`),
and it has a text unless half of a surrogate pair stands alone in it or a byte that is no part of a
character (`Stands`).

Scanning finds these tokens if there are any, and fails otherwise: `tokens?_eq_some_iff`.
-/

namespace PullTriage.Json

open Text

/-! ## Strings -/

/-- What stands between the quotes of a string, in parts. -/
inductive Spells : List Symbol → List Piece → Prop where
  | nil : Spells [] []
  | char {c : Char} {source : List Symbol} {pieces : List Piece} : c ≠ '"' → c ≠ '\\' →
      0x20 ≤ c.toNat → Spells source pieces → Spells (some c :: source) (.char c :: pieces)
  | escape {e c : Char} {source : List Symbol} {pieces : List Piece} : escaped? e = some c →
      Spells source pieces → Spells (some '\\' :: some e :: source) (.char c :: pieces)
  | unit {a b c d : Char} {code : Nat} {source : List Symbol} {pieces : List Piece} :
      unit? a b c d = some code → Spells source pieces →
      Spells (some '\\' :: some 'u' :: some a :: some b :: some c :: some d :: source)
        (.unit code :: pieces)
  | stray {source : List Symbol} {pieces : List Piece} : Spells source pieces →
      Spells (none :: source) (.stray :: pieces)

/-- The text that the parts of a string stand for.  Two code units can be one character. -/
inductive Stands : List Piece → List Char → Prop where
  | nil : Stands [] []
  | char {c : Char} {pieces : List Piece} {text : List Char} : Stands pieces text →
      Stands (.char c :: pieces) (c :: text)
  | unit {code : Nat} {pieces : List Piece} {text : List Char} : code < 0xD800 ∨ 0xE000 ≤ code →
      Stands pieces text → Stands (.unit code :: pieces) (Char.ofNat code :: text)
  | pair {high low : Nat} {pieces : List Piece} {text : List Char} : 0xD800 ≤ high →
      high < 0xDC00 → 0xDC00 ≤ low → low < 0xE000 → Stands pieces text →
      Stands (.unit high :: .unit low :: pieces)
        (Char.ofNat (0x10000 + (high - 0xD800) * 0x400 + (low - 0xDC00)) :: text)

lemma escaped?_eq_some_ne {e c : Char} (h : escaped? e = some c) : e ≠ 'u' := by
  rintro rfl
  cases h

lemma readString_append {source : List Symbol} {pieces : List Piece} (h : Spells source pieces)
    (rest : List Symbol) : readString (source ++ some '"' :: rest) = some (pieces, rest) := by
  induction h with
  | nil => rfl
  | char hquote hback hcontrol _ ih =>
    rw [List.cons_append, readString, if_neg, ih]
    · rfl
    · simp [hback, hcontrol]
    · exact hquote
    · exact fun _ _ _ _ _ _ => hback
    · exact fun _ _ _ => hback
  | escape hescape _ ih =>
    rw [List.cons_append, List.cons_append, readString]
    · simp only [hescape, ih, Option.map_some]
    · exact fun _ _ _ _ _ _ => escaped?_eq_some_ne hescape
  | unit hunit _ ih =>
    simp only [List.cons_append, readString, hunit, ih, Option.map_some]
  | stray _ ih =>
    rw [List.cons_append, readString, ih]
    rfl

/-- A part is put in front of what the rest of the string is read as. -/
lemma exists_of_map_piece {found : Option (List Piece × List Symbol)} {piece : Piece}
    {pieces : List Piece} {rest : List Symbol}
    (h : found.map (fun r => (piece :: r.1, r.2)) = some (pieces, rest)) :
    ∃ more, found = some (more, rest) ∧ pieces = piece :: more := by
  obtain ⟨⟨more, _⟩, hfound, heq⟩ := Option.map_eq_some_iff.1 h
  cases heq
  exact ⟨more, hfound, rfl⟩

/-- A string is read up to the first quote that belongs to no escape. -/
lemma readString_eq_some_iff {symbols rest : List Symbol} {pieces : List Piece} :
    readString symbols = some (pieces, rest) ↔
      ∃ source, symbols = source ++ some '"' :: rest ∧ Spells source pieces := by
  constructor
  · intro h
    fun_induction readString symbols generalizing pieces with
    | case1 => cases h
    | case2 after =>
      cases h
      exact ⟨[], rfl, .nil⟩
    | case3 a b c d after code hunit ih =>
      obtain ⟨more, hmore, rfl⟩ := exists_of_map_piece h
      obtain ⟨source, rfl, hspells⟩ := ih hmore
      exact ⟨_ :: _ :: _ :: _ :: _ :: _ :: source, rfl, .unit hunit hspells⟩
    | case4 a b c d after hunit => cases h
    | case5 e after hunits c hescape ih =>
      obtain ⟨more, hmore, rfl⟩ := exists_of_map_piece h
      obtain ⟨source, rfl, hspells⟩ := ih hmore
      exact ⟨_ :: _ :: source, rfl, .escape hescape hspells⟩
    | case6 e after hunits hescape => cases h
    | case7 c after hquote hunits hescapes hplain => cases h
    | case8 c after hquote hunits hescapes hplain ih =>
      obtain ⟨more, hmore, rfl⟩ := exists_of_map_piece h
      obtain ⟨source, rfl, hspells⟩ := ih hmore
      simp only [Bool.or_eq_true, decide_eq_true_eq, not_or, Nat.not_lt] at hplain
      exact ⟨_ :: source, rfl, .char hquote hplain.1 hplain.2 hspells⟩
    | case9 after ih =>
      obtain ⟨more, hmore, rfl⟩ := exists_of_map_piece h
      obtain ⟨source, rfl, hspells⟩ := ih hmore
      exact ⟨_ :: source, rfl, .stray hspells⟩
  · rintro ⟨source, rfl, hspells⟩
    exact readString_append hspells rest

lemma contentOf?_unit_cons {code : Nat} (h : code < 0xD800 ∨ 0xE000 ≤ code) (rest : List Piece) :
    contentOf? (.unit code :: rest) = (contentOf? rest).map (Char.ofNat code :: ·) := by
  have hi : ¬ (decide (0xD800 ≤ code) && decide (code < 0xDC00)) = true := by simp; omega
  have lo : ¬ (decide (0xDC00 ≤ code) && decide (code < 0xE000)) = true := by simp; omega
  have half : ¬ (decide (0xD800 ≤ code) && decide (code < 0xE000)) = true := by simp; omega
  cases rest with
  | nil => simp only [contentOf?, if_neg half]
  | cons piece rest =>
    cases piece with
    | unit code' => simp only [contentOf?, if_neg hi, if_neg lo]
    | char c => simp only [contentOf?, if_neg half]
    | stray => simp only [contentOf?, if_neg half]

lemma contentOf?_of_stands {pieces : List Piece} {text : List Char} (h : Stands pieces text) :
    contentOf? pieces = some text := by
  induction h with
  | nil => rfl
  | char _ ih =>
    rw [contentOf?, ih]
    rfl
  | unit hcode _ ih =>
    rw [contentOf?_unit_cons hcode, ih]
    rfl
  | @pair high low pieces text hhigh hhigh' hlow hlow' _ ih =>
    have first : (decide (0xD800 ≤ high) && decide (high < 0xDC00)) = true := by
      simp [hhigh, hhigh']
    have second : (decide (0xDC00 ≤ low) && decide (low < 0xE000)) = true := by
      simp [hlow, hlow']
    rw [contentOf?, if_pos first, if_pos second, ih]
    rfl

/-- A string has the text that its parts stand for, and none if they stand for none. -/
lemma contentOf?_eq_some_iff {pieces : List Piece} {text : List Char} :
    contentOf? pieces = some text ↔ Stands pieces text := by
  refine ⟨fun h => ?_, contentOf?_of_stands⟩
  fun_induction contentOf? pieces generalizing text with
  | case1 =>
    cases h
    exact .nil
  | case2 c rest ih =>
    obtain ⟨more, hmore, rfl⟩ := Option.map_eq_some_iff.1 h
    exact .char (ih hmore)
  | case3 rest => cases h
  | case4 high low rest hhigh hlow ih =>
    obtain ⟨more, hmore, rfl⟩ := Option.map_eq_some_iff.1 h
    simp only [Bool.and_eq_true, decide_eq_true_eq] at hhigh hlow
    exact .pair hhigh.1 hhigh.2 hlow.1 hlow.2 (ih hmore)
  | case5 => cases h
  | case6 => cases h
  | case7 high low rest hhigh hlow ih =>
    obtain ⟨more, hmore, rfl⟩ := Option.map_eq_some_iff.1 h
    simp only [Bool.and_eq_true, decide_eq_true_eq] at hhigh hlow
    exact .unit (by omega) (ih hmore)
  | case8 => cases h
  | case9 code rest _ hcode ih =>
    obtain ⟨more, hmore, rfl⟩ := Option.map_eq_some_iff.1 h
    simp only [Bool.and_eq_true, decide_eq_true_eq] at hcode
    exact .unit (by omega) (ih hmore)

/-! ## Numbers and words -/

/-- No character that meets `p` comes first. -/
def Ends (p : Char → Bool) (rest : List Symbol) : Prop :=
  ∀ c, rest.head? = some (some c) → p c = false

/-- A span is as long as its characters go on. -/
lemma spanChars_eq_iff {p : Char → Bool} {symbols rest : List Symbol} {word : List Char} :
    spanChars p symbols = (word, rest) ↔
      symbols = word.map some ++ rest ∧ (∀ c ∈ word, p c = true) ∧ Ends p rest := by
  constructor
  · intro h
    fun_induction spanChars p symbols generalizing word with
    | case1 c after hc cs more hspan ih =>
      cases h
      obtain ⟨rfl, hcs, hends⟩ := ih hspan
      exact ⟨rfl, List.forall_mem_cons.2 ⟨hc, hcs⟩, hends⟩
    | case2 c after hc =>
      cases h
      refine ⟨rfl, nofun, ?_⟩
      rintro _ ⟨⟩
      simpa using hc
    | case3 symbols hno =>
      cases h
      refine ⟨rfl, nofun, fun c hc => ?_⟩
      obtain ⟨more, rfl⟩ := List.head?_eq_some_iff.1 hc
      exact absurd rfl (hno c more)
  · rintro ⟨rfl, hword, hends⟩
    induction word with
    | nil =>
      match rest with
      | [] => rfl
      | none :: after => rfl
      | some c :: after =>
        have hc : p c = false := hends c rfl
        rw [List.map_nil, List.nil_append, spanChars, if_neg (by simp [hc])]
    | cons c word ih =>
      obtain ⟨hc, hword⟩ := List.forall_mem_cons.1 hword
      rw [List.map_cons, List.cons_append, spanChars, if_pos hc, ih hword]

lemma isNumberChar_of_isDigit {c : Char} (h : c.isDigit = true) : isNumberChar c = true := by
  simp [isNumberChar, h]

/-- White space is in no word and in no number. -/
lemma isSpace_of_scalar {c : Char} (h : c.isAlpha = true ∨ isNumberChar c = true) :
    isSpace c = false := by
  refine Bool.eq_false_iff.2 fun hspace => ?_
  simp only [isSpace, Bool.or_eq_true, beq_iff_eq] at hspace
  rcases hspace with ((rfl | rfl) | rfl) | rfl <;> exact absurd h (by decide)

lemma isAlpha_of_isDigit {c : Char} (h : c.isDigit = true) : c.isAlpha = false := by
  refine Bool.eq_false_iff.2 fun halpha => ?_
  have digit : c.toNat ≤ 57 := (Char.isDigit_iff_toNat.1 h).2
  have letter := (Text.toNat_of_isAlpha halpha).1
  omega

lemma isNumberChar_of_isExponent {cs : List Char} (h : isExponent cs = true) :
    ∀ c ∈ cs, isNumberChar c = true := by
  cases cs with
  | nil => nofun
  | cons c rest =>
    unfold isExponent at h
    simp only [Bool.and_eq_true, Bool.or_eq_true, beq_iff_eq, List.all_eq_true] at h
    obtain ⟨hc, -, hdigits⟩ := h
    have first : isNumberChar c = true := by
      rcases hc with rfl | rfl <;> decide
    refine List.forall_mem_cons.2 ⟨first, ?_⟩
    split at hdigits
    · exact List.forall_mem_cons.2 ⟨by decide, fun d hd => isNumberChar_of_isDigit (hdigits d hd)⟩
    · exact List.forall_mem_cons.2 ⟨by decide, fun d hd => isNumberChar_of_isDigit (hdigits d hd)⟩
    · exact fun d hd => isNumberChar_of_isDigit (hdigits d hd)

/-- The digits at the start of a text, and something after them. -/
lemma isNumberChar_of_digits {cs : List Char}
    (h : ∀ c ∈ cs.dropWhile Char.isDigit, isNumberChar c = true) :
    ∀ c ∈ cs, isNumberChar c = true := by
  intro c hc
  rw [← List.takeWhile_append_dropWhile (p := Char.isDigit) (l := cs), List.mem_append] at hc
  rcases hc with hc | hc
  · exact isNumberChar_of_isDigit (List.mem_takeWhile_imp hc)
  · exact h c hc

lemma isNumberChar_of_isFraction {cs : List Char} (h : isFraction cs = true) :
    ∀ c ∈ cs, isNumberChar c = true := by
  unfold isFraction at h
  split at h
  · rw [Bool.and_eq_true] at h
    refine List.forall_mem_cons.2 ⟨by decide, ?_⟩
    exact isNumberChar_of_digits (isNumberChar_of_isExponent h.2)
  · exact isNumberChar_of_isExponent h

lemma isNumberChar_of_isUnsigned {cs : List Char} (h : isUnsigned cs = true) :
    ∀ c ∈ cs, isNumberChar c = true := by
  unfold isUnsigned at h
  split at h
  · exact List.forall_mem_cons.2 ⟨by decide, isNumberChar_of_isFraction h⟩
  · rw [Bool.and_eq_true] at h
    refine List.forall_mem_cons.2 ⟨isNumberChar_of_isDigit h.1, ?_⟩
    exact isNumberChar_of_digits (isNumberChar_of_isFraction h.2)
  · cases h

/-- A number begins with a digit or the sign. -/
lemma exists_of_isNumber {cs : List Char} (h : isNumber cs = true) :
    ∃ c rest, cs = c :: rest ∧ (c.isDigit = true ∨ c = '-') ∧
      ∀ d ∈ rest, isNumberChar d = true := by
  unfold isNumber at h
  split at h
  · exact ⟨'-', _, rfl, .inr rfl, isNumberChar_of_isUnsigned h⟩
  · have chars := isNumberChar_of_isUnsigned h
    unfold isUnsigned at h
    split at h
    · exact ⟨'0', _, rfl, .inl (by decide), (List.forall_mem_cons.1 chars).2⟩
    · next c rest _ _ =>
      rw [Bool.and_eq_true] at h
      exact ⟨c, rest, rfl, .inl h.1, (List.forall_mem_cons.1 chars).2⟩
    · cases h

/-- A character that can stand in a word or a number is no punctuation. -/
lemma read_of_scalar {c : Char} (h : c.isAlpha = true ∨ isNumberChar c = true)
    (rest : List Text.Symbol) : Token.read c rest =
      if c.isAlpha then (wordToken? (c :: (spanChars Char.isAlpha rest).1)).map fun t =>
        (t, (spanChars Char.isAlpha rest).2)
      else if isNumber (c :: (spanChars isNumberChar rest).1) then
        some (.number (String.ofList (c :: (spanChars isNumberChar rest).1)),
          (spanChars isNumberChar rest).2)
      else none := by
  unfold Token.read
  split
  · exact absurd h (by decide)
  · exact absurd h (by decide)
  · exact absurd h (by decide)
  · exact absurd h (by decide)
  · exact absurd h (by decide)
  · exact absurd h (by decide)
  · exact absurd h (by decide)
  · rfl

/-! ## Tokens -/

/-- The content of a string in parts: their text, if they have one. -/
def IsContent (pieces : List Piece) (content : Option String) : Prop :=
  ∀ text : String, content = some text ↔ Stands pieces text.toList

/-- The text begins with the token, and this is what stands behind it. -/
inductive Begins : List Symbol → Token → List Symbol → Prop where
  | beginArray (rest : List Symbol) : Begins (some '[' :: rest) .beginArray rest
  | endArray (rest : List Symbol) : Begins (some ']' :: rest) .endArray rest
  | beginObject (rest : List Symbol) : Begins (some '\x7b' :: rest) .beginObject rest
  | endObject (rest : List Symbol) : Begins (some '\x7d' :: rest) .endObject rest
  | comma (rest : List Symbol) : Begins (some ',' :: rest) .comma rest
  | colon (rest : List Symbol) : Begins (some ':' :: rest) .colon rest
  | string {source rest : List Symbol} {pieces : List Piece} {content : Option String} :
      Spells source pieces → IsContent pieces content →
      Begins (some '"' :: (source ++ some '"' :: rest)) (.string content) rest
  | word {word : List Char} {t : Token} {rest : List Symbol} : wordToken? word = some t →
      Ends Char.isAlpha rest → Begins (word.map some ++ rest) t rest
  | number {lexeme : String} {rest : List Symbol} : isNumber lexeme.toList = true →
      Ends isNumberChar rest → Begins (lexeme.toList.map some ++ rest) (.number lexeme) rest

lemma isContent_iff {pieces : List Piece} {content : Option String} :
    IsContent pieces content ↔ content = (contentOf? pieces).map String.ofList := by
  have read (text : String) :
      (contentOf? pieces).map String.ofList = some text ↔ Stands pieces text.toList := by
    rw [Option.map_eq_some_iff, ← contentOf?_eq_some_iff]
    constructor
    · rintro ⟨chars, hchars, rfl⟩
      rw [hchars, String.toList_ofList]
    · exact fun h => ⟨_, h, String.ofList_toList⟩
  constructor
  · intro h
    exact Option.ext fun text => (h text).trans (read text).symm
  · rintro rfl
    exact read

/-- A text is the tokens in it, one behind the other, with white space anywhere between them. -/
inductive Cuts : List Symbol → List Token → Prop where
  | nil : Cuts [] []
  | space {c : Char} {rest : List Symbol} {ts : List Token} : isSpace c = true → Cuts rest ts →
      Cuts (some c :: rest) ts
  | token {text rest : List Symbol} {t : Token} {ts : List Token} : Begins text t rest →
      Cuts rest ts → Cuts text (t :: ts)

variable {c : Char} {rest after : List Symbol} {t : Token}

/-- A word is one of three, and all of it are letters. -/
lemma exists_of_wordToken? {word : List Char} (h : wordToken? word = some t) :
    ∃ c more, word = c :: more ∧ ∀ d ∈ word, d.isAlpha = true := by
  unfold wordToken? at h
  split at h
  · exact ⟨_, _, rfl, List.all_eq_true.1 (by decide)⟩
  · exact ⟨_, _, rfl, List.all_eq_true.1 (by decide)⟩
  · exact ⟨_, _, rfl, List.all_eq_true.1 (by decide)⟩
  · cases h

lemma begins_of_read (h : Token.read c rest = some (t, after)) :
    Begins (some c :: rest) t after := by
  unfold Token.read at h
  split at h
  · cases h
    exact .beginArray _
  · cases h
    exact .endArray _
  · cases h
    exact .beginObject _
  · cases h
    exact .endObject _
  · cases h
    exact .comma _
  · cases h
    exact .colon _
  · obtain ⟨⟨pieces, _⟩, hread, heq⟩ := Option.map_eq_some_iff.1 h
    cases heq
    obtain ⟨source, rfl, hspells⟩ := readString_eq_some_iff.1 hread
    exact .string hspells (isContent_iff.2 rfl)
  · split_ifs at h with halpha
    · obtain ⟨hrest, -, hends⟩ := spanChars_eq_iff.1 (Prod.eta (spanChars Char.isAlpha rest)).symm
      obtain ⟨_, hword, heq⟩ := Option.map_eq_some_iff.1 h
      cases heq
      have begins := Begins.word hword hends
      rw [List.map_cons, List.cons_append, ← hrest] at begins
      exact begins
    · obtain ⟨hrest, -, hends⟩ := spanChars_eq_iff.1 (Prod.eta (spanChars isNumberChar rest)).symm
      obtain ⟨hnumber, heq⟩ := Option.ite_none_right_eq_some.1 h
      cases heq
      have lexeme : (String.ofList (c :: (spanChars isNumberChar rest).1)).toList =
          c :: (spanChars isNumberChar rest).1 := String.toList_ofList
      have begins := Begins.number (lexeme.symm ▸ hnumber) hends
      rw [lexeme, List.map_cons, List.cons_append, ← hrest] at begins
      exact begins

/-- What begins with a token is read as the token, and white space is none. -/
lemma Begins.read {text : List Symbol} (h : Begins text t after) :
    ∃ c rest, text = some c :: rest ∧ isSpace c = false ∧
      Token.read c rest = some (t, after) := by
  cases h with
  | string hspells hcontent =>
    refine ⟨_, _, rfl, by decide, ?_⟩
    change (readString _).map _ = _
    rw [readString_append hspells, isContent_iff.1 hcontent]
    rfl
  | @word word _ _ hword hends =>
    obtain ⟨c, more, rfl, halpha⟩ := exists_of_wordToken? hword
    obtain ⟨hc, hmore⟩ := List.forall_mem_cons.1 halpha
    refine ⟨c, more.map some ++ after, rfl, isSpace_of_scalar (.inl hc), ?_⟩
    rw [read_of_scalar (.inl hc), if_pos hc, spanChars_eq_iff.2 ⟨rfl, hmore, hends⟩, hword]
    rfl
  | @number lexeme _ hnumber hends =>
    obtain ⟨c, digits, hlexeme, hc, hdigits⟩ := exists_of_isNumber hnumber
    have first : c.isAlpha = false ∧ isNumberChar c = true := by
      rcases hc with hc | rfl
      · exact ⟨isAlpha_of_isDigit hc, isNumberChar_of_isDigit hc⟩
      · decide
    rw [hlexeme] at hnumber ⊢
    refine ⟨c, digits.map some ++ after, rfl, isSpace_of_scalar (.inr first.2), ?_⟩
    rw [read_of_scalar (.inr first.2), if_neg (by simp [first.1]),
      spanChars_eq_iff.2 ⟨rfl, hdigits, hends⟩, if_pos hnumber, ← hlexeme, String.ofList_toList]
  | _ => exact ⟨_, _, rfl, by decide, rfl⟩

lemma Begins.length_lt {text : List Symbol} (h : Begins text t after) :
    after.length < text.length := by
  cases h with
  | string _ _ =>
    rw [List.length_cons, List.length_append, List.length_cons]
    omega
  | @word word _ _ hword _ =>
    obtain ⟨c, more, rfl, -⟩ := exists_of_wordToken? hword
    rw [List.length_append, List.length_map, List.length_cons]
    omega
  | @number lexeme _ hnumber _ =>
    obtain ⟨c, digits, hlexeme, -⟩ := exists_of_isNumber hnumber
    rw [hlexeme, List.length_append, List.length_map, List.length_cons]
    omega
  | _ => exact Nat.lt_succ_self _

/-! ## Scanning -/

lemma cuts_of_scan {fuel : Nat} {text : List Symbol} {ts : List Token}
    (h : Token.scan fuel text = some ts) : Cuts text ts := by
  fun_induction Token.scan fuel text generalizing ts with
  | case1 =>
    cases h
    exact .nil
  | case2 => cases h
  | case3 => cases h
  | case4 fuel c rest hspace ih => exact .space hspace (ih h)
  | case5 fuel c rest hspace t after hread ih =>
    obtain ⟨more, hmore, rfl⟩ := Option.map_eq_some_iff.1 h
    exact .token (begins_of_read hread) (ih hmore)
  | case6 => cases h

lemma scan_of_cuts {text : List Symbol} {ts : List Token} (h : Cuts text ts) {fuel : Nat}
    (hfuel : text.length ≤ fuel) : Token.scan fuel text = some ts := by
  induction h generalizing fuel with
  | nil => cases fuel <;> rfl
  | space hspace _ ih =>
    cases fuel with
    | zero => simp at hfuel
    | succ fuel =>
      rw [Token.scan, if_pos hspace]
      exact ih (Nat.le_of_succ_le_succ hfuel)
  | @token text after t ts hbegins _ ih =>
    have shorter := hbegins.length_lt
    obtain ⟨c, rest, rfl, hspace, hread⟩ := hbegins.read
    cases fuel with
    | zero => simp at hfuel
    | succ fuel =>
      have enough : after.length ≤ fuel := by omega
      rw [Token.scan, if_neg (by simp [hspace]), hread]
      simp only [ih enough, Option.map_some]

/-- The tokens of a text are the ones that it can be cut into. -/
theorem tokens?_eq_some_iff {text : List Symbol} {ts : List Token} :
    tokens? text = some ts ↔ Cuts text ts :=
  ⟨cuts_of_scan, fun h => scan_of_cuts h (Nat.le_refl _)⟩

end PullTriage.Json
