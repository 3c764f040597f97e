import PullTriage.Json.Printer
import PullTriage.Proofs.Json.Grammar
import PullTriage.Proofs.Text.Decimal

/-!
# What is written is read back

The text of a value can be cut into the tokens of the value (`cuts_value`), so it writes the value
(`writtenAs_print`) and is read as it, and so are its bytes (`ofString?_print`, `ofBytes?_print`).

A number keeps its digits, so the one thing to ask of a value is that the text of each number in it
is that of a number (`WellFormed`).
-/

namespace PullTriage.Json

open Text

/-- Every number of the value is written as a number. -/
inductive WellFormed : Json → Prop
  | null : WellFormed .null
  | bool (value : Bool) : WellFormed (.bool value)
  | number {lexeme : String} (h : isNumber lexeme.toList = true) : WellFormed (.number lexeme)
  | string (content : Option String) : WellFormed (.string content)
  | array {items : List Json} (h : ∀ v ∈ items, WellFormed v) : WellFormed (.array items)
  | object {members : List (Option String × Json)} (h : ∀ m ∈ members, WellFormed m.2) :
      WellFormed (.object members)

lemma WellFormed.text (s : String) : WellFormed (.text s) :=
  .string (some s)

lemma WellFormed.ofText? (value : Option String) : WellFormed (.ofText? value) := by
  cases value with
  | none => exact .null
  | some s => exact .text s

lemma WellFormed.ofTexts (texts : List String) : WellFormed (.ofTexts texts) := by
  refine .array fun v hv => ?_
  obtain ⟨s, -, rfl⟩ := List.mem_map.1 hv
  exact .text s

lemma WellFormed.ofMembers {members : List (String × Json)} (h : ∀ m ∈ members, WellFormed m.2) :
    WellFormed (.ofMembers members) := by
  refine .object fun m hm => ?_
  obtain ⟨named, hnamed, rfl⟩ := List.mem_map.1 hm
  exact h named hnamed

lemma isNumber_toString (n : Nat) : isNumber (toString n).toList = true := by
  have digits (c : Char) (hc : c ∈ (toString n).toList) := Text.isDigit_of_mem_toString hc
  rw [Nat.toString_eq_repr, Nat.toList_repr] at digits ⊢
  rcases Nat.eq_zero_or_pos n with rfl | hn
  · rw [Nat.toDigits_zero]
    decide
  · obtain ⟨c, rest, hdigits, hzero⟩ := Text.exists_toDigits_eq_cons hn
    rw [hdigits] at digits ⊢
    obtain ⟨hc, hrest⟩ := List.forall_mem_cons.1 digits
    have hsign : c ≠ '-' := by
      rintro rfl
      exact absurd hc (by decide)
    rw [isNumber, isUnsigned, hc, List.dropWhile_eq_nil_iff.2 hrest]
    · rfl
    · exact hzero
    · exact fun _ heq => hsign (List.cons.inj heq).1

lemma WellFormed.natural (n : Nat) : WellFormed (.natural n) :=
  .number (isNumber_toString n)

/-! ## Strings -/

lemma hexDigit?_hexChar : ∀ n < 16, Unicode.hexDigit? (hexChar n) = some n := by
  decide

/-- What a character is escaped to is one part of a string, which stands for the character. -/
lemma exists_piece (c : Char) : ∃ piece,
    (∀ source pieces, Spells source pieces →
      Spells ((escape c).map some ++ source) (piece :: pieces)) ∧
    ∀ pieces text, Stands pieces text → Stands (piece :: pieces) (c :: text) := by
  unfold escape
  split
  -- Seven characters have an escape of their own; the others are written as a unit or as they are.
  case h_8 _ hquote hback _ _ _ _ _ =>
    split_ifs with hcontrol
    · have unit : unit? '0' '0' (hexChar (c.toNat / 16)) (hexChar (c.toNat % 16)) =
          some c.toNat := by
        have zero : Unicode.hexDigit? '0' = some 0 := by decide
        have value : ((0 * 16 + 0) * 16 + c.toNat / 16) * 16 + c.toNat % 16 = c.toNat := by omega
        rw [unit?, zero, hexDigit?_hexChar _ (by omega), hexDigit?_hexChar _ (by omega)]
        exact congrArg some value
      refine ⟨.unit c.toNat, fun source pieces h => .unit unit h, fun pieces text h => ?_⟩
      have stands := Stands.unit (.inl (by omega : c.toNat < 0xD800)) h
      rwa [Char.ofNat_toNat] at stands
    · exact ⟨.char c, fun source pieces h => .char hquote hback (Nat.not_lt.1 hcontrol) h,
        fun pieces text h => .char h⟩
  all_goals exact ⟨.char _, fun source pieces h => .escape rfl h, fun pieces text h => .char h⟩

/-- An escaped text is the parts of a string that stand for the text. -/
lemma exists_spells_escaped (text : List Char) : ∃ pieces,
    Spells ((text.flatMap escape).map some) pieces ∧ Stands pieces text := by
  induction text with
  | nil => exact ⟨[], .nil, .nil⟩
  | cons c text ih =>
    obtain ⟨pieces, hspells, hstands⟩ := ih
    obtain ⟨piece, hpiece, hchar⟩ := exists_piece c
    refine ⟨piece :: pieces, ?_, hchar _ _ hstands⟩
    rw [List.flatMap_cons, List.map_append]
    exact hpiece _ _ hspells

/-- A text begins with the string that is printed in front of it. -/
lemma begins_printContent (content : Option String) (rest : List Symbol) :
    Begins ((printContent content).map some ++ rest) (.string content) rest := by
  cases content with
  | none =>
    have lone : Spells [some '\\', some 'u', some 'd', some '8', some '0', some '0']
        [.unit 0xD800] := .unit (by decide) .nil
    exact .string lone (isContent_iff.2 rfl)
  | some s =>
    obtain ⟨pieces, hspells, hstands⟩ := exists_spells_escaped s.toList
    have content : IsContent pieces (some s) := by
      rw [isContent_iff, contentOf?_eq_some_iff.2 hstands, Option.map_some, String.ofList_toList]
    have begins : Begins _ _ rest := .string hspells content
    simpa [printContent, printString] using begins

/-! ## Values -/

/-- A word or a number ends where the text begins. -/
def Separates (text : List Symbol) : Prop :=
  Ends Char.isAlpha text ∧ Ends isNumberChar text

lemma separates_cons {c : Char} (hc : c.isAlpha = false ∧ isNumberChar c = false)
    (rest : List Symbol) : Separates (some c :: rest) := by
  constructor
  · rintro _ ⟨⟩
    exact hc.1
  · rintro _ ⟨⟩
    exact hc.2

variable {text : List Symbol} {ts : List Token}

/-- Whatever ends a word and a number may follow the text of the value, which is cut into its
tokens. -/
def PrintsTokens (v : Json) : Prop :=
  ∀ text ts, Separates text → Cuts text ts → Cuts (v.chars.map some ++ text) (v.tokens ++ ts)

lemma separates_itemChars (items : List Json) (text : List Symbol) :
    Separates ((itemChars false items).map some ++ text) := by
  cases items with
  | nil => exact separates_cons (by decide) _
  | cons v items => exact separates_cons (by decide) _

lemma separates_memberChars (members : List (Option String × Json)) (text : List Symbol) :
    Separates ((memberChars false members).map some ++ text) := by
  cases members with
  | nil => exact separates_cons (by decide) _
  | cons m members => exact separates_cons (by decide) _

/-- A comma in front of what is not the first. -/
lemma Cuts.comma (h : Cuts text ts) (first : Bool) :
    Cuts ((if first then [] else [','] : List Char).map some ++ text)
      ((if first then [] else [.comma]) ++ ts) := by
  cases first with
  | true => exact h
  | false => exact .token (.comma text) h

lemma cuts_items {items : List Json} (hitems : ∀ v ∈ items, PrintsTokens v) (h : Cuts text ts)
    (first : Bool) :
    Cuts ((itemChars first items).map some ++ text) (itemTokens first items ++ ts) := by
  induction items generalizing first with
  | nil => exact .token (.endArray text) h
  | cons v items ih =>
    obtain ⟨hv, hitems⟩ := List.forall_mem_cons.1 hitems
    have rest := hv _ _ (separates_itemChars items text) (ih hitems false)
    have whole := rest.comma first
    simpa only [itemChars, itemTokens, List.map_append, List.append_assoc] using whole

lemma cuts_members {members : List (Option String × Json)}
    (hmembers : ∀ m ∈ members, PrintsTokens m.2) (h : Cuts text ts) (first : Bool) :
    Cuts ((memberChars first members).map some ++ text) (memberTokens first members ++ ts) := by
  induction members generalizing first with
  | nil => exact .token (.endObject text) h
  | cons m members ih =>
    obtain ⟨key, v⟩ := m
    obtain ⟨hv, hmembers⟩ := List.forall_mem_cons.1 hmembers
    have value := hv _ _ (separates_memberChars members text) (ih hmembers false)
    have named := Cuts.token (begins_printContent key _) (.token (.colon _) value)
    have whole := named.comma first
    simpa only [memberChars, memberTokens, List.map_append, List.map_cons, List.append_assoc,
      List.cons_append] using whole

/-- The text of a value is cut into its tokens. -/
lemma cuts_value {v : Json} (hv : WellFormed v) : PrintsTokens v := by
  induction hv with
  | null => exact fun text ts hstop h => .token (.word rfl hstop.1) h
  | bool value =>
    cases value with
    | true => exact fun text ts hstop h => .token (.word rfl hstop.1) h
    | false => exact fun text ts hstop h => .token (.word rfl hstop.1) h
  | number hnumber => exact fun text ts hstop h => .token (.number hnumber hstop.2) h
  | string content => exact fun text ts _ h => .token (begins_printContent content text) h
  | array _ ih =>
    intro text ts _ h
    exact .token (.beginArray _) (cuts_items ih h true)
  | object _ ih =>
    intro text ts _ h
    exact .token (.beginObject _) (cuts_members ih h true)

/-- The text of a value writes the value. -/
theorem writtenAs_print {v : Json} (h : WellFormed v) :
    v.WrittenAs (v.print.toList.map some) := by
  have cuts := cuts_value h [] [] ⟨nofun, nofun⟩ .nil
  rw [List.append_nil, List.append_nil] at cuts
  rw [WrittenAs, print, String.toList_ofList]
  exact cuts

/-- The text of a value is read as the value. -/
theorem ofString?_print {v : Json} (h : WellFormed v) : ofString? v.print = some v :=
  ofString?_eq_some_iff.2 (writtenAs_print h)

/-- The bytes of the text of a value are read as the value. -/
theorem ofBytes?_print {v : Json} (h : WellFormed v) : ofBytes? v.print.toUTF8 = some v := by
  rw [ofBytes?, Text.symbols_toUTF8]
  exact ofString?_print h

end PullTriage.Json
