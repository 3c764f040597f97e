import PullTriage.Proofs.Forge.Responses

/-!
# The content of a file

The text of a file comes in Base64, broken into lines.  Taking the white space out undoes the line
breaks, wherever they are, because there is none in Base64 itself (`Text.Wraps.filter_eq`).  What is
left has to be the one encoding of the bytes of a text: bytes have one encoding, and texts have
different bytes.  So the content says which text it is, or it is refused: `decodeFile_exact`.
-/

namespace PullTriage

/-- The first text is the second one with white space put in anywhere. -/
inductive Text.Wraps : List Char → List Char → Prop where
  | nil : Wraps [] []
  | blank {c : Char} {wrapped text : List Char} :
    Unicode.isBlank c = true → Wraps wrapped text → Wraps (c :: wrapped) text
  | keep {c : Char} {wrapped text : List Char} : Wraps wrapped text → Wraps (c :: wrapped) (c :: text)

/-- Taking all white space out undoes the wrapping of a text that has none. -/
lemma Text.Wraps.filter_eq {wrapped text : List Char} (h : Text.Wraps wrapped text)
    (hfree : ∀ c ∈ text, Unicode.isBlank c = false) :
    wrapped.filter (fun c => !Unicode.isBlank c) = text := by
  induction h with
  | nil => rfl
  | blank hc _ ih =>
    rw [List.filter_cons_of_neg (by simp [hc])]
    exact ih hfree
  | keep _ ih =>
    obtain ⟨hc, hrest⟩ := List.forall_mem_cons.1 hfree
    rw [List.filter_cons_of_pos (by simp [hc]), ih hrest]

namespace GitHubForge

/-- The Base64 form of a text. -/
def base64Of (text : String) : List Char :=
  Base64.encode text.toUTF8.data.toList

lemma base64Of_injective {text other : String} (h : base64Of text = base64Of other) :
    text = other := by
  have bytes : some text.toUTF8.data.toList = some other.toUTF8.data.toList := by
    rw [← Base64.decode?_encode, ← Base64.decode?_encode]
    exact congrArg Base64.decode? h
  have same : text.toUTF8 = other.toUTF8 :=
    ByteArray.ext (Array.toList_inj.1 (Option.some.inj bytes))
  have read := Text.decode?_toUTF8 text
  rw [same, Text.decode?_toUTF8] at read
  exact (Option.some.inj read).symm

/-- Decoding gives a text or says that it cannot. -/
lemma decodeContent_cases (fault content : String) :
    (∃ text, decodeContent fault content = .ok text ∧
        content.toList.filter (fun c => !Unicode.isBlank c) = base64Of text) ∨
      ∃ message, decodeContent fault content = .error (.decode message) := by
  unfold decodeContent
  split
  · exact .inr ⟨_, rfl⟩
  · rename_i bytes hbytes
    split
    · exact .inr ⟨_, rfl⟩
    · rename_i text htext
      have written := Base64.decode?_eq_some_iff.1 hbytes
      have utf8 : text.toUTF8 = ⟨bytes.toArray⟩ := (Text.decode?_eq_some_iff.1 htext).symm
      refine .inl ⟨text, rfl, ?_⟩
      rw [written, base64Of, utf8]

lemma decodeContent_eq_ok {fault content text : String}
    (h : content.toList.filter (fun c => !Unicode.isBlank c) = base64Of text) :
    decodeContent fault content = .ok text :=
  (decodeContent_eq_ok_iff h).2 (Text.decode?_toUTF8 text)

/-- Content in Base64, be it said or not, is read as a text if it is the one encoding of this text
with white space anywhere in it.  All other content is refused as not decodable.  No two texts have
an encoding in common, and reading a file goes by just this rule. -/
theorem decodeFile_exact (fault content : String) {encoding : Option String}
    (hencoding : encoding = none ∨ encoding = some "base64") :
    (∀ text, decodeFile fault (some content, encoding) = .ok text ↔
        content.toList.filter (fun c => !Unicode.isBlank c) = base64Of text) ∧
      ((∃ text, decodeFile fault (some content, encoding) = .ok text) ∨
        ∃ message, decodeFile fault (some content, encoding) = .error (.decode message)) ∧
      (∀ text, Text.Wraps content.toList (base64Of text) →
        decodeFile fault (some content, encoding) = .ok text) ∧
      (∀ text other, base64Of text = base64Of other → text = other) ∧
      ∀ (path : String) (response : Http.Response), response.isSuccess = true →
        (Json.ofBytes? response.body).bind contents? = some (some content, encoding) →
        reply (.readTextFile path) response =
          decodeFile response.fault (some content, encoding) := by
  have decoded : decodeFile fault (some content, encoding) = decodeContent fault content := by
    rcases hencoding with rfl | rfl
    · rfl
    · rfl
  rw [decoded]
  refine ⟨fun text => ⟨fun h => ?_, decodeContent_eq_ok⟩, ?_, fun text h => ?_,
    fun _ _ => base64Of_injective, fun path response hsuccess hbody => ?_⟩
  · rcases decodeContent_cases fault content with ⟨other, hother, hwritten⟩ | ⟨message, hmessage⟩
    · rw [h] at hother
      cases hother
      exact hwritten
    · rw [h] at hmessage
      cases hmessage
  · rcases decodeContent_cases fault content with ⟨text, htext, -⟩ | hfails
    · exact .inl ⟨text, htext⟩
    · exact .inr hfails
  · exact decodeContent_eq_ok (h.filter_eq (Base64.isBlank_of_mem_encode _))
  · rw [reply_of_isSuccess hsuccess, answer, hbody]
    rfl

/-- A letter of two bytes, with an em space within and a line break behind. -/
theorem decodeFile_exact_wrapped :
    (some "base64" = none ∨ some "base64" = some "base64") ∧
      decodeFile "" (some "w6\u2003kK\r\n", none) = .ok "é\n" ∧
      decodeFile "" (some "w6\u2003kK\r\n", some "base64") = .ok "é\n" := by
  have encoded : "w6\u2003kK\r\n".toList.filter (fun c => !Unicode.isBlank c) = base64Of "é\n" := by
    decide +kernel
  exact ⟨.inr rfl, ((decodeFile_exact "" _ (.inl rfl)).1 "é\n").2 encoded,
    ((decodeFile_exact "" _ (.inr rfl)).1 "é\n").2 encoded⟩

end GitHubForge

end PullTriage
