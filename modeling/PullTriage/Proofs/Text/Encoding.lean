import PullTriage.Text.Base64
import PullTriage.Text.Utf8
import PullTriage.Unicode.Basic
import Mathlib.Tactic.Lemma
import Mathlib.Tactic.SplitIfs

/-!
# Texts as bytes and back

A text is decoded from its bytes and from no others, and the symbols of its bytes are its characters
(`symbols_toUTF8`).  Bytes are decoded from their Base64 text (`decode?_encode`), and since reading
lets no bit pass that belongs to no byte, from no other text either (`encode_of_decode?`).
-/

namespace PullTriage

namespace Text

/-! ## ASCII -/

/-- A letter is one of the first 128 characters, and stands behind the digits. -/
lemma toNat_of_isAlpha {c : Char} (h : c.isAlpha = true) : 65 ≤ c.toNat ∧ c.toNat ≤ 122 := by
  rcases Bool.or_eq_true_iff.1 h with hupper | hlower
  · obtain ⟨hfrom, hto⟩ : 'A'.val ≤ c.val ∧ c.val ≤ 'Z'.val := of_decide_eq_true hupper
    exact ⟨hfrom, Nat.le_trans (UInt32.le_iff_toNat_le.1 hto) (by decide)⟩
  · obtain ⟨hfrom, hto⟩ := Bool.and_eq_true_iff.1 hlower
    have hfrom : 97 ≤ c.toNat := of_decide_eq_true hfrom
    exact ⟨Nat.le_trans (by decide) hfrom, of_decide_eq_true hto⟩

/-- What holds of all characters below a bound can be checked number by number. -/
lemma exists_ofNat_eq {c : Char} {bound : Nat} (h : c.toNat < bound) :
    ∃ n < bound, Char.ofNat n = c :=
  ⟨c.toNat, h, Char.ofNat_toNat c⟩

/-! ## UTF-8 -/

lemma size_utf8Encode_append (before rest : List Char) :
    (before ++ rest).utf8Encode.size = before.utf8Encode.size + rest.utf8Encode.size := by
  rw [List.utf8Encode_append, ByteArray.size_append]

lemma size_utf8Encode_singleton (c : Char) : [c].utf8Encode.size = c.utf8Size := by
  rw [List.utf8Encode_singleton, List.size_toByteArray, String.length_utf8EncodeChar]

lemma length_le_size_utf8Encode (text : List Char) : text.length ≤ text.utf8Encode.size := by
  induction text with
  | nil => exact Nat.le_refl 0
  | cons c text ih =>
    have hsize := size_utf8Encode_append [c] text
    have hc := c.utf8Size_pos
    rw [List.singleton_append, size_utf8Encode_singleton] at hsize
    rw [List.length_cons]
    omega

/-- The symbols of a text from the end of a part of it on are the characters of the rest. -/
lemma symbolsFrom_append (before rest : List Char) {fuel : Nat} (h : rest.length ≤ fuel) :
    symbolsFrom (before ++ rest).utf8Encode fuel before.utf8Encode.size = rest.map some := by
  induction rest generalizing before fuel with
  | nil =>
    rw [List.append_nil]
    cases fuel with
    | zero => rfl
    | succ fuel =>
      rw [symbolsFrom, if_neg (Nat.lt_irrefl _)]
      rfl
  | cons c rest ih =>
    cases fuel with
    | zero => simp at h
    | succ fuel =>
      have hsize := size_utf8Encode_append before (c :: rest)
      have hrest := length_le_size_utf8Encode (c :: rest)
      rw [List.length_cons] at hrest
      have decoded : (before ++ c :: rest).utf8Encode.utf8DecodeChar? before.utf8Encode.size =
          some c := by
        rw [ByteArray.utf8DecodeChar?_eq_utf8DecodeChar?_extract, hsize, List.utf8Encode_append,
          ByteArray.extract_append_eq_right rfl rfl, List.utf8DecodeChar?_utf8Encode_cons]
      have next := ih (before ++ [c]) (Nat.le_of_succ_le_succ h)
      rw [List.append_assoc, List.singleton_append, size_utf8Encode_append,
        size_utf8Encode_singleton] at next
      rw [symbolsFrom, if_pos (by omega), decoded, List.map_cons, ← next]

/-- The symbols of the bytes of a text are its characters. -/
theorem symbols_toUTF8 (text : String) : symbols text.toUTF8 = text.toList.map some := by
  have whole := symbolsFrom_append [] text.toList (length_le_size_utf8Encode text.toList)
  rw [List.nil_append, String.utf8Encode_toList] at whole
  exact whole

theorem decode?_toUTF8 (text : String) : decode? text.toUTF8 = some text := by
  rw [decode?, String.fromUTF8?]
  exact dif_pos text.isValidUTF8

/-- Only the bytes of a text are decoded to it. -/
theorem decode?_eq_some_iff {bytes : ByteArray} {text : String} :
    decode? bytes = some text ↔ bytes = text.toUTF8 := by
  constructor
  · intro h
    unfold decode? String.fromUTF8? at h
    split at h
    · cases h
      rfl
    · cases h
  · rintro rfl
    exact decode?_toUTF8 text

end Text

/-! ## Base64 -/

namespace Base64

lemma digit?_digitChar : ∀ n < 64, digit? (digitChar n) = some n := by
  decide

lemma digitChar_ne_padding : ∀ n < 64, digitChar n ≠ '=' := by
  decide

lemma ofNat_eq {n : Nat} {byte : UInt8} (h : n = byte.toNat) : UInt8.ofNat n = byte := by
  rw [h, UInt8.ofNat_toNat]

/-- Bytes are read back from their encoding. -/
theorem decode?_encode (bytes : List UInt8) : decode? (encode bytes) = some bytes := by
  -- Each character that is read stands for six bits, so the bytes are put together by parts.
  fun_induction encode bytes with
  | case1 => rfl
  | case2 byte a =>
    have ha : a < 256 := byte.toNat_lt
    have rest : a % 4 * 16 % 16 = 0 := by omega
    have whole : a / 4 * 4 + a % 4 * 16 / 16 = byte.toNat := by omega
    rw [decode?, digit?_digitChar _ (by omega), digit?_digitChar _ (by omega)]
    simp only [Option.bind_eq_bind, Option.bind_some, if_pos rest, ofNat_eq whole]
    rfl
  | case3 first second a b =>
    have ha : a < 256 := first.toNat_lt
    have hb : b < 256 := second.toNat_lt
    have rest : b % 16 * 4 % 4 = 0 := by omega
    have wholeFirst : a / 4 * 4 + (a % 4 * 16 + b / 16) / 16 = first.toNat := by omega
    have wholeSecond : (a % 4 * 16 + b / 16) % 16 * 16 + b % 16 * 4 / 4 = second.toNat := by omega
    rw [decode?, digit?_digitChar _ (by omega), digit?_digitChar _ (by omega),
      digit?_digitChar _ (by omega)]
    · simp only [Option.bind_eq_bind, Option.bind_some, if_pos rest, ofNat_eq wholeFirst,
        ofNat_eq wholeSecond]
      rfl
    · exact digitChar_ne_padding _ (by omega)
  | case4 first second third bytes a b c ih =>
    have ha : a < 256 := first.toNat_lt
    have hb : b < 256 := second.toNat_lt
    have hc : c < 256 := third.toNat_lt
    have wholeFirst : a / 4 * 4 + (a % 4 * 16 + b / 16) / 16 = first.toNat := by omega
    have wholeSecond : (a % 4 * 16 + b / 16) % 16 * 16 + (b % 16 * 4 + c / 64) / 4 =
      second.toNat := by omega
    have wholeThird : (b % 16 * 4 + c / 64) % 4 * 64 + c % 64 = third.toNat := by omega
    rw [decode?, digit?_digitChar _ (by omega), digit?_digitChar _ (by omega),
      digit?_digitChar _ (by omega), digit?_digitChar _ (by omega), ih]
    · simp only [Option.bind_eq_bind, Option.bind_some, ofNat_eq wholeFirst, ofNat_eq wholeSecond,
        ofNat_eq wholeThird]
      rfl
    · exact fun _ hpadding => absurd hpadding (digitChar_ne_padding _ (by omega))
    · exact fun hpadding => absurd hpadding (digitChar_ne_padding _ (by omega))

/-- The digit for some bits has the code that lies as far into its range as the bits say. -/
lemma digitChar_eq {n : Nat} {c : Char} (h : n < 26 ∧ c.toNat = n + 65 ∨
    26 ≤ n ∧ n < 52 ∧ c.toNat = n + 71 ∨ 52 ≤ n ∧ n < 62 ∧ c.toNat + 4 = n) : digitChar n = c := by
  have code {m : Nat} (hm : m = c.toNat) : Char.ofNat m = c := by
    rw [hm, Char.ofNat_toNat]
  have upper : 'A'.toNat = 65 := rfl
  have lower : 'a'.toNat = 97 := rfl
  have digit : '0'.toNat = 48 := rfl
  rw [digitChar, upper, lower, digit]
  rcases h with ⟨hlt, hc⟩ | ⟨hle, hlt, hc⟩ | ⟨hle, hlt, hc⟩
  · rw [if_pos hlt]
    apply code
    omega
  · rw [if_neg (by omega), if_pos hlt]
    apply code
    omega
  · rw [if_neg (by omega), if_neg (by omega), if_pos hlt]
    apply code
    omega

/-- A character is the digit of the six bits that it is read as. -/
lemma digitChar_of_digit? {c : Char} {n : Nat} (h : digit? c = some n) :
    n < 64 ∧ digitChar n = c := by
  have range {a b : Char} (hab : a ≤ c ∧ c ≤ b) : a.toNat ≤ c.toNat ∧ c.toNat ≤ b.toNat := hab
  unfold digit? at h
  split_ifs at h with hupper hlower hdigit hplus hslash
  · obtain ⟨hfrom, hto⟩ : 65 ≤ c.toNat ∧ c.toNat ≤ 90 := range hupper
    obtain rfl : c.toNat - 65 = n := Option.some.inj h
    exact ⟨by omega, digitChar_eq (by omega)⟩
  · obtain ⟨hfrom, hto⟩ : 97 ≤ c.toNat ∧ c.toNat ≤ 122 := range hlower
    obtain rfl : c.toNat - 97 + 26 = n := Option.some.inj h
    exact ⟨by omega, digitChar_eq (by omega)⟩
  · obtain ⟨hfrom, hto⟩ : 48 ≤ c.toNat ∧ c.toNat ≤ 57 := range hdigit
    obtain rfl : c.toNat - 48 + 52 = n := Option.some.inj h
    exact ⟨by omega, digitChar_eq (by omega)⟩
  · obtain rfl : 62 = n := Option.some.inj h
    exact ⟨by decide, by rw [hplus]; decide⟩
  · obtain rfl : 63 = n := Option.some.inj h
    exact ⟨by decide, by rw [hslash]; decide⟩

lemma toNat_ofNat {n : Nat} (h : n < 256) : (UInt8.ofNat n).toNat = n := by
  rw [UInt8.toNat_ofNat']
  exact Nat.mod_eq_of_lt h

/-- Four digits write the three bytes that they are read as. -/
lemma encode_cons_cons_cons {a b c d : Nat} (ha : a < 64) (hb : b < 64) (hc : c < 64) (hd : d < 64)
    (bytes : List UInt8) :
    encode (UInt8.ofNat (a * 4 + b / 16) :: UInt8.ofNat (b % 16 * 16 + c / 4) ::
        UInt8.ofNat (c % 4 * 64 + d) :: bytes) =
      digitChar a :: digitChar b :: digitChar c :: digitChar d :: encode bytes := by
  have first : (a * 4 + b / 16) / 4 = a := by omega
  have second : (a * 4 + b / 16) % 4 * 16 + (b % 16 * 16 + c / 4) / 16 = b := by omega
  have third : (b % 16 * 16 + c / 4) % 16 * 4 + (c % 4 * 64 + d) / 64 = c := by omega
  have fourth : (c % 4 * 64 + d) % 64 = d := by omega
  rw [encode, toNat_ofNat (by omega), toNat_ofNat (by omega), toNat_ofNat (by omega)]
  simp only [first, second, third, fourth]

/-- The bits of the last digit before one padding character that belong to no byte are zero. -/
lemma encode_pair {a b c : Nat} (ha : a < 64) (hb : b < 64) (hc : c < 64) (hzero : c % 4 = 0) :
    encode [UInt8.ofNat (a * 4 + b / 16), UInt8.ofNat (b % 16 * 16 + c / 4)] =
      [digitChar a, digitChar b, digitChar c, '='] := by
  have first : (a * 4 + b / 16) / 4 = a := by omega
  have second : (a * 4 + b / 16) % 4 * 16 + (b % 16 * 16 + c / 4) / 16 = b := by omega
  have third : (b % 16 * 16 + c / 4) % 16 * 4 = c := by omega
  rw [encode, toNat_ofNat (by omega), toNat_ofNat (by omega)]
  simp only [first, second, third]

lemma encode_singleton {a b : Nat} (ha : a < 64) (hb : b < 64) (hzero : b % 16 = 0) :
    encode [UInt8.ofNat (a * 4 + b / 16)] = [digitChar a, digitChar b, '=', '='] := by
  have first : (a * 4 + b / 16) / 4 = a := by omega
  have second : (a * 4 + b / 16) % 4 * 16 = b := by omega
  rw [encode, toNat_ofNat (by omega)]
  simp only [first, second]

/-- Only the encoding of some bytes is read as these bytes. -/
theorem encode_of_decode? {text : List Char} {bytes : List UInt8} (h : decode? text = some bytes) :
    encode bytes = text := by
  fun_induction decode? text generalizing bytes with
  | case1 =>
    cases h
    rfl
  | case2 a b =>
    simp only [Option.bind_eq_bind, Option.bind_eq_some_iff] at h
    obtain ⟨m, hm, n, hn, h⟩ := h
    obtain ⟨hmlt, rfl⟩ := digitChar_of_digit? hm
    obtain ⟨hnlt, rfl⟩ := digitChar_of_digit? hn
    split_ifs at h with hzero
    cases h
    exact encode_singleton hmlt hnlt hzero
  | case3 a b c hpadding =>
    simp only [Option.bind_eq_bind, Option.bind_eq_some_iff] at h
    obtain ⟨m, hm, n, hn, k, hk, h⟩ := h
    obtain ⟨hmlt, rfl⟩ := digitChar_of_digit? hm
    obtain ⟨hnlt, rfl⟩ := digitChar_of_digit? hn
    obtain ⟨hklt, rfl⟩ := digitChar_of_digit? hk
    split_ifs at h with hzero
    cases h
    exact encode_pair hmlt hnlt hklt hzero
  | case4 a b c d rest hone htwo ih =>
    simp only [Option.bind_eq_bind, Option.bind_eq_some_iff] at h
    obtain ⟨m, hm, n, hn, k, hk, l, hl, others, hothers, h⟩ := h
    obtain ⟨hmlt, rfl⟩ := digitChar_of_digit? hm
    obtain ⟨hnlt, rfl⟩ := digitChar_of_digit? hn
    obtain ⟨hklt, rfl⟩ := digitChar_of_digit? hk
    obtain ⟨hllt, rfl⟩ := digitChar_of_digit? hl
    cases h
    rw [encode_cons_cons_cons hmlt hnlt hklt hllt, ih hothers]
  | case5 => cases h

/-- Decoding accepts the one encoding that some bytes have, and nothing else. -/
theorem decode?_eq_some_iff {text : List Char} {bytes : List UInt8} :
    decode? text = some bytes ↔ text = encode bytes := by
  constructor
  · intro h
    exact (encode_of_decode? h).symm
  · rintro rfl
    exact decode?_encode bytes

/-- The digits in order: the standard alphabet. -/
example : (List.range 64).map digitChar =
    "ABCDEFGHIJKLMNOPQRSTUVWXYZabcdefghijklmnopqrstuvwxyz0123456789+/".toList := by
  decide

lemma isBlank_digitChar : ∀ n < 64, Unicode.isBlank (digitChar n) = false := by
  decide +kernel

/-- There is no white space in an encoding. -/
lemma isBlank_of_mem_encode (bytes : List UInt8) :
    ∀ c ∈ encode bytes, Unicode.isBlank c = false := by
  have padding : Unicode.isBlank '=' = false := by decide +kernel
  fun_induction encode bytes with
  | case1 => nofun
  | case2 byte a =>
    have ha : a < 256 := byte.toNat_lt
    simp only [List.forall_mem_cons]
    exact ⟨isBlank_digitChar _ (by omega), isBlank_digitChar _ (by omega), padding, padding, nofun⟩
  | case3 first second a b =>
    have ha : a < 256 := first.toNat_lt
    have hb : b < 256 := second.toNat_lt
    simp only [List.forall_mem_cons]
    exact ⟨isBlank_digitChar _ (by omega), isBlank_digitChar _ (by omega),
      isBlank_digitChar _ (by omega), padding, nofun⟩
  | case4 first second third bytes a b c ih =>
    have ha : a < 256 := first.toNat_lt
    have hb : b < 256 := second.toNat_lt
    have hc : c < 256 := third.toNat_lt
    simp only [List.forall_mem_cons]
    exact ⟨isBlank_digitChar _ (by omega), isBlank_digitChar _ (by omega),
      isBlank_digitChar _ (by omega), isBlank_digitChar _ (by omega), ih⟩

end Base64

end PullTriage
