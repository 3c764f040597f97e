import PullTriage.Proofs.Http.Url
import Mathlib.Data.List.Forall2

/-!
# What the segments of a URL stand for

A server decodes the segments of a path to bytes: a percent sign and two digits stand for a byte,
and every other character for the bytes that encode it.  A segment that was encoded stands for the
text that it was made from (`standsFor_encodeWith`), but that is not said of a text with a percent
sign: what looks as if it were encoded already is not encoded again.
-/

namespace PullTriage.Url

variable {text rest : List Char}

/-- The bytes of a text. -/
def bytesOf (text : List Char) : List UInt8 :=
  text.flatMap String.utf8EncodeChar

/-- The segment stands for a name. -/
def StandsFor (segment name : List Char) : Prop :=
  decoded segment = bytesOf name

lemma hexDigit?_hexChar : ∀ n < 16, Unicode.hexDigit? (hexChar n) = some n := by
  decide

lemma decoded_cons_of_ne {c : Char} (h : c ≠ '%') :
    decoded (c :: text) = String.utf8EncodeChar c ++ decoded text := by
  rw [decoded]
  rintro high low rest rfl
  exact absurd rfl h

lemma decoded_encodeByte_append (byte : UInt8) (rest : List Char) :
    decoded (encodeByte byte ++ rest) = byte :: decoded rest := by
  have hlt := byte.toNat_lt
  have value : byte.toNat / 16 * 16 + byte.toNat % 16 = byte.toNat := by omega
  have read : byte? (hexChar (byte.toNat / 16)) (hexChar (byte.toNat % 16)) = some byte := by
    rw [byte?, hexDigit?_hexChar _ (by omega), hexDigit?_hexChar _ (by omega)]
    simp only [Option.bind_eq_bind, Option.bind_some, Option.pure_def, value, UInt8.ofNat_toNat]
  rw [encodeByte]
  change decoded ('%' :: _ :: _ :: rest) = _
  rw [decoded, read]

lemma decoded_flatMap_encodeByte_append (bytes : List UInt8) (rest : List Char) :
    decoded (bytes.flatMap encodeByte ++ rest) = bytes ++ decoded rest := by
  induction bytes with
  | nil => rfl
  | cons byte bytes ih =>
    rw [List.flatMap_cons, List.append_assoc, decoded_encodeByte_append, ih, List.cons_append]

/-- An encoded text stands for the text, if that has no percent sign. -/
lemma standsFor_encodeWith (isPlain : Char → Bool) (h : '%' ∉ text) :
    StandsFor (encodeWith isPlain text) text := by
  induction text with
  | nil => rfl
  | cons c text ih =>
    obtain ⟨hc, htext⟩ := not_or.1 (mt List.mem_cons.2 h)
    have tail : decoded (encodeWith isPlain text) = bytesOf text := ih htext
    rw [StandsFor, bytesOf, List.flatMap_cons]
    cases plain : isPlain c with
    | true => rw [encodeWith_cons_of_pos plain, decoded_cons_of_ne (Ne.symm hc), tail, bytesOf]
    | false =>
      rw [encodeWith_cons_of_neg plain, decoded_flatMap_encodeByte_append, tail, bytesOf]

lemma forall₂_standsFor_map {names : List (List Char)} (isPlain : Char → Bool)
    (h : ∀ name ∈ names, '%' ∉ name) :
    List.Forall₂ StandsFor (names.map (encodeWith isPlain)) names :=
  List.forall₂_map_left_iff.2
    (List.forall₂_same.2 fun name hname => standsFor_encodeWith isPlain (h name hname))

/-- A text without percent signs stands for itself. -/
lemma standsFor_self (h : '%' ∉ text) : StandsFor text text := by
  have encoded := standsFor_encodeWith (fun _ => true) h
  rwa [encodeWith_eq_self fun c hc => rfl] at encoded

lemma IsPlain.standsFor_self {segment : List Char} (h : IsPlain segment) :
    StandsFor segment segment :=
  Url.standsFor_self h.noPercent

/-- The name that a segment stands for, if it stands for one. -/
def nameOf (segment : List Char) : String :=
  (Text.decode? (decoded segment).toByteArray).getD ""

lemma StandsFor.nameOf_eq {segment : List Char} {name : String}
    (h : StandsFor segment name.toList) : nameOf segment = name := by
  have bytes : (decoded segment).toByteArray = name.toUTF8 := by
    rw [h]
    exact String.utf8Encode_toList
  rw [nameOf, bytes, Text.decode?_toUTF8, Option.getD_some]

end PullTriage.Url
