import PullTriage.Proofs.Http.Decoding
import PullTriage.Proofs.Text.Decimal

/-!
# Hosts and ports

The text `http://host:port` is an origin (`isOrigin_site`).  It is read as the name of this host and
this port (`parse?_site`): the colon in front of the port is the first one that stands in no
brackets (`IsHostText.splitHost_append`), and nothing in a host or in a port ends them before.

Which texts are hosts, and what their names are, is said by the URL standard (`readHost?`).  The
usual ones are: names in ASCII that do not end in a number (`isHost_of_name`), and IPv4 addresses
(`isHost_dotted`).
-/

namespace PullTriage.Url

variable {asciiName? : List Char → Option (List Char)} {scheme host name digits text : List Char}
  {port : Nat}

/-! ## Characters -/

/-- The character is visible, and ends neither a host nor what stands with it. -/
def IsFree (c : Char) : Prop :=
  isControlOrSpace c = false ∧ endsAuthority c = false ∧ c ≠ '@'

instance (c : Char) : Decidable (IsFree c) :=
  inferInstanceAs (Decidable (_ ∧ _))

lemma isFree_of_not_isForbidden {c : Char} (h : isForbidden c = false) :
    IsFree c ∧ c ≠ '[' ∧ c ≠ ']' ∧ c ≠ ':' := by
  simp only [isForbidden, Bool.or_eq_false_iff, decide_eq_false_iff_not, beq_eq_false_iff_ne,
    List.contains_eq_mem, List.mem_cons, List.not_mem_nil, or_false, not_or] at h
  obtain ⟨⟨hlow, -⟩, hhash, -, hslash, hcolon, -, -, hquery, hat, hopen, hback, hclose, -, -⟩ := h
  exact ⟨by simp [IsFree, isControlOrSpace, endsAuthority, isSlash, *], hopen, hclose, hcolon⟩

lemma toLower_table : ∀ n < 128, isForbidden (Char.ofNat n) = false →
    isForbidden (Char.ofNat n).toLower = false := by
  decide

/-- Lower case is not forbidden either. -/
lemma isForbidden_toLower {c : Char} (hascii : c.toNat < 128) (h : isForbidden c = false) :
    isForbidden c.toLower = false := by
  obtain ⟨n, hn, rfl⟩ := Text.exists_ofNat_eq hascii
  exact toLower_table n hn h

lemma digit_table : ∀ n < 58, (Char.ofNat n).isDigit = true → (Char.ofNat n).toNat < 128 ∧
    isForbidden (Char.ofNat n) = false ∧ (Char.ofNat n).toLower = Char.ofNat n := by
  decide

/-- A digit is in ASCII and may stand in a name, and has no lower case. -/
lemma of_isDigit {c : Char} (h : c.isDigit = true) :
    c.toNat < 128 ∧ isForbidden c = false ∧ c.toLower = c := by
  obtain ⟨n, hn, rfl⟩ := Text.exists_ofNat_eq (Nat.lt_succ_of_le (Char.isDigit_iff_toNat.1 h).2)
  exact digit_table n hn h

/-! ## Hosts -/

/-- The text stands where a host does.  It has no colons, as they stand in front of ports, unless
all of it is an address in brackets. -/
structure IsHostText (host : List Char) : Prop where
  isFree : ∀ c ∈ host, IsFree c
  colons : (∀ c ∈ host, c ≠ '[' ∧ c ≠ ']' ∧ c ≠ ':') ∨
    ∃ address, host = '[' :: address ++ [']'] ∧ ∀ c ∈ address, c ≠ '[' ∧ c ≠ ']'

/-- The text is a host with this name. -/
structure IsHost (asciiName? : List Char → Option (List Char)) (host name : List Char) : Prop
    extends IsHostText host where
  read : readHost? asciiName? host = some name

/-- What has no brackets in it, and colons only if it stands in brackets, belongs to the host. -/
lemma splitHost_append_of_free {inBrackets : Bool}
    (h : ∀ c ∈ text, c ≠ '[' ∧ c ≠ ']' ∧ (c = ':' → inBrackets = true)) (rest : List Char) :
    splitHost inBrackets (text ++ rest) =
      (text ++ (splitHost inBrackets rest).1, (splitHost inBrackets rest).2) := by
  induction text with
  | nil => rfl
  | cons c text ih =>
    obtain ⟨⟨hopen, hclose, hcolon⟩, htext⟩ := List.forall_mem_cons.1 h
    have goesOn : ¬ (c == ':' && !inBrackets) = true := by
      rw [Bool.and_eq_true, beq_iff_eq, Bool.not_eq_true']
      rintro ⟨rfl, houtside⟩
      rw [hcolon rfl] at houtside
      cases houtside
    rw [List.cons_append, splitHost, if_neg goesOn, if_neg (by simpa using hopen),
      if_neg (by simpa using hclose), ih htext]
    rfl

/-- The host ends at the colon in front of the port. -/
lemma IsHostText.splitHost_append (h : IsHostText host) (rest : List Char) :
    splitHost false (host ++ ':' :: rest) = (host, ':' :: rest) := by
  have ends : splitHost false (':' :: rest) = ([], ':' :: rest) := by
    rw [splitHost, if_pos (by decide)]
  rcases h.colons with hfree | ⟨address, rfl, haddress⟩
  · rw [splitHost_append_of_free (fun c hc => ?_), ends, List.append_nil]
    obtain ⟨hopen, hclose, hcolon⟩ := hfree c hc
    exact ⟨hopen, hclose, fun heq => absurd heq hcolon⟩
  · have inside : splitHost true (address ++ (']' :: ':' :: rest)) =
        (address ++ [']'], ':' :: rest) := by
      rw [splitHost_append_of_free fun c hc => ⟨(haddress c hc).1, (haddress c hc).2, fun _ => rfl⟩,
        splitHost, if_neg (by decide), if_neg (by decide), if_pos (by decide), ends]
    have written : '[' :: address ++ [']'] ++ ':' :: rest =
        '[' :: (address ++ (']' :: ':' :: rest)) := by
      simp
    rw [written, splitHost, if_neg (by decide), if_pos (by decide), inside]
    rfl

/-! ## Ports -/

/-- The digits are those of a port; there may be zeros in front of it. -/
structure IsPort (digits : List Char) (port : Nat) : Prop where
  ne_nil : digits ≠ []
  isDigit : ∀ c ∈ digits, c.isDigit = true
  value : Nat.ofDigitChars 10 digits 0 = port
  lt : port < 65536

lemma IsPort.port?_eq (h : IsPort digits port) : port? (':' :: digits) = some (some port) := by
  have read : Text.decimalBelow? 65536 digits = some port :=
    Text.decimalBelow?_eq_some_iff.2 ⟨h.ne_nil, h.isDigit, h.value, h.lt⟩
  have notEmpty : ¬ digits.isEmpty = true := fun hempty => h.ne_nil (List.isEmpty_iff.1 hempty)
  rw [port?, if_neg (by decide), if_neg notEmpty, read, Option.map_some]

/-! ## Both -/

/-- The host and the port as they stand in a URL. -/
def site (host digits : List Char) : List Char :=
  host ++ ':' :: digits

lemma isFree_of_mem_site (hhost : IsHostText host) (hport : IsPort digits port) :
    ∀ c ∈ site host digits, IsFree c := by
  intro c hc
  rcases List.mem_append.1 hc with hc | hc
  · exact hhost.isFree c hc
  · rcases List.mem_cons.1 hc with rfl | hc
    · decide
    · exact (isFree_of_not_isForbidden (of_isDigit (hport.isDigit c hc)).2.1).1

lemma afterScheme?_site (hhost : IsHostText host) (hport : IsPort digits port) :
    afterScheme? asciiName? scheme ('/' :: '/' :: site host digits) =
      (readHost? asciiName? host).map fun name =>
        ⟨scheme, name, some port, segments [], none, none⟩ := by
  have free := isFree_of_mem_site hhost hport
  have goesOn : ∀ c ∈ site host digits, (!endsAuthority c) = true := fun c hc => by
    rw [(free c hc).2.1]
    rfl
  have visible := dropWhile_slashes (show site host digits ≠ [] by simp [site])
    (fun c hc => (free c hc).2.1) []
  rw [List.append_nil, List.append_nil] at visible
  have noUser : ((site host digits).splitOn '@').getLastD [] = site host digits := by
    have single : (site host digits).splitOn '@' = [site host digits] :=
      List.splitOnP_eq_singleton fun c hc => by simpa using (free c hc).2.2
    rw [single]
    rfl
  have split : splitHost false (site host digits) = (host, ':' :: digits) :=
    hhost.splitHost_append digits
  unfold afterScheme?
  simp only [visible, List.takeWhile_eq_self_iff.2 goesOn, List.dropWhile_eq_nil_iff.2 goesOn,
    noUser, split, hport.port?_eq, Option.bind_eq_bind, Option.bind_some]
  cases readHost? asciiName? host <;> rfl

/-- A host and a port behind the scheme are an origin. -/
lemma isOrigin_site (hhost : IsHostText host) (hport : IsPort digits port) :
    IsOrigin ("http://".toList ++ site host digits) := by
  refine ⟨"http".toList, site host digits, rfl, .inl rfl, by simp [site], fun c hc => ?_⟩
  obtain ⟨hvisible, hends, -⟩ := isFree_of_mem_site hhost hport c hc
  exact ⟨hvisible, hends⟩

/-- A host and a port behind the scheme are read as what they are, if there is such a host. -/
theorem parse?_site (hhost : IsHostText host) (hport : IsPort digits port) :
    parse? asciiName? (String.ofList ("http://".toList ++ site host digits)) =
      (readHost? asciiName? host).map fun name =>
        ⟨"http".toList, name, some port, segments [], none, none⟩ := by
  have whole : strip ("http://".toList ++ site host digits) =
      "http".toList ++ ':' :: '/' :: '/' :: site host digits :=
    strip_eq_self (isOrigin_site hhost hport).visible
  rw [parse?_eq_of_strip (.inl rfl) whole, afterScheme?_site hhost hport]

/-- A host and a port behind the scheme are read as the name of the host and the port. -/
lemma IsHost.parse?_site (h : IsHost asciiName? host name) (hport : IsPort digits port) :
    parse? asciiName? (String.ofList ("http://".toList ++ site host digits)) =
      some ⟨"http".toList, name, some port, segments [], none, none⟩ := by
  rw [Url.parse?_site h.toIsHostText hport, h.read, Option.map_some]

/-! ## The usual hosts -/

/-- A name in ASCII with no forbidden characters is in lower case as a host. -/
lemma readHost?_of_name (hname : isAsciiName name = true)
    (h : ∀ c ∈ name, isForbidden c = false) :
    readHost? asciiName? name = readName? (name.map Char.toLower) := by
  have noPercent : '%' ∉ name := fun hmem => absurd (h _ hmem) (by decide)
  have read : Text.decode? (decoded name).toByteArray = some (String.ofList name) := by
    rw [show decoded name = bytesOf name from standsFor_self noPercent]
    exact Text.decode?_toUTF8 (String.ofList name)
  unfold readHost?
  split
  · exact absurd (h '[' List.mem_cons_self) (by decide)
  · simp only [read, Option.bind_eq_bind, Option.bind_some, String.toList_ofList, hname, if_true]

lemma isHostText_of_name (h : ∀ c ∈ name, isForbidden c = false) : IsHostText name :=
  ⟨fun c hc => (isFree_of_not_isForbidden (h c hc)).1,
    .inl fun c hc => (isFree_of_not_isForbidden (h c hc)).2⟩

/-- A name in ASCII is a host, unless it ends in a number. -/
theorem isHost_of_name (hne : name ≠ []) (hname : isAsciiName name = true)
    (h : ∀ c ∈ name, isForbidden c = false)
    (hnumber : endsInNumber (name.map Char.toLower) = false) :
    IsHost asciiName? name (name.map Char.toLower) := by
  have lower : (name.map Char.toLower).any isForbidden = false := by
    rw [List.any_map, List.any_eq_false]
    intro c hc
    have ascii : c.toNat < 128 :=
      of_decide_eq_true (List.all_eq_true.1 (Bool.and_eq_true_iff.1 hname).1 c hc)
    exact ne_true_of_eq_false (isForbidden_toLower ascii (h c hc))
  refine ⟨isHostText_of_name h, (readHost?_of_name hname h).trans ?_⟩
  have notEmpty : (name.map Char.toLower).isEmpty = false := by
    rwa [List.isEmpty_map, List.isEmpty_eq_false_iff]
  rw [readName?, notEmpty, lower, hnumber]
  rfl

lemma ipv4Number?_toDigits : ∀ n < 256, ipv4Number? (Nat.toDigits 10 n) = some n := by
  decide +kernel

variable {bytes : List Nat} {a b c d : Nat}

lemma splitOn_dotted (hne : bytes ≠ []) :
    (dotted bytes).splitOn '.' = bytes.map (Nat.toDigits 10) := by
  refine List.splitOn_intercalate '.' (fun digits hdigits hmem => ?_) (by simpa using hne)
  obtain ⟨n, -, rfl⟩ := List.mem_map.1 hdigits
  exact absurd (Text.isDigit_of_mem_toDigits hmem) (by decide)

lemma isDigit_or_eq_of_mem_dotted {symbol : Char} (h : symbol ∈ dotted bytes) :
    symbol.isDigit = true ∨ symbol = '.' := by
  induction bytes with
  | nil => cases h
  | cons byte bytes ih =>
    by_cases hrest : bytes = []
    · subst hrest
      rw [dotted, List.map_singleton, List.intercalate_singleton] at h
      exact .inl (Text.isDigit_of_mem_toDigits h)
    · rw [dotted, List.map_cons, List.intercalate_cons_of_ne_nil (by simpa using hrest)] at h
      simp only [List.mem_append, List.mem_singleton] at h
      rcases h with (h | h) | h
      · exact .inl (Text.isDigit_of_mem_toDigits h)
      · exact .inr h
      · exact ih h

/-- The characters of an address are in ASCII and may stand in a name, which is in lower case. -/
lemma of_mem_dotted {symbol : Char} (h : symbol ∈ dotted bytes) :
    symbol.toNat < 128 ∧ isForbidden symbol = false ∧ symbol.toLower = symbol := by
  rcases isDigit_or_eq_of_mem_dotted h with hdigit | rfl
  · exact of_isDigit hdigit
  · decide

/-- An address does not stand for other characters, because there are no hyphens in it. -/
lemma isAsciiName_dotted (hne : bytes ≠ []) : isAsciiName (dotted bytes) = true := by
  rw [isAsciiName, splitOn_dotted hne, Bool.and_eq_true]
  refine ⟨List.all_eq_true.2 fun c hc => decide_eq_true (of_mem_dotted hc).1,
    List.all_eq_true.2 fun label hlabel => bne_iff_ne.2 fun heq => ?_⟩
  obtain ⟨n, -, rfl⟩ := List.mem_map.1 hlabel
  have hyphen : '-' ∈ ((Nat.toDigits 10 n).take 4).map Char.toLower := by
    rw [heq]
    decide
  obtain ⟨digit, hmem, hlower⟩ := List.mem_map.1 hyphen
  have hdigit : digit.isDigit = true := Text.isDigit_of_mem_toDigits (List.mem_of_mem_take hmem)
  rw [(of_isDigit hdigit).2.2] at hlower
  rw [hlower] at hdigit
  cases hdigit

lemma nameParts_dotted : nameParts (dotted [a, b, c, d]) =
    [Nat.toDigits 10 a, Nat.toDigits 10 b, Nat.toDigits 10 c, Nat.toDigits 10 d] := by
  rw [nameParts, splitOn_dotted (List.cons_ne_nil _ _)]
  exact if_neg fun h => Nat.toDigits_ne_nil (Option.some.inj h)

lemma ipv4?_dotted (ha : a < 256) (hb : b < 256) (hc : c < 256) (hd : d < 256) :
    ipv4? (dotted [a, b, c, d]) = some [a, b, c, d] := by
  rw [ipv4?, nameParts_dotted]
  simp [ipv4Number?_toDigits, ha, hb, hc, hd, lowBytes, Nat.mod_eq_of_lt]

/-- Four bytes with dots between them are a host. -/
theorem isHost_dotted (ha : a < 256) (hb : b < 256) (hc : c < 256) (hd : d < 256) :
    IsHost asciiName? (dotted [a, b, c, d]) (dotted [a, b, c, d]) := by
  have legal : ∀ symbol ∈ dotted [a, b, c, d], isForbidden symbol = false := fun symbol hmem =>
    (of_mem_dotted hmem).2.1
  have lower : (dotted [a, b, c, d]).map Char.toLower = dotted [a, b, c, d] :=
    (List.map_congr_left fun symbol hmem => (of_mem_dotted hmem).2.2).trans (List.map_id' _)
  have notEmpty : (dotted [a, b, c, d]).isEmpty = false := by
    refine List.isEmpty_eq_false_iff.2 fun hempty => ?_
    have split := nameParts_dotted (a := a) (b := b) (c := c) (d := d)
    rw [hempty] at split
    cases split
  have number : endsInNumber (dotted [a, b, c, d]) = true := by
    have digits : (Nat.toDigits 10 d).all Char.isDigit = true :=
      List.all_eq_true.2 fun digit hmem => Text.isDigit_of_mem_toDigits hmem
    have visible : (Nat.toDigits 10 d).isEmpty = false :=
      List.isEmpty_eq_false_iff.2 Nat.toDigits_ne_nil
    rw [endsInNumber, nameParts_dotted]
    simp only [List.getLast?_cons_cons, List.getLast?_singleton, digits, visible, Bool.not_false,
      Bool.and_self, Bool.true_or]
  refine ⟨isHostText_of_name legal, ?_⟩
  rw [readHost?_of_name (isAsciiName_dotted (List.cons_ne_nil _ _)) legal, lower, readName?,
    notEmpty, List.any_eq_false.2 fun symbol hmem => ne_true_of_eq_false (legal symbol hmem),
    number, ipv4?_dotted ha hb hc hd]
  rfl

end PullTriage.Url
