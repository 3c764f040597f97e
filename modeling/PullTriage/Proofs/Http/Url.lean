import PullTriage.Http.Url
import PullTriage.Proofs.Text.Encoding
import PullTriage.Proofs.Text.Split
import Mathlib.Data.Bool.AllAny

/-!
# Where a URL leads

A client writes a URL by joining texts: an origin, which says where to connect, and a path behind
it.  How the whole is read can be said part by part.

* What stands behind an origin has no influence on where the URL connects (`parse?_append`).
* Segments whose characters mean only themselves are read as these segments, and what stands behind
  them is read from there on (`segmentsBehind_slashed`).  It can still lead away by dot segments:
  `staysBelow` says when it does not, and then what comes out lies below (`exists_resolve_append`).
* A path of characters that mean only themselves is read as its segments, each encoded, with no
  query and no fragment behind it (`segmentsBehind_of_inert`, `query_and_fragment_of_inert`).
* Plain segments are not even encoded (`segmentsBehind_of_plain`).
-/

namespace PullTriage.Url

variable {asciiName? : List Char → Option (List Char)} {segment text rest : List Char}
  {below above base : List (List Char)}

/-! ## Encoding -/

lemma encodeWith_cons_of_pos {isPlain : Char → Bool} {c : Char} (h : isPlain c = true) :
    encodeWith isPlain (c :: text) = c :: encodeWith isPlain text := by
  rw [encodeWith, List.flatMap_cons, if_pos h]
  rfl

lemma encodeWith_cons_of_neg {isPlain : Char → Bool} {c : Char} (h : isPlain c = false) :
    encodeWith isPlain (c :: text) =
      (String.utf8EncodeChar c).flatMap encodeByte ++ encodeWith isPlain text := by
  rw [encodeWith, List.flatMap_cons, if_neg (by simp [h])]
  rfl

lemma encodeWith_eq_self {isPlain : Char → Bool} (h : ∀ c ∈ text, isPlain c = true) :
    encodeWith isPlain text = text := by
  induction text with
  | nil => rfl
  | cons c text ih =>
    obtain ⟨hc, htext⟩ := List.forall_mem_cons.1 h
    rw [encodeWith_cons_of_pos hc, ih htext]

lemma dots?_percent (a b : Char) : dots? ('%' :: a :: b :: rest) =
    if a = '2' ∧ (b = 'e' ∨ b = 'E') then (dots? rest).map (· + 1) else none := by
  by_cases ha : a = '2'
  · subst ha
    simp [dots?]
  · simp [dots?, ha]

/-- The first byte of a character that is no dot is not that of a dot. -/
lemma utf8EncodeChar_eq_cons {c : Char} (h : c ≠ '.') :
    ∃ b bytes, String.utf8EncodeChar c = b :: bytes ∧ b.toNat ≠ 0x2E := by
  have value : c.val.toNat ≠ 0x2E := fun hval => h (Char.ext (UInt32.toNat_inj.1 hval))
  rw [String.utf8EncodeChar]
  split_ifs
  · exact ⟨_, _, rfl, by rw [UInt8.toNat_ofNat']; omega⟩
  · exact ⟨_, _, rfl, by rw [UInt8.toNat_ofNat']; omega⟩
  · exact ⟨_, _, rfl, by rw [UInt8.toNat_ofNat']; omega⟩
  · exact ⟨_, _, rfl, by rw [UInt8.toNat_ofNat']; omega⟩

lemma hexChar_eq_iff : ∀ n < 16, (hexChar n = '2' ↔ n = 2) ∧ (hexChar n = 'E' ↔ n = 14) ∧
    hexChar n ≠ 'e' := by
  decide

/-- A character that has to be encoded is no dot. -/
lemma dots?_encoded_append {c : Char} (h : isPathChar c = false) :
    dots? ((String.utf8EncodeChar c).flatMap encodeByte ++ rest) = none := by
  have hdot : c ≠ '.' := by
    rintro rfl
    revert h
    decide
  obtain ⟨b, bytes, hbytes, hb⟩ := utf8EncodeChar_eq_cons hdot
  have hlt := b.toNat_lt
  have hhigh := hexChar_eq_iff (b.toNat / 16) (by omega)
  have hlow := hexChar_eq_iff (b.toNat % 16) (by omega)
  rw [hbytes, List.flatMap_cons, encodeByte]
  simp only [List.cons_append, List.nil_append, dots?_percent]
  refine if_neg ?_
  rintro ⟨htwo, he | he⟩
  · exact hlow.2.2 he
  · rw [hhigh.1] at htwo
    rw [hlow.2.1] at he
    omega

lemma dots?_percent_of_ne {a : Char} (h : a ≠ '2') : dots? ('%' :: a :: text) = none := by
  cases text <;> simp [dots?, h]

lemma encodeWith_eq_percent_cons {isPlain : Char → Bool} {c : Char} (h : isPlain c = false)
    (text : List Char) :
    ∃ more, encodeWith isPlain (c :: text) = '%' :: more := by
  obtain ⟨b, bytes, hbytes⟩ := List.exists_cons_of_ne_nil (String.utf8EncodeChar_ne_nil (c := c))
  rw [encodeWith_cons_of_neg h, hbytes, List.flatMap_cons, encodeByte]
  exact ⟨_, rfl⟩

lemma dots?_percent_encodeWith_of_ne {a : Char} (h : a ≠ '2') (text : List Char) :
    dots? ('%' :: encodeWith isPathChar (a :: text)) = none := by
  cases plain : isPathChar a with
  | true =>
    rw [encodeWith_cons_of_pos plain]
    exact dots?_percent_of_ne h
  | false =>
    obtain ⟨more, hmore⟩ := encodeWith_eq_percent_cons plain text
    rw [hmore]
    exact dots?_percent_of_ne (by decide)

/-- Encoding neither makes a dot segment nor hides one. -/
lemma dots?_encodeWith (segment : List Char) :
    dots? (encodeWith isPathChar segment) = dots? segment := by
  have percent : isPathChar '%' = true := by decide
  have two : isPathChar '2' = true := by decide
  fun_induction dots? segment with
  | case1 => rfl
  | case2 rest ih =>
    rw [encodeWith_cons_of_pos (by decide), dots?, ih]
  | case3 e rest he ih =>
    have plain : isPathChar e = true := by
      rcases Bool.or_eq_true_iff.1 he with he | he <;> rw [beq_iff_eq.1 he] <;> decide
    rw [encodeWith_cons_of_pos percent, encodeWith_cons_of_pos two, encodeWith_cons_of_pos plain,
      dots?, if_pos he, ih]
  | case4 e rest he =>
    rw [encodeWith_cons_of_pos percent, encodeWith_cons_of_pos two]
    cases plain : isPathChar e with
    | true => rw [encodeWith_cons_of_pos plain, dots?, if_neg he]
    | false =>
      obtain ⟨more, hmore⟩ := encodeWith_eq_percent_cons plain rest
      rw [hmore, dots?_percent]
      simp
  | case5 segment hnil hdot hpercent =>
    -- Only behind a percent sign more than one character counts, and it is not encoded itself.
    obtain ⟨c, rest, rfl⟩ := List.exists_cons_of_ne_nil hnil
    by_cases hc : c = '%'
    · subst hc
      rw [encodeWith_cons_of_pos percent]
      cases rest with
      | nil => rfl
      | cons a rest =>
        by_cases ha : a = '2'
        · subst ha
          cases rest with
          | nil => rfl
          | cons e rest => exact absurd rfl (hpercent e rest)
        · exact dots?_percent_encodeWith_of_ne ha rest
    · have hne : c ≠ '.' := fun heq => hdot rest (congrArg (· :: rest) heq)
      cases plain : isPathChar c with
      | false => rw [encodeWith_cons_of_neg plain, dots?_encoded_append plain]
      | true =>
        rw [encodeWith_cons_of_pos plain]
        simp [dots?, hc, hne]

/-! ## Dot segments -/

/-- The segment is a name: it stands neither for this place nor for the one above. -/
def IsName (segment : List Char) : Prop :=
  dots? segment ≠ some 1 ∧ dots? segment ≠ some 2

instance (segment : List Char) : Decidable (IsName segment) :=
  inferInstanceAs (Decidable (_ ∧ _))

lemma isName_encodeWith : IsName (encodeWith isPathChar segment) ↔ IsName segment := by
  rw [IsName, IsName, dots?_encodeWith]

/-- What a segment makes of the segments before it, the latest first, and `last` says whether
nothing follows it. -/
def step (last : Bool) (done : List (List Char)) (segment : List Char) : List (List Char) :=
  match dots? segment with
  | some 1 => if last then [] :: done else done
  | some 2 => if last then [] :: done.tail else done.tail
  | _ => segment :: done

lemma resolve_cons (done : List (List Char)) :
    resolve done (segment :: below) = resolve (step below.isEmpty done segment) below :=
  rfl

lemma step_of_isName (last : Bool) (done : List (List Char)) (h : IsName segment) :
    step last done segment = segment :: done := by
  unfold step
  split
  · next hone => exact absurd hone h.1
  · next htwo => exact absurd htwo h.2
  · rfl

/-- Names are kept, and what follows them is resolved from there on. -/
lemma resolve_append_of_names {names : List (List Char)} (h : ∀ s ∈ names, IsName s)
    (done below : List (List Char)) :
    resolve done (names ++ below) = resolve (names.reverse ++ done) below := by
  induction names generalizing done with
  | nil => rfl
  | cons name names ih =>
    obtain ⟨hname, hnames⟩ := List.forall_mem_cons.1 h
    rw [List.cons_append, resolve_cons, step_of_isName _ _ hname, ih hnames, List.reverse_cons,
      List.append_assoc]
    rfl

lemma resolve_eq_of_names {names : List (List Char)} (h : ∀ s ∈ names, IsName s) :
    resolve [] names = names := by
  have kept := resolve_append_of_names h [] []
  rw [List.append_nil, List.append_nil] at kept
  rw [kept, resolve, List.reverse_reverse]

/-- The segments lead nowhere above a place, when they are read from `depth` levels below it. -/
def staysBelow (depth : Nat) : List (List Char) → Bool
  | [] => true
  | segment :: rest =>
    match dots? segment with
    | some 1 => staysBelow depth rest
    | some 2 => 0 < depth && staysBelow (depth - 1) rest
    | _ => staysBelow (depth + 1) rest

lemma staysBelow_of_names (depth : Nat) (h : ∀ s ∈ below, IsName s) :
    staysBelow depth below = true := by
  induction below generalizing depth with
  | nil => rfl
  | cons segment below ih =>
    obtain ⟨hname, hnames⟩ := List.forall_mem_cons.1 h
    unfold staysBelow
    split
    · next hone => exact absurd hone hname.1
    · next htwo => exact absurd htwo hname.2
    · exact ih _ hnames

/-- A segment that does not lead above a place leaves the segments of the place, and below them
there is something if it is the last. -/
lemma exists_step_append (h : staysBelow above.length (segment :: below) = true)
    (base : List (List Char)) :
    ∃ above', step below.isEmpty (above ++ base) segment = above' ++ base ∧
      (below = [] → above' ≠ []) ∧ staysBelow above'.length below = true := by
  unfold staysBelow at h
  unfold step
  split at h
  · cases below with
    | nil => exact ⟨[] :: above, rfl, nofun, rfl⟩
    | cons next rest => exact ⟨above, rfl, nofun, h⟩
  · obtain ⟨hdepth, hrest⟩ := Bool.and_eq_true_iff.1 h
    obtain ⟨latest, above, rfl⟩ :=
      List.exists_cons_of_ne_nil (List.length_pos_iff.1 (of_decide_eq_true hdepth))
    cases below with
    | nil => exact ⟨[] :: above, rfl, nofun, rfl⟩
    | cons next rest => exact ⟨above, rfl, nofun, hrest⟩
  · exact ⟨segment :: above, rfl, nofun, h⟩

/-- Segments that do not lead above a place are resolved to something below it. -/
lemma exists_resolve_append (above base : List (List Char)) (hne : below ≠ [])
    (h : staysBelow above.length below = true) :
    ∃ more, more ≠ [] ∧ resolve (above ++ base) below = base.reverse ++ more := by
  -- What has come out so far is `above` on top of the base, and the depth is its length.
  induction below generalizing above with
  | nil => exact absurd rfl hne
  | cons segment below ih =>
    obtain ⟨above', hstep, hlast, hstays⟩ := exists_step_append h base
    rw [resolve_cons, hstep]
    by_cases hend : below = []
    · subst hend
      exact ⟨above'.reverse, by simpa using hlast rfl, by rw [resolve, List.reverse_append]⟩
    · exact ih above' hend hstays

/-! ## Behind an origin -/

/-- Is the character taken out of a URL wherever it stands? -/
def isBreak (c : Char) : Bool :=
  c == '\t' || c == '\n' || c == '\r'

lemma isBreak_eq_false {c : Char} (h : isControlOrSpace c = false) : isBreak c = false := by
  refine Bool.eq_false_iff.2 fun hbreak => ?_
  simp only [isBreak, Bool.or_eq_true, beq_iff_eq] at hbreak
  rcases hbreak with (rfl | rfl) | rfl <;> exact absurd h (by decide)

lemma dropWhile_control_cons {c : Char} (h : isControlOrSpace c = false) :
    (c :: text).dropWhile isControlOrSpace = c :: text :=
  List.dropWhile_cons_of_neg (by simp [h])

lemma filter_breaks_eq_self (h : ∀ c ∈ text, isBreak c = false) :
    text.filter (fun c => c != '\t' && c != '\n' && c != '\r') = text := by
  refine List.filter_eq_self.2 fun c hc => ?_
  have hbreak := h c hc
  simp only [isBreak, Bool.or_eq_false_iff] at hbreak
  simp [bne, hbreak]

/-- Stripping does not change what begins with something visible and has no breaks in it, whatever
follows. -/
lemma strip_append {c d : Char} (hc : isControlOrSpace c = false)
    (hd : isControlOrSpace d = false) (htext : ∀ e ∈ c :: text, isBreak e = false) :
    strip (c :: text ++ d :: rest) = c :: text ++ strip (d :: rest) := by
  have back : ¬ ((d :: rest).reverse.dropWhile isControlOrSpace).isEmpty = true := by
    intro hempty
    have controls := List.dropWhile_eq_nil_iff.1 (List.isEmpty_iff.1 hempty)
    exact absurd (controls d (by simp)) (by simp [hd])
  rw [strip, strip, List.cons_append, dropWhile_control_cons hc, dropWhile_control_cons hd,
    ← List.cons_append, List.reverse_append, List.dropWhile_append, if_neg back,
    List.reverse_append, List.reverse_reverse, List.filter_append, filter_breaks_eq_self htext]

/-- What is visible stays at the beginning. -/
lemma exists_strip_cons {c : Char} (h : isControlOrSpace c = false) (rest : List Char) :
    ∃ kept, strip (c :: rest) = c :: kept := by
  have ends : ∃ front, ((c :: rest).reverse.dropWhile isControlOrSpace).reverse = c :: front := by
    rw [List.reverse_cons, List.dropWhile_append]
    split_ifs
    · exact ⟨[], by rw [dropWhile_control_cons h]; rfl⟩
    · exact ⟨_, by rw [List.reverse_append]; rfl⟩
  obtain ⟨front, hfront⟩ := ends
  have visible : ∀ d ∈ [c], isBreak d = false := List.forall_mem_singleton.2 (isBreak_eq_false h)
  rw [strip, dropWhile_control_cons h, hfront, ← List.singleton_append, List.filter_append,
    filter_breaks_eq_self visible]
  exact ⟨_, rfl⟩

/-- A text without controls and spaces is not changed by stripping. -/
lemma strip_eq_self (h : ∀ c ∈ text, isControlOrSpace c = false) : strip text = text := by
  have kept {text : List Char} (h : ∀ c ∈ text, isControlOrSpace c = false) :
      text.dropWhile isControlOrSpace = text := by
    cases text with
    | nil => rfl
    | cons c text => exact dropWhile_control_cons (h c List.mem_cons_self)
  rw [strip, kept h, kept fun c hc => h c (List.mem_reverse.1 hc), List.reverse_reverse,
    filter_breaks_eq_self fun c hc => isBreak_eq_false (h c hc)]

/-- A scheme and a place to connect to, and nothing behind it. -/
def IsOrigin (text : List Char) : Prop :=
  ∃ scheme authority, text = scheme ++ ':' :: '/' :: '/' :: authority ∧
    (scheme = "http".toList ∨ scheme = "https".toList) ∧ authority ≠ [] ∧
    ∀ c ∈ authority, isControlOrSpace c = false ∧ endsAuthority c = false

@[simp] lemma scheme_withTarget (url : Url) (text : List Char) :
    (url.withTarget text).scheme = url.scheme :=
  rfl

@[simp] lemma host_withTarget (url : Url) (text : List Char) :
    (url.withTarget text).host = url.host :=
  rfl

@[simp] lemma port_withTarget (url : Url) (text : List Char) :
    (url.withTarget text).port = url.port :=
  rfl

lemma dropWhile_slashes {authority : List Char} (hne : authority ≠ [])
    (h : ∀ c ∈ authority, endsAuthority c = false) (rest : List Char) :
    ('/' :: '/' :: authority ++ rest).dropWhile isSlash = authority ++ rest := by
  obtain ⟨c, authority, rfl⟩ := List.exists_cons_of_ne_nil hne
  have hc : isSlash c = false := by
    have ends := h c List.mem_cons_self
    rw [endsAuthority, Bool.or_eq_false_iff, Bool.or_eq_false_iff] at ends
    exact ends.1.1
  rw [List.cons_append, List.cons_append, List.dropWhile_cons_of_pos (by decide),
    List.dropWhile_cons_of_pos (by decide), List.cons_append, List.dropWhile_cons_of_neg]
  simp [hc]

lemma afterScheme?_append {scheme authority : List Char} (hne : authority ≠ [])
    (h : ∀ c ∈ authority, endsAuthority c = false) :
    afterScheme? asciiName? scheme ('/' :: '/' :: authority ++ '/' :: rest) =
      (afterScheme? asciiName? scheme ('/' :: '/' :: authority)).map
        (·.withTarget ('/' :: rest)) := by
  have goesOn : ∀ c ∈ authority, (!endsAuthority c) = true := fun c hc => by rw [h c hc]; rfl
  have alone := dropWhile_slashes hne h []
  rw [List.append_nil, List.append_nil] at alone
  have ends : (!endsAuthority '/') = false := by decide
  unfold afterScheme?
  rw [dropWhile_slashes hne h _, alone]
  simp only [List.takeWhile_append_of_pos goesOn, List.dropWhile_append_of_pos goesOn,
    List.takeWhile_cons_of_neg, List.dropWhile_cons_of_neg, ends, List.append_nil,
    List.takeWhile_eq_self_iff.2 goesOn, List.dropWhile_eq_nil_iff.2 goesOn, Bool.false_eq_true,
    not_false_eq_true]
  -- Host and port come from the authority alone, which is the same in both texts by now.
  generalize splitHost false ((authority.splitOn '@').getLastD []) = found
  obtain ⟨host, portText⟩ := found
  cases port? portText with
  | none => rfl
  | some port =>
    cases readHost? asciiName? host with
    | none => rfl
    | some name => rfl

lemma IsOrigin.visible {origin : List Char} (h : IsOrigin origin) :
    ∀ c ∈ origin, isControlOrSpace c = false := by
  obtain ⟨scheme, authority, rfl, hscheme, -, hauthority⟩ := h
  have hscheme' : ∀ c ∈ scheme, isControlOrSpace c = false := by
    rcases hscheme with rfl | rfl <;> exact List.all_iff_forall_prop.1 (by decide)
  intro c hc
  simp only [List.mem_append, List.mem_cons] at hc
  rcases hc with hc | rfl | rfl | rfl | hc
  · exact hscheme' c hc
  · decide
  · decide
  · decide
  · exact (hauthority c hc).1

lemma IsOrigin.strip_append {origin : List Char} (h : IsOrigin origin) :
    strip (origin ++ '/' :: rest) = origin ++ strip ('/' :: rest) := by
  have visible := h.visible
  obtain ⟨c, text, rfl⟩ := List.exists_cons_of_ne_nil (l := origin) (by
    obtain ⟨scheme, authority, rfl, -⟩ := h
    simp)
  exact Url.strip_append (visible c List.mem_cons_self) (by decide) fun e he =>
    isBreak_eq_false (visible e he)

/-- The text of an origin is taken apart at its colon. -/
lemma parse?_eq_of_strip {scheme : List Char}
    (hscheme : scheme = "http".toList ∨ scheme = "https".toList)
    (h : strip text = scheme ++ ':' :: rest) :
    parse? asciiName? (String.ofList text) = afterScheme? asciiName? scheme rest := by
  have free : ∀ c ∈ scheme, (c != ':') = true := by
    rcases hscheme with rfl | rfl <;> exact List.all_eq_true.1 (by decide)
  have lower : scheme.map Char.toLower = scheme := by
    rcases hscheme with rfl | rfl <;> decide
  rw [parse?, String.toList_ofList, h]
  simp only [List.takeWhile_append_of_pos free, List.dropWhile_append_of_pos free,
    bne_self_eq_false, List.takeWhile_cons_of_neg, List.dropWhile_cons_of_neg, Bool.false_eq_true,
    not_false_eq_true, List.append_nil, lower, if_pos hscheme]

/-- What stands behind an origin is read as path and query, and where the URL connects is decided
by the origin. -/
theorem parse?_append {origin : List Char} (h : IsOrigin origin) :
    parse? asciiName? (String.ofList (origin ++ '/' :: rest)) =
      (parse? asciiName? (String.ofList origin)).map
        (·.withTarget (strip ('/' :: rest))) := by
  have visible := h.visible
  obtain ⟨scheme, authority, rfl, hscheme, hne, hauthority⟩ := id h
  obtain ⟨kept, hkept⟩ := exists_strip_cons (c := '/') (by decide) rest
  have whole : strip (scheme ++ ':' :: '/' :: '/' :: authority ++ '/' :: rest) =
      scheme ++ ':' :: ('/' :: '/' :: authority ++ '/' :: kept) := by
    rw [h.strip_append, hkept, List.append_assoc]
    rfl
  rw [hkept, parse?_eq_of_strip hscheme whole, parse?_eq_of_strip hscheme (strip_eq_self visible),
    afterScheme?_append hne fun c hc => (hauthority c hc).2]

/-! ## Paths that are written segment by segment -/

/-- The segments, each with a slash in front of it. -/
def slashed (names : List (List Char)) : List Char :=
  names.flatMap ('/' :: ·)

lemma slashed_nil : slashed [] = [] :=
  rfl

lemma slashed_cons (name : List Char) (names : List (List Char)) :
    slashed (name :: names) = '/' :: (name ++ slashed names) :=
  rfl

lemma slashed_append (names more : List (List Char)) :
    slashed (names ++ more) = slashed names ++ slashed more :=
  List.flatMap_append

lemma slashed_singleton (name : List Char) : slashed [name] = '/' :: name :=
  List.flatMap_singleton ..

/-- The segments that a text writes behind a slash, before dot segments are resolved. -/
def segmentsBehind (text : List Char) : List (List Char) :=
  let shown := ((strip ('/' :: text)).takeWhile (· != '#')).takeWhile (· != '?')
  (shown.tail.splitOnP isSlash).map (encodeWith isPathChar)

lemma segmentsBehind_ne_nil (text : List Char) : segmentsBehind text ≠ [] := by
  simp [segmentsBehind]

lemma path_withTarget (url : Url) (text : List Char) :
    (url.withTarget (strip ('/' :: text))).path = resolve [] (segmentsBehind text) := by
  obtain ⟨kept, hkept⟩ := exists_strip_cons (c := '/') (by decide) text
  rw [withTarget, segmentsBehind, hkept, List.takeWhile_cons_of_pos (by decide),
    List.takeWhile_cons_of_pos (by decide)]
  rfl

/-- The character means nothing but itself in a path. -/
def IsInert (c : Char) : Prop :=
  isSlash c = false ∧ c ≠ '#' ∧ c ≠ '?' ∧ isBreak c = false

instance (c : Char) : Decidable (IsInert c) :=
  inferInstanceAs (Decidable (_ ∧ _))

lemma isInert_of_mem_slashed {names : List (List Char)}
    (h : ∀ name ∈ names, ∀ c ∈ name, IsInert c) :
    ∀ c ∈ slashed names, c ≠ '#' ∧ c ≠ '?' ∧ isBreak c = false := by
  intro c hc
  obtain ⟨name, hname, hc⟩ := List.mem_flatMap.1 hc
  rcases List.mem_cons.1 hc with rfl | hc
  · decide
  · exact (h name hname c hc).2

lemma exists_slashed_append_eq_cons (names : List (List Char)) (rest : List Char) :
    ∃ text, slashed names ++ '/' :: rest = '/' :: text := by
  cases names with
  | nil => exact ⟨rest, rfl⟩
  | cons name names => exact ⟨_, rfl⟩

lemma splitOnP_slashed_append {names : List (List Char)}
    (h : ∀ name ∈ names, ∀ c ∈ name, isSlash c = false) (rest : List Char) :
    (slashed names ++ '/' :: rest).tail.splitOnP isSlash = names ++ rest.splitOnP isSlash := by
  induction names with
  | nil => rfl
  | cons name names ih =>
    obtain ⟨hname, hnames⟩ := List.forall_mem_cons.1 h
    obtain ⟨more, hmore⟩ := exists_slashed_append_eq_cons names rest
    have split := ih hnames
    rw [hmore] at split
    rw [slashed, List.flatMap_cons, List.append_assoc]
    change (name ++ (slashed names ++ '/' :: rest)).splitOnP isSlash = _
    rw [hmore, List.splitOnP_append_cons _ _ (by decide), List.splitOnP_eq_singleton hname]
    exact congrArg (name :: ·) split

lemma takeWhile_ne_append {d : Char} (hd : d ≠ '/') (h : ∀ c ∈ text, c ≠ d) :
    (text ++ '/' :: rest).takeWhile (· != d) = text ++ '/' :: rest.takeWhile (· != d) := by
  rw [List.takeWhile_append_of_pos fun c hc => by simpa using h c hc,
    List.takeWhile_cons_of_pos (by simpa using hd.symm)]

/-- Segments of inert characters are read as they are, and what is written behind them has no
influence on that. -/
lemma segmentsBehind_slashed {names : List (List Char)} {front : List Char}
    (hfront : slashed names = '/' :: front) (h : ∀ name ∈ names, ∀ c ∈ name, IsInert c) :
    segmentsBehind (front ++ '/' :: text) =
      names.map (encodeWith isPathChar) ++ segmentsBehind text := by
  have inert := isInert_of_mem_slashed h
  obtain ⟨kept, hkept⟩ := exists_strip_cons (c := '/') (by decide) text
  have stripped : strip ('/' :: (front ++ '/' :: text)) = slashed names ++ '/' :: kept := by
    rw [hfront] at inert ⊢
    rw [← List.cons_append, strip_append (by decide) (by decide) fun c hc => (inert c hc).2.2,
      hkept]
  have split := splitOnP_slashed_append (fun name hname c hc => (h name hname c hc).1)
    ((kept.takeWhile (· != '#')).takeWhile (· != '?'))
  rw [segmentsBehind, segmentsBehind, stripped, takeWhile_ne_append (by decide) fun c hc =>
      (inert c hc).1, takeWhile_ne_append (by decide) fun c hc => (inert c hc).2.1, split,
    List.map_append, hkept, List.takeWhile_cons_of_pos (by decide),
    List.takeWhile_cons_of_pos (by decide), List.tail_cons]

/-! ## Inert paths -/

lemma splitOnP_slashed {names : List (List Char)} (hne : names ≠ [])
    (h : ∀ name ∈ names, ∀ c ∈ name, isSlash c = false) :
    (slashed names).tail.splitOnP isSlash = names := by
  obtain ⟨front, last, rfl⟩ := (List.eq_nil_or_concat names).resolve_left hne
  rw [List.concat_eq_append] at h ⊢
  rw [slashed_append, slashed_singleton,
    splitOnP_slashed_append (fun name hname => h name (List.mem_append_left _ hname)) last,
    List.splitOnP_eq_singleton (h last (by simp))]

/-- The pieces between the slashes of a text, joined again. -/
lemma slashed_splitOn (text : List Char) : slashed (text.splitOn '/') = '/' :: text := by
  have joined {pieces : List (List Char)} (hne : pieces ≠ []) :
      slashed pieces = '/' :: ['/'].intercalate pieces := by
    induction pieces with
    | nil => exact absurd rfl hne
    | cons piece pieces ih =>
      by_cases hrest : pieces = []
      · subst hrest
        simp [slashed]
      · rw [slashed, List.flatMap_cons, List.intercalate_cons_of_ne_nil hrest]
        change '/' :: piece ++ slashed pieces = _
        rw [ih hrest, List.append_assoc]
        rfl
  rw [joined (List.splitOn_ne_nil '/' text), List.intercalate_splitOn]

/-- The text does not end with a control or a space, which would be taken away. -/
def EndsVisibly (text : List Char) : Prop :=
  ∀ c, text.getLast? = some c → isControlOrSpace c = false

instance (text : List Char) : Decidable (EndsVisibly text) :=
  decidable_of_iff ((text.getLast?.all fun c => !isControlOrSpace c) = true) (by
    simp [EndsVisibly, Option.all_eq_true])

lemma EndsVisibly.of_slash_append {tail : List Char} (h : EndsVisibly tail) (front : List Char)
    (heq : front ++ '/' :: tail = '/' :: text) : EndsVisibly text := by
  intro c hc
  have last : ('/' :: tail).getLast? = some c := by
    have whole : ('/' :: text).getLast? = some c := by
      rw [List.getLast?_cons, hc, Option.getD_some]
    rw [← heq, List.getLast?_append, List.getLast?_cons, Option.some_or] at whole
    rwa [List.getLast?_cons]
  rcases List.eq_nil_or_concat tail with rfl | ⟨before, d, rfl⟩
  · obtain rfl : '/' = c := Option.some.inj last
    decide
  · exact h c (by rwa [List.getLast?_cons_of_ne_nil (by simp)] at last)

lemma strip_slash_cons (hbreaks : ∀ c ∈ '/' :: text, isBreak c = false) (hends : EndsVisibly text) :
    strip ('/' :: text) = '/' :: text := by
  have back : ('/' :: text).reverse.dropWhile isControlOrSpace = ('/' :: text).reverse := by
    rcases List.eq_nil_or_concat text with rfl | ⟨front, d, rfl⟩
    · rfl
    · have hd : isControlOrSpace d = false := hends d (by simp)
      rw [List.concat_eq_append, ← List.cons_append, List.reverse_append]
      exact dropWhile_control_cons hd
  rw [strip, dropWhile_control_cons (by decide), back, List.reverse_reverse,
    filter_breaks_eq_self hbreaks]

/-- Segments of inert characters are read as they are, and encoded. -/
lemma segmentsBehind_of_inert {names : List (List Char)} (htext : slashed names = '/' :: text)
    (h : ∀ name ∈ names, ∀ c ∈ name, IsInert c) (hends : EndsVisibly text) :
    segmentsBehind text = names.map (encodeWith isPathChar) := by
  have hne : names ≠ [] := by
    rintro rfl
    cases htext
  have inert := isInert_of_mem_slashed h
  rw [htext] at inert
  rw [segmentsBehind, strip_slash_cons (fun c hc => (inert c hc).2.2) hends,
    List.takeWhile_eq_self_iff.2 fun c hc => bne_iff_ne.2 (inert c hc).1,
    List.takeWhile_eq_self_iff.2 fun c hc => bne_iff_ne.2 (inert c hc).2.1, ← htext,
    splitOnP_slashed hne fun name hname c hc => (h name hname c hc).1]

/-- A path of inert characters has no query behind it, and no fragment. -/
lemma query_and_fragment_of_inert (url : Url) {names : List (List Char)}
    (htext : slashed names = '/' :: text) (h : ∀ name ∈ names, ∀ c ∈ name, IsInert c)
    (hends : EndsVisibly text) :
    (url.withTarget (strip ('/' :: text))).query = none ∧
      (url.withTarget (strip ('/' :: text))).fragment = none := by
  have inert := isInert_of_mem_slashed h
  rw [htext] at inert
  rw [withTarget, strip_slash_cons (fun c hc => (inert c hc).2.2) hends,
    List.takeWhile_eq_self_iff.2 fun c hc => bne_iff_ne.2 (inert c hc).1,
    List.dropWhile_eq_nil_iff.2 fun c hc => bne_iff_ne.2 (inert c hc).2.1,
    List.dropWhile_eq_nil_iff.2 fun c hc => bne_iff_ne.2 (inert c hc).1]
  exact ⟨rfl, rfl⟩

/-! ## Plain paths -/

/-- May the character stand anywhere in a URL, and mean only itself? -/
def isUnreserved (c : Char) : Bool :=
  c.isAlphanum || c == '-' || c == '.' || c == '_' || c == '~'

lemma toNat_lt_of_isUnreserved {c : Char} (h : isUnreserved c = true) : c.toNat < 128 := by
  simp only [isUnreserved, Bool.or_eq_true, beq_iff_eq, Char.isAlphanum] at h
  rcases h with ((((halpha | hdigit) | rfl) | rfl) | rfl) | rfl
  · exact Nat.lt_of_le_of_lt (Text.toNat_of_isAlpha halpha).2 (by decide)
  · exact Nat.lt_of_le_of_lt (Char.isDigit_iff_toNat.1 hdigit).2 (by decide)
  · decide
  · decide
  · decide
  · decide

lemma unreserved_table : ∀ n < 128, isUnreserved (Char.ofNat n) = true →
    isControlOrSpace (Char.ofNat n) = false ∧ isSlash (Char.ofNat n) = false ∧
      isPathChar (Char.ofNat n) = true ∧ Char.ofNat n ≠ '#' ∧ Char.ofNat n ≠ '?' ∧
      Char.ofNat n ≠ '%' := by
  decide

/-- An unreserved character means nothing else, and is not encoded. -/
lemma of_isUnreserved {c : Char} (h : isUnreserved c = true) :
    isControlOrSpace c = false ∧ isSlash c = false ∧ isPathChar c = true ∧ c ≠ '#' ∧ c ≠ '?' ∧
      c ≠ '%' := by
  obtain ⟨n, hn, rfl⟩ := Text.exists_ofNat_eq (toNat_lt_of_isUnreserved h)
  exact unreserved_table n hn h

/-- The segment is made of unreserved characters, and is no dot segment. -/
def IsPlain (segment : List Char) : Prop :=
  (∀ c ∈ segment, isUnreserved c = true) ∧ segment ≠ ['.'] ∧ segment ≠ ['.', '.']

instance (segment : List Char) : Decidable (IsPlain segment) :=
  decidable_of_iff (segment.all isUnreserved = true ∧ segment ≠ ['.'] ∧ segment ≠ ['.', '.'])
    (and_congr_left' List.all_eq_true)

lemma eq_replicate_of_dots? {n : Nat} (hpercent : '%' ∉ segment) (h : dots? segment = some n) :
    segment = List.replicate n '.' := by
  fun_induction dots? segment generalizing n with
  | case1 =>
    cases h
    rfl
  | case2 rest ih =>
    obtain ⟨m, hm, rfl⟩ := Option.map_eq_some_iff.1 h
    rw [List.replicate_succ, ← ih (fun hmem => hpercent (List.mem_cons_of_mem _ hmem)) hm]
  | case3 e rest he ih => exact absurd List.mem_cons_self hpercent
  | case4 e rest he => exact absurd List.mem_cons_self hpercent
  | case5 segment => cases h

lemma IsPlain.noPercent (h : IsPlain segment) : '%' ∉ segment := fun hmem =>
  (of_isUnreserved (h.1 _ hmem)).2.2.2.2.2 rfl

lemma IsPlain.isName (h : IsPlain segment) : IsName segment :=
  ⟨fun hone => h.2.1 (eq_replicate_of_dots? h.noPercent hone),
    fun htwo => h.2.2 (eq_replicate_of_dots? h.noPercent htwo)⟩

lemma IsPlain.encodeWith_eq_self (h : IsPlain segment) : encodeWith isPathChar segment = segment :=
  Url.encodeWith_eq_self fun c hc => (of_isUnreserved (h.1 c hc)).2.2.1

lemma IsPlain.isInert (h : IsPlain segment) : ∀ c ∈ segment, IsInert c := by
  intro c hc
  obtain ⟨hvisible, hslash, -, hhash, hquery, -⟩ := of_isUnreserved (h.1 c hc)
  exact ⟨hslash, hhash, hquery, isBreak_eq_false hvisible⟩

lemma endsVisibly_of_plain {names : List (List Char)} (htext : slashed names = '/' :: text)
    (h : ∀ name ∈ names, IsPlain name) : EndsVisibly text := by
  intro c hc
  have hmem : c ∈ slashed names := htext ▸ List.mem_cons_of_mem '/' (List.mem_of_getLast? hc)
  obtain ⟨name, hname, hc⟩ := List.mem_flatMap.1 hmem
  rcases List.mem_cons.1 hc with rfl | hc
  · decide
  · exact (of_isUnreserved ((h name hname).1 c hc)).1

lemma map_encodeWith_of_plain {names : List (List Char)} (h : ∀ name ∈ names, IsPlain name) :
    names.map (encodeWith isPathChar) = names :=
  (List.map_congr_left fun name hname => (h name hname).encodeWith_eq_self).trans
    (List.map_id' names)

/-- Plain segments are read as they are written. -/
lemma segmentsBehind_of_plain {names : List (List Char)} (htext : slashed names = '/' :: text)
    (h : ∀ name ∈ names, IsPlain name) : segmentsBehind text = names := by
  rw [segmentsBehind_of_inert htext (fun name hname => (h name hname).isInert)
    (endsVisibly_of_plain htext h), map_encodeWith_of_plain h]

end PullTriage.Url
