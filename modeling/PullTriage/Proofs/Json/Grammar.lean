import PullTriage.Json.Reader
import PullTriage.Proofs.Json.Tokens

/-!
# Which texts write a value

A value is written by a text that can be cut into the tokens of the value (`WrittenAs`).  So white
space may stand anywhere between tokens, every character of a string may be escaped or not, and the
depth of a value has no limit; what is written is the value with its members in order, and for each
number its digits.

Reading is exact: `ofString?` and `ofBytes?` give a value if and only if the text writes it
(`ofString?_eq_some_iff`, `ofBytes?_eq_some_iff`).  That a value is read from its tokens is an
induction over the value.  For the converse, each state of the reader stands for the tokens that
lead to it (`Reading.tokens`), and a step adds its token to them.
-/

namespace PullTriage.Json

/-! ## The tokens of a value -/

mutual

/-- The tokens of a value. -/
def tokens : Json → List Token
  | null => [.null]
  | bool value => [.bool value]
  | number lexeme => [.number lexeme]
  | string content => [.string content]
  | array items => .beginArray :: itemTokens true items
  | object members => .beginObject :: memberTokens true members

/-- The tokens of the rest of an array; `first` says whether no item stands before. -/
def itemTokens (first : Bool) : List Json → List Token
  | [] => [.endArray]
  | v :: rest => (if first then [] else [.comma]) ++ v.tokens ++ itemTokens false rest

/-- The tokens of the rest of an object; `first` says whether no member stands before. -/
def memberTokens (first : Bool) : List (Option String × Json) → List Token
  | [] => [.endObject]
  | (key, v) :: rest =>
    (if first then [] else [.comma]) ++ .string key :: .colon :: v.tokens ++ memberTokens false rest

end

/-- What holds of scalars, and of arrays and objects if it holds of what is in them, holds of all
values. -/
@[elab_as_elim]
theorem induction {motive : Json → Prop} (null : motive .null)
    (bool : ∀ value, motive (.bool value)) (number : ∀ lexeme, motive (.number lexeme))
    (string : ∀ content, motive (.string content))
    (array : ∀ items, (∀ v ∈ items, motive v) → motive (.array items))
    (object : ∀ members, (∀ m ∈ members, motive m.2) → motive (.object members)) (v : Json) :
    motive v :=
  match v with
  | .null => null
  | .bool value => bool value
  | .number lexeme => number lexeme
  | .string content => string content
  | .array items => array items fun v _ => induction null bool number string array object v
  | .object members =>
    object members fun m _ => induction null bool number string array object m.2
termination_by v
decreasing_by
  · have := List.sizeOf_lt_of_mem ‹v ∈ items›
    simp
    omega
  · have := List.sizeOf_lt_of_mem ‹m ∈ members›
    obtain ⟨key, v⟩ := m
    simp at this ⊢
    omega

/-! ## Building a value from its tokens -/

lemma foldlM_cons_of_step {before after : Reading} {t : Token} (h : step? before t = some after)
    (ts : List Token) : (t :: ts).foldlM step? before = ts.foldlM step? after := by
  rw [List.foldlM_cons, h]
  rfl

/-- Where a value is expected, its tokens leave the value. -/
def BuiltFromTokens (v : Json) : Prop :=
  ∀ stack, v.tokens.foldlM step? (stack, .value) = some (stack, .after v)

/-- At the first place of an array a value is read as elsewhere. -/
lemma BuiltFromTokens.firstItem {v : Json} (h : BuiltFromTokens v) (stack : List Open) :
    v.tokens.foldlM step? (.array [] :: stack, .firstItem) =
      some (.array [] :: stack, .after v) := by
  have begins : ∃ t ts, v.tokens = t :: ts ∧ t ≠ .endArray := by
    cases v with
    | array items => exact ⟨.beginArray, _, rfl, nofun⟩
    | object members => exact ⟨.beginObject, _, rfl, nofun⟩
    | _ => exact ⟨_, [], rfl, nofun⟩
  obtain ⟨t, ts, hts, ht⟩ := begins
  -- Only a bracket that ends the array is taken differently there, and no value begins with it.
  have same : step? (.array [] :: stack, .firstItem) t = step? (.array [] :: stack, .value) t := by
    cases t with
    | endArray => exact absurd rfl ht
    | _ => rfl
  have built := h (.array [] :: stack)
  rw [hts, List.foldlM_cons] at built ⊢
  rw [same]
  exact built

lemma builds_items {items : List Json} (hitems : ∀ v ∈ items, BuiltFromTokens v)
    (stack : List Open) (done : List Json) (v : Json) :
    (itemTokens false items).foldlM step? (.array done :: stack, .after v) =
      some (stack, .after (.array (done.reverse ++ v :: items))) := by
  induction items generalizing done v with
  | nil =>
    have ends : (done.reverse ++ [v]) = (v :: done).reverse := List.reverse_cons.symm
    rw [ends]
    rfl
  | cons w items ih =>
    obtain ⟨hw, hitems⟩ := List.forall_mem_cons.1 hitems
    have comma : step? (.array done :: stack, .after v) .comma =
        some (.array (v :: done) :: stack, .value) := rfl
    have rest := ih hitems (v :: done) w
    rw [List.reverse_cons, List.append_assoc] at rest
    change (Token.comma :: w.tokens ++ itemTokens false items).foldlM step? _ = _
    rw [List.cons_append, foldlM_cons_of_step comma, List.foldlM_append, hw, Option.bind_eq_bind,
      Option.bind_some, rest]
    rfl

lemma builds_members {members : List (Option String × Json)}
    (hmembers : ∀ m ∈ members, BuiltFromTokens m.2) (stack : List Open)
    (done : List (Option String × Json)) (key : Option String) (v : Json) :
    (memberTokens false members).foldlM step? (.object done key :: stack, .after v) =
      some (stack, .after (.object (done.reverse ++ (key, v) :: members))) := by
  induction members generalizing done key v with
  | nil =>
    have ends : (done.reverse ++ [(key, v)]) = ((key, v) :: done).reverse :=
      List.reverse_cons.symm
    rw [ends]
    rfl
  | cons m members ih =>
    obtain ⟨key', w⟩ := m
    obtain ⟨hw, hmembers⟩ := List.forall_mem_cons.1 hmembers
    have comma : step? (.object done key :: stack, .after v) .comma =
        some (stack, .key ((key, v) :: done)) := rfl
    have rest := ih hmembers ((key, v) :: done) key' w
    rw [List.reverse_cons, List.append_assoc] at rest
    change (Token.comma :: .string key' :: .colon :: (w.tokens ++
      memberTokens false members)).foldlM step? _ = _
    rw [foldlM_cons_of_step comma, foldlM_cons_of_step rfl, foldlM_cons_of_step rfl,
      List.foldlM_append, hw, Option.bind_eq_bind, Option.bind_some, rest]
    rfl

/-- The tokens of a value are read as the value. -/
lemma builds_value (v : Json) : BuiltFromTokens v := by
  induction v using Json.induction with
  | null => exact fun stack => rfl
  | bool value => exact fun stack => rfl
  | number lexeme => exact fun stack => rfl
  | string content => exact fun stack => rfl
  | array items ih =>
    intro stack
    cases items with
    | nil => rfl
    | cons v items =>
      obtain ⟨hv, hitems⟩ := List.forall_mem_cons.1 ih
      have begins : step? (stack, .value) .beginArray = some (.array [] :: stack, .firstItem) := rfl
      change (Token.beginArray :: (v.tokens ++ itemTokens false items)).foldlM step? _ = _
      rw [foldlM_cons_of_step begins, List.foldlM_append, BuiltFromTokens.firstItem hv,
        Option.bind_eq_bind, Option.bind_some, builds_items hitems]
      rfl
  | object members ih =>
    intro stack
    cases members with
    | nil => rfl
    | cons m members =>
      obtain ⟨key, v⟩ := m
      obtain ⟨hv, hmembers⟩ := List.forall_mem_cons.1 ih
      have begins : step? (stack, .value) .beginObject = some (stack, .firstKey) := rfl
      change (Token.beginObject :: .string key :: .colon :: (v.tokens ++
        memberTokens false members)).foldlM step? _ = _
      rw [foldlM_cons_of_step begins, foldlM_cons_of_step rfl, foldlM_cons_of_step rfl,
        List.foldlM_append, hv, Option.bind_eq_bind, Option.bind_some, builds_members hmembers]
      rfl

/-! ## The tokens behind a state -/

/-- The tokens of items with more items behind them. -/
def itemsBefore (items : List Json) : List Token :=
  items.flatMap fun v => v.tokens ++ [.comma]

/-- The tokens of members with more members behind them. -/
def membersBefore (members : List (Option String × Json)) : List Token :=
  members.flatMap fun m => .string m.1 :: .colon :: m.2.tokens ++ [.comma]

/-- The tokens of what is open, up to the value that is being read in it. -/
def Open.tokens : Open → List Token
  | array items => .beginArray :: itemsBefore items.reverse
  | object members name => .beginObject :: membersBefore members.reverse ++ [.string name, .colon]

/-- The tokens since the last thing that is open. -/
def Expected.tokens : Expected → List Token
  | value => []
  | firstItem => []
  | firstKey => [.beginObject]
  | key members => .beginObject :: membersBefore members.reverse
  | colon members name => .beginObject :: membersBefore members.reverse ++ [.string name]
  | after done => done.tokens

/-- The tokens of all that is open. -/
def openTokens (stack : List Open) : List Token :=
  stack.reverse.flatMap Open.tokens

/-- The tokens that lead to a state. -/
def Reading.tokens (state : Reading) : List Token :=
  openTokens state.1 ++ state.2.tokens

/-- The first item of an array is expected only where an array has just begun. -/
def Reading.IsReached : Reading → Prop
  | (stack, .firstItem) => ∃ below, stack = .array [] :: below
  | _ => True

lemma openTokens_cons (top : Open) (stack : List Open) :
    openTokens (top :: stack) = openTokens stack ++ top.tokens := by
  rw [openTokens, List.reverse_cons, List.flatMap_append, List.flatMap_singleton, openTokens]

lemma itemTokens_concat (items : List Json) (v : Json) :
    itemTokens true (items ++ [v]) = itemsBefore items ++ v.tokens ++ [.endArray] := by
  induction items with
  | nil => simp [itemTokens, itemsBefore]
  | cons w items ih =>
    have comma : itemTokens false (items ++ [v]) = .comma :: itemTokens true (items ++ [v]) := by
      cases items <;> simp [itemTokens]
    rw [List.cons_append, itemTokens, comma, ih]
    simp [itemsBefore]

lemma memberTokens_concat (members : List (Option String × Json)) (key : Option String)
    (v : Json) : memberTokens true (members ++ [(key, v)]) =
      membersBefore members ++ .string key :: .colon :: v.tokens ++ [.endObject] := by
  induction members with
  | nil => simp [memberTokens, membersBefore]
  | cons m members ih =>
    have comma : memberTokens false (members ++ [(key, v)]) =
        .comma :: memberTokens true (members ++ [(key, v)]) := by
      cases members <;> simp [memberTokens]
    rw [List.cons_append, memberTokens, comma, ih]
    simp [membersBefore]

lemma tokens_of_scalar? {t : Token} {v : Json} (h : t.scalar? = some v) : v.tokens = [t] := by
  unfold Token.scalar? at h
  split at h <;> cases h <;> rfl

lemma tokens_beginValue {stack : List Open} {t : Token} {state : Reading}
    (h : beginValue? stack t = some state) :
    state.tokens = openTokens stack ++ [t] ∧ state.IsReached := by
  unfold beginValue? at h
  split at h
  · cases h
    refine ⟨?_, stack, rfl⟩
    rw [Reading.tokens, openTokens_cons]
    simp [Open.tokens, Expected.tokens, itemsBefore]
  · cases h
    exact ⟨rfl, trivial⟩
  · obtain ⟨v, hv, rfl⟩ := Option.map_eq_some_iff.1 h
    refine ⟨?_, trivial⟩
    rw [Reading.tokens, Expected.tokens, tokens_of_scalar? hv]

/-- A step adds its token to those that led to the state. -/
lemma tokens_step {before after : Reading} {t : Token} (h : step? before t = some after)
    (hreached : before.IsReached) : after.tokens = before.tokens ++ [t] ∧ after.IsReached := by
  unfold step? at h
  split at h
  · obtain ⟨htokens, hafter⟩ := tokens_beginValue h
    exact ⟨by simpa [Reading.tokens, Expected.tokens] using htokens, hafter⟩
  · -- an array that ends where its first item is expected is empty
    next items stack =>
    cases h
    obtain ⟨below, hbelow⟩ := hreached
    cases hbelow
    refine ⟨?_, trivial⟩
    simp [Reading.tokens, openTokens_cons, Open.tokens, Expected.tokens, itemsBefore, Json.tokens,
      itemTokens]
  · obtain ⟨htokens, hafter⟩ := tokens_beginValue h
    exact ⟨by simpa [Reading.tokens, Expected.tokens] using htokens, hafter⟩
  · cases h
    refine ⟨?_, trivial⟩
    simp [Reading.tokens, Expected.tokens, Json.tokens, memberTokens]
  · cases h
    refine ⟨?_, trivial⟩
    simp [Reading.tokens, Expected.tokens, membersBefore]
  · cases h
    refine ⟨?_, trivial⟩
    simp [Reading.tokens, Expected.tokens]
  · cases h
    refine ⟨?_, trivial⟩
    simp [Reading.tokens, Expected.tokens, openTokens_cons, Open.tokens]
  · cases h
    refine ⟨?_, trivial⟩
    simp [Reading.tokens, Expected.tokens, openTokens_cons, Open.tokens, itemsBefore]
  · cases h
    refine ⟨?_, trivial⟩
    simp [Reading.tokens, Expected.tokens, openTokens_cons, Open.tokens, Json.tokens,
      itemTokens_concat]
  · cases h
    refine ⟨?_, trivial⟩
    simp [Reading.tokens, Expected.tokens, openTokens_cons, Open.tokens, membersBefore]
  · cases h
    refine ⟨?_, trivial⟩
    simp [Reading.tokens, Expected.tokens, openTokens_cons, Open.tokens, Json.tokens,
      memberTokens_concat]
  · cases h

/-- A run adds its tokens to those that led to the state where it begins. -/
lemma tokens_run {before after : Reading} {ts : List Token}
    (h : ts.foldlM step? before = some after) (hreached : before.IsReached) :
    after.tokens = before.tokens ++ ts := by
  induction ts generalizing before with
  | nil =>
    cases h
    exact (List.append_nil _).symm
  | cons t ts ih =>
    rw [List.foldlM_cons] at h
    obtain ⟨next, hstep, hrun⟩ := Option.bind_eq_some_iff.1 h
    obtain ⟨htokens, hnext⟩ := tokens_step hstep hreached
    rw [ih hrun hnext, htokens, List.append_assoc, List.singleton_append]

/-- Tokens are read as a value exactly if they are those of the value. -/
theorem ofTokens?_eq_some_iff {ts : List Token} {v : Json} :
    ofTokens? ts = some v ↔ ts = v.tokens := by
  constructor
  · intro h
    unfold ofTokens? at h
    split at h
    · next done hrun =>
      cases h
      exact (tokens_run hrun trivial).symm
    · cases h
  · rintro rfl
    rw [ofTokens?, builds_value v []]

/-! ## Texts -/

/-- The text writes the value: it is the tokens of the value, one behind the other, with white space
anywhere between them. -/
def WrittenAs (v : Json) (text : List Text.Symbol) : Prop :=
  Cuts text v.tokens

variable {v : Json}

lemma bind_tokens?_eq_some_iff {text : List Text.Symbol} :
    (tokens? text).bind ofTokens? = some v ↔ v.WrittenAs text := by
  rw [Option.bind_eq_some_iff, WrittenAs, ← tokens?_eq_some_iff]
  constructor
  · rintro ⟨ts, hcut, hbuild⟩
    rw [hcut, ofTokens?_eq_some_iff.1 hbuild]
  · exact fun h => ⟨v.tokens, h, ofTokens?_eq_some_iff.2 rfl⟩

/-- A text writes one value at most. -/
lemma WrittenAs.unique {w : Json} {text : List Text.Symbol} (hv : v.WrittenAs text)
    (hw : w.WrittenAs text) : v = w :=
  Option.some.inj ((bind_tokens?_eq_some_iff.2 hv).symm.trans (bind_tokens?_eq_some_iff.2 hw))

/-- A text is read as a value exactly if it writes the value. -/
theorem ofString?_eq_some_iff {text : String} :
    ofString? text = some v ↔ v.WrittenAs (text.toList.map some) :=
  bind_tokens?_eq_some_iff

/-- Bytes are read as a value exactly if they write the value, where a byte that is no part of a
character may only stand in a string. -/
theorem ofBytes?_eq_some_iff {bytes : ByteArray} :
    ofBytes? bytes = some v ↔ v.WrittenAs (Text.symbols bytes) :=
  bind_tokens?_eq_some_iff

end PullTriage.Json
