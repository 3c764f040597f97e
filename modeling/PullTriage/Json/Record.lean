import PullTriage.Json.Basic

/-!
# Records

A record is written as an object with members of given names, or as an array of their values in the
order in which the record lists them.  No member may occur twice, and the names must be text.

An object may leave members out, and the decoding of each says whether it has to be there.  An array
may leave out only the last ones, and of them only those that have a `fallback`.  Whether it may go on
after the last one depends on the format: in some, such items are passed over.
-/

namespace PullTriage

namespace Json

/-- A member that a record knows; `fallback` says that it has a value when it is left out. -/
structure Field where
  name : String
  fallback : Bool := false
deriving Repr, DecidableEq

/-- The form of a record: its fields in order, whether an object may have no other members, and
whether an array may have no more items. -/
structure Form where
  fields : List Field
  closed : Bool := false
  exact : Bool := true
deriving Repr, DecidableEq

/-- Does the record have a field of this name? -/
def Form.knows (form : Form) (name : String) : Bool :=
  form.fields.any fun f => f.name == name

/-- The members of a record that are there, by name. -/
abbrev Members := List (String × Json)

/-- Adds a member of an object to those before it, if the record allows it. -/
def Form.addMember? (form : Form) (seen : Members) : Option String × Json → Option Members
  | (none, _) => none
  | (some name, v) =>
    if form.knows name then
      if seen.any fun m => m.1 == name then none else some (seen ++ [(name, v)])
    else if form.closed then none
    else some seen

/-- The values of an array under the names of the fields. -/
def zipFields (exact : Bool) : List Field → List Json → Option Members
  | [], [] => some []
  | [], _ :: _ => if exact then none else some []
  | fields, [] => if fields.all (·.fallback) then some [] else none
  | f :: fields, v :: items => (zipFields exact fields items).map ((f.name, v) :: ·)

/-- The members of a record that a value writes. -/
def members? (form : Form) : Json → Option Members
  | object members => members.foldlM form.addMember? []
  | array items => zipFields form.exact form.fields items
  | _ => none

namespace Members

/-- The member with this name. -/
def get? (members : Members) (name : String) : Option Json :=
  (members.find? fun m => m.1 == name).map (·.2)

/-- A member that has to be there. -/
def required {α : Type} (members : Members) (name : String) (decode : Json → Option α) :
    Option α :=
  (members.get? name).bind decode

/-- A member that may be left out or null. -/
def optional {α : Type} (members : Members) (name : String) (decode : Json → Option α) :
    Option (Option α) :=
  match members.get? name with
  | none => some none
  | some .null => some none
  | some v => (decode v).map some

/-- A member that has a value when it is left out. -/
def getD {α : Type} (members : Members) (name : String) (decode : Json → Option α) (value : α) :
    Option α :=
  match members.get? name with
  | none => some value
  | some v => decode v

end Members

end Json

end PullTriage
