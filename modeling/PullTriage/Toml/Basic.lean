import PullTriage.Json.Basic

/-!
# TOML values

A document is a table that its lines build up.  Whether a line may add to a table depends on how the
table came about, so a table remembers that while the document is read:

* a table with a header is complete when the next header comes, and has only one header;
* a table that longer headers imply may still get its own;
* a table that dotted keys make may get further dotted keys, and no header;
* a table in braces is closed.

Only the kinds of values are read that a setting can have: booleans, floating-point numbers and dates
count as errors.
-/

namespace PullTriage

namespace Toml

/-- How a table came about. -/
inductive Origin where
  | header
  | implied
  | dotted
  | braces
deriving Repr, DecidableEq

/-- A value. -/
inductive Value where
  | string (text : String)
  | integer (n : Int)
  | array (items : List Value)
  | table (origin : Origin) (members : List (String × Value))
  /-- Tables with double brackets around their headers, of one name. -/
  | tables (items : List Value)
deriving Repr, Inhabited

/-- The members of a table. -/
abbrev Members := List (String × Value)

/-- The members with another value for a key that is there. -/
def replace (key : String) (v : Value) (members : Members) : Members :=
  members.map fun m => if m.1 == key then (key, v) else m

/-- Changes the last of some tables. -/
def changeLast? (change : Value → Option Value) : List Value → Option (List Value)
  | [] => none
  | [v] => (change v).map fun v => [v]
  | v :: rest => (changeLast? change rest).map (v :: ·)

/-- Changes the table at the end of a path of keys; tables that are not there are made.  `isDotted`
says whether the path is that of a dotted key or that of a header. -/
def changeAt? (isDotted : Bool) (change : Value → Option Value) :
    List String → Value → Option Value
  | [], v => change v
  | key :: path, .table origin members =>
    match members.lookup key with
    | none =>
      (changeAt? isDotted change path (.table (if isDotted then .dotted else .implied) [])).map
        fun v => .table origin (members ++ [(key, v)])
    | some (.table .braces _) => none
    | some (.table .header inner) =>
      if isDotted then none
      else
        (changeAt? isDotted change path (.table .header inner)).map
          fun v => .table origin (replace key v members)
    | some (.table inner old) =>
      (changeAt? isDotted change path (.table inner old)).map
        fun v => .table origin (replace key v members)
    | some (.tables items) =>
      (changeLast? (changeAt? isDotted change path) items).map
        fun items => .table origin (replace key (.tables items) members)
    | some _ => none
  | _, _ => none

/-- Adds a member to a table, which has to be one of dotted keys if the key is a dotted one. -/
def addMember? (isDotted : Bool) (key : String) (v : Value) : Value → Option Value
  | .table origin members =>
    if isDotted != (origin == .dotted) then none
    else if (members.lookup key).isSome then none
    else some (.table origin (members ++ [(key, v)]))
  | _ => none

/-- Adds a value under a key, which may be a dotted one. -/
def assign? (path : List String) (v : Value) (table : Value) : Option Value :=
  match path.getLast? with
  | none => none
  | some key =>
    let inner := path.dropLast
    changeAt? true (addMember? (!inner.isEmpty) key v) inner table

/-- Begins the table of a header: a new one, or one that is only implied so far. -/
def beginTable? (path : List String) (root : Value) : Option Value :=
  match path.getLast? with
  | none => none
  | some key =>
    changeAt? false (fun
      | .table origin members =>
        match members.lookup key with
        | none => some (.table origin (members ++ [(key, .table .header [])]))
        | some (.table .implied inner) =>
          some (.table origin (replace key (.table .header inner) members))
        | some _ => none
      | _ => none) path.dropLast root

/-- Begins another one of the tables of a header in double brackets. -/
def beginItem? (path : List String) (root : Value) : Option Value :=
  match path.getLast? with
  | none => none
  | some key =>
    changeAt? false (fun
      | .table origin members =>
        match members.lookup key with
        | none => some (.table origin (members ++ [(key, .tables [.table .header []])]))
        | some (.tables items) =>
          some (.table origin (replace key (.tables (items ++ [.table .header []])) members))
        | some _ => none
      | _ => none) path.dropLast root

mutual

/-- The value as a JSON value. -/
def Value.toJson : Value → Json
  | .string text => .text text
  | .integer n => .number (toString n)
  | .array items => .array (itemsToJson items)
  | .table _ members => .object (membersToJson members)
  | .tables items => .array (itemsToJson items)

/-- The items as JSON values. -/
def itemsToJson : List Value → List Json
  | [] => []
  | v :: rest => v.toJson :: itemsToJson rest

/-- The members as those of a JSON object. -/
def membersToJson : List (String × Value) → List (Option String × Json)
  | [] => []
  | (key, v) :: rest => (some key, v.toJson) :: membersToJson rest

end

end Toml

end PullTriage
