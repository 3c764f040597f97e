import PullTriage.Regex.CharClass
import PullTriage.Unicode.Category
import PullTriage.Unicode.Script
import PullTriage.Unicode.Property

/-!
# Classes by property name

The classes that a pattern names in braces: binary properties, general categories and scripts.
Names are compared loosely: case, spaces, hyphens, underscores and a leading `is` make no
difference.
-/

namespace PullTriage.Regex

open Unicode

/-- A property name with everything removed that does not distinguish names. -/
def looseName (name : List Char) : List Char :=
  let bare := match name with
    | i :: s :: rest => if (i == 'i' || i == 'I') && (s == 's' || s == 'S') then rest else name
    | _ => name
  let kept := (bare.filter fun c => c.toNat < 128 && c != ' ' && c != '_' && c != '-').map Char.toLower
  if kept == ['c'] && bare != name then ['i', 's', 'c'] else kept

/-- The row of a table whose names include this loose one. -/
def findNamed {α : Type} (table : List (List String × α)) (name : List Char) :
    Option (List String × α) :=
  table.find? fun row => row.1.any fun n => looseName n.toList == name

/-- The class of a general category, by loose name. -/
def categoryClass? (name : List Char) : Option CharClass :=
  if name == "any".toList then some .any
  else if name == "ascii".toList then some (.codes [(0x00, 0x7F)])
  else if name == "assigned".toList then some (.compl (.codes (category "Cn")))
  else
    match findNamed categories name with
    | some row => some (.codes (CodeSet.ofText row.2))
    | none =>
      (findNamed categoryGroups name).map fun row =>
        row.2.foldl (fun cls part => .union cls (.codes (category part))) .empty

/-- The class of a script, by loose name. -/
def scriptClass? (name : List Char) : Option CharClass :=
  (findNamed scripts name).map fun row => .codes (CodeSet.ofText row.2)

/-- The characters that are used with a script, by loose name.  A character of Common or Inherited
that is listed with particular scripts counts for those alone. -/
def scriptExtensionClass? (name : List Char) : Option CharClass :=
  (findNamed scripts name).map fun row =>
    let own := CharClass.codes (CodeSet.ofText row.2)
    if row.1.contains "Common" || row.1.contains "Inherited" then
      scriptExtensions.foldl (fun cls extra => cls.diff (.codes (CodeSet.ofText extra.2))) own
    else
      match scriptExtensions.find? fun extra => extra.1.head? == row.1.head? with
      | some extra => .union own (.codes (CodeSet.ofText extra.2))
      | none => own

/-- The class of a binary property, by loose name. -/
def binaryClass? (name : List Char) : Option CharClass :=
  (findNamed binaryProperties name).map fun row => .codes (CodeSet.ofText row.2)

/-- The class of a name on its own.  A binary property comes before a category, and a category
before a script; three short names that properties share with categories are categories. -/
def namedClass? (name : List Char) : Option CharClass :=
  let loose := looseName name
  let asProperty :=
    if loose == ['c', 'f'] || loose == ['s', 'c'] || loose == ['l', 'c'] then none
    else binaryClass? loose
  match asProperty with
  | some cls => some cls
  | none =>
    match categoryClass? loose with
    | some cls => some cls
    | none => scriptClass? loose

/-- The class of a property with a value. -/
def valuedClass? (property value : List Char) : Option CharClass :=
  let property := looseName property
  let value := looseName value
  if property == "gc".toList || property == "generalcategory".toList then categoryClass? value
  else if property == "sc".toList || property == "script".toList then scriptClass? value
  else if property == "scx".toList || property == "scriptextensions".toList then
    scriptExtensionClass? value
  else none

/-- The part of a list before the first occurrence of `sep` and the part after it. -/
def splitAtFirst? (sep : List Char) : List Char → Option (List Char × List Char)
  | [] => none
  | c :: rest =>
    if sep.isPrefixOf (c :: rest) then some ([], (c :: rest).drop sep.length)
    else (splitAtFirst? sep rest).map fun parts => (c :: parts.1, parts.2)

/-- The class of what stands between the braces: a name, or a property and its value joined by
`=`, `:` or, for the complement, `!=`. -/
def bracedClass? (content : List Char) : Option CharClass :=
  match splitAtFirst? ['!', '='] content with
  | some (property, value) => (valuedClass? property value).map .compl
  | none =>
    match splitAtFirst? [':'] content with
    | some (property, value) => valuedClass? property value
    | none =>
      match splitAtFirst? ['='] content with
      | some (property, value) => valuedClass? property value
      | none => namedClass? content

end PullTriage.Regex
