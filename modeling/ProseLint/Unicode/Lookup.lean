/-
Properties by name, as patterns ask for them: `namedTables?` for a single name (`Greek`, `Lu`,
`Alphabetic`), `valuedTables?` for a property and its value (`script=Greek`). Names are compared
in loose form. The answer is a list of tables, whose union is meant.
-/
import ProseLint.Unicode.Age
import ProseLint.Unicode.BinaryProperty
import ProseLint.Unicode.Category
import ProseLint.Unicode.Script
import ProseLint.Unicode.Segmentation

namespace ProseLint.Unicode

/-- The loose form of a name: small letters, no blanks, underscores or hyphens, no leading `is`.
Only `isc` keeps its `is`: it abbreviates a property, while `c` is a category. -/
def looseName (name : List Char) : String :=
  let keep (cs : List Char) : List Char :=
    (cs.filter fun c => c ≠ ' ' && c ≠ '_' && c ≠ '-' && c.toNat < 0x80).map Char.toLower
  match name with
  | i :: s :: rest =>
    if i.toLower = 'i' && s.toLower = 's' then
      let body := keep rest
      if body = ['c'] then "isc" else String.ofList body
    else String.ofList (keep name)
  | _ => String.ofList (keep name)

def wholeTable : RangeTable := #[(0, 0x10FFFF)]
def plainTable : RangeTable := #[(0, 0x7F)]

/-- The code points of a general category, of a union of them, or of all that are assigned. -/
def categoryTables? (name : String) : Option (List RangeTable) :=
  if name = "any" then some [wholeTable]
  else if name = "ascii" then some [plainTable]
  else match categoryGroups.find? (·.1.contains name) with
    | some (_, members) => some (members.filterMap (NamedRanges.find? generalCategories))
    | none =>
      if name = "assigned" then
        some ((generalCategories.filter (! ·.names.contains "cn")).map (RangeTable.ofText ·.ranges))
      else (NamedRanges.find? generalCategories name).map ([·])

def scriptTables? (name : String) : Option (List RangeTable) :=
  (NamedRanges.find? scripts name).map ([·])

/-- The extensions of a script, which are the script itself where they do not differ. -/
def extensionTables? (name : String) : Option (List RangeTable) :=
  match NamedRanges.find? scriptExtensions name with
  | some t => some [t]
  | none => scriptTables? name

/-- All code points that a version of the standard or an earlier one added. -/
def ageTables? (name : String) : Option (List RangeTable) :=
  if ages.any (·.names.contains name) then
    let earlier := ages.takeWhile (! ·.names.contains name)
    some ((earlier ++ (ages.drop earlier.length).take 1).map (RangeTable.ofText ·.ranges))
  else none

/-- A binary property, a general category or a script. Three names are both a category and the
short name of a property that is not binary; they mean the category. -/
def namedTables? (name : List Char) : Option (List RangeTable) :=
  let loose := looseName name
  match NamedRanges.find? binaryProperties loose with
  | some t => some [t]
  | none =>
    match categoryTables? loose with
    | some ts => some ts
    | none => scriptTables? loose

/-- A property that takes values, with one of them. -/
def valuedTables? (property value : List Char) : Option (List RangeTable) :=
  let v := looseName value
  match looseName property with
  | "gc" | "generalcategory" => categoryTables? v
  | "sc" | "script" => scriptTables? v
  | "scx" | "scriptextensions" => extensionTables? v
  | "age" => ageTables? v
  | "gcb" | "graphemeclusterbreak" => (NamedRanges.find? graphemeBreaks v).map ([·])
  | "wb" | "wordbreak" => (NamedRanges.find? wordBreaks v).map ([·])
  | "sb" | "sentencebreak" => (NamedRanges.find? sentenceBreaks v).map ([·])
  | _ => none

end ProseLint.Unicode
