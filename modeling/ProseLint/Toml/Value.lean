/-
TOML values and how tables grow. A document is read line by line into one table; `Value.within` goes
down a path of keys to where a header or a dotted key puts something, and refuses what would define
a table twice.
-/
namespace ProseLint.Toml

/-- How a table came to be: written in braces, grown inside such braces by a dotted key, named on
the way to another table by a header or by a dotted key, or given by a header of its own. -/
inductive TableForm where
  | braced
  | bracedDotted
  | implied
  | dotted
  | headed
  deriving DecidableEq, Repr

/-- A TOML value. Of floats only the kind is kept. -/
inductive Value where
  | string (s : String)
  | integer (n : Int)
  | float
  | boolean (b : Bool)
  /-- a date, a time or both, in their normal spelling -/
  | date (text : String)
  | array (items : List Value)
  | table (form : TableForm) (entries : List (String × Value))
  /-- the tables that `[[header]]` lines gave, the last one first -/
  | tables (elements : List Value)

def replace (key : String) (v : Value) (entries : List (String × Value)) : List (String × Value) :=
  entries.map fun e => if e.1 = key then (key, v) else e

namespace Value

/-- Goes down a path and changes the table there, making tables on the way. On the path of a dotted
key a table of its own may not be entered, on that of a header it may. -/
def within (dotted : Bool) (change : Value → Option Value) : List String → Value → Option Value
  | [], t => change t
  | key :: path, table form entries =>
    match entries.lookup key with
    | none => do
      let made ← within dotted change path (table (if dotted then .dotted else .implied) [])
      return table form (entries ++ [(key, made)])
    | some (tables (last :: earlier)) => do
      let last ← within dotted change path last
      return table form (replace key (tables (last :: earlier)) entries)
    | some (table inner more) =>
      if inner = .braced ∨ inner = .bracedDotted ∨ (dotted ∧ inner = .headed) then none
      else do
        let t ← within dotted change path (table inner more)
        return table form (replace key t entries)
    | some _ => none
  | _ :: _, _ => none

/-- Puts a value under a key that is free. The table has to have grown by dotted keys exactly if
the key stands behind some. -/
def insertNew (behindDots : Bool) (key : String) (v : Value) : Value → Option Value
  | table form entries =>
    if (form = .dotted ∨ form = .bracedDotted) ↔ behindDots = true then
      if entries.any (·.1 = key) then none else some (table form (entries ++ [(key, v)]))
    else none
  | _ => none

/-- What a header `[path.key]` does to the table at `path`. -/
def openTable (key : String) : Value → Option Value
  | table form entries =>
    match entries.lookup key with
    | none => some (table form (entries ++ [(key, table .headed [])]))
    | some (table .implied more) => some (table form (replace key (table .headed more) entries))
    | some _ => none
  | _ => none

/-- What a header `[[path.key]]` does to the table at `path`. -/
def openElement (key : String) : Value → Option Value
  | table form entries =>
    match entries.lookup key with
    | none => some (table form (entries ++ [(key, tables [table .headed []])]))
    | some (tables elements) =>
      some (table form (replace key (tables (table .headed [] :: elements)) entries))
    | some _ => none
  | _ => none

/-- Goes down the path of a dotted key inside braces. -/
def withinBraces (change : Value → Option Value) : List String → Value → Option Value
  | [], t => change t
  | key :: path, table form entries =>
    match entries.lookup key with
    | none => do
      let made ← withinBraces change path (table .bracedDotted [])
      return table form (entries ++ [(key, made)])
    | some (table .bracedDotted more) => do
      let t ← withinBraces change path (table .bracedDotted more)
      return table form (replace key t entries)
    | some _ => none
  | _ :: _, _ => none

def string? : Value → Option String
  | string s => some s
  | _ => none

def boolean? : Value → Option Bool
  | boolean b => some b
  | _ => none

/-- A natural number; integers have 63 bits and a sign. -/
def nat? : Value → Option Nat
  | integer (.ofNat n) => some n
  | _ => none

def array? : Value → Option (List Value)
  | array items => some items
  | tables elements => some elements.reverse
  | _ => none

def table? : Value → Option (List (String × Value))
  | table _ entries => some entries
  | _ => none

/-- The key of the one entry of a date that is read as a table. -/
def dateKey : String := "$__toml_private_datetime"

/-- The entries of a table. A date has one, its text. -/
def entries? : Value → Option (List (String × Value))
  | table _ entries => some entries
  | date text => some [(dateKey, string text)]
  | _ => none

def strings? (v : Value) : Option (List String) := do (← v.array?).mapM string?

/-- A table or date of what `read?` reads, in the order it was written. -/
def mapOf? {α : Type} (read? : Value → Option α) (v : Value) : Option (List (String × α)) := do
  (← v.entries?).mapM fun e => (read? e.2).map (e.1, ·)

end Value

/-- The value of a field that may go by several names, or a default when it is missing: `none` if
it is there twice or cannot be read. -/
def field? {α : Type} (names : List String) (read? : Value → Option α) (default : α)
    (entries : List (String × Value)) : Option α :=
  match entries.filter fun e => names.contains e.1 with
  | [] => some default
  | [(_, v)] => read? v
  | _ => none

end ProseLint.Toml
