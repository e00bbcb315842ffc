/-
JSON values, as far as records are read from them.
-/
namespace ProseLint

/-- A JSON value. A number has a value here if it is a natural number of 64 bits, and a text if its
escapes and bytes spell characters. -/
inductive Json where
  | null
  | bool (b : Bool)
  | number (n : Option Nat)
  | text (s : Option String)
  | array (items : List Json)
  | object (entries : List (Option String × Json))

namespace Json

def text? : Json → Option String
  | text s => s
  | _ => none

def nat? : Json → Option Nat
  | number n => n
  | _ => none

/-- The value under a key that may go by several names: `none` if it is there twice. -/
def field? (names : List String) (entries : List (Option String × Json)) : Option (Option Json) :=
  match entries.filter fun e => e.1.any names.contains with
  | [] => some none
  | [(_, v)] => some (some v)
  | _ => none

end Json

end ProseLint
