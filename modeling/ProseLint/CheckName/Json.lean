/-
Names of checks in JSON. A name is the text that it is written as, and is read from a text that is a name.
-/
import ProseLint.CheckName
import ProseLint.Json.Value
import ProseLint.Json.Writer

namespace ProseLint.CheckName

open Json

def toJson (n : CheckName) : List Char := writeText n.full

def ofJson? (v : Json) : Option CheckName := v.text?.bind parse?

end ProseLint.CheckName
