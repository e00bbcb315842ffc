/-
Configurations: which styles and checks are used, what is masked, and how long scripts may run.
-/
import ProseLint.Config.ByFormat

namespace ProseLint

structure Config where
  stylesPath : Option String := none
  basedOnStyles : List String := []
  formatStyles : ByFormat (List String) := .empty
  checks : List String := []
  ignorePatterns : ByFormat String := .empty
  /-- in milliseconds -/
  scriptTimeout : Nat := 5000

end ProseLint
