/-
What keeps a rule from being a check once it has a name. Whatever goes wrong on the way from its file to a
check is a fault of the file, the record, a pattern or the script (`RuleError.Concerns`), and where the fault
says whose it is, it says the name of the rule (`Loader.concerns_of_checkOfFile`).
-/
import ProseLint.Proofs.Style.Accounting

namespace ProseLint

namespace Definition

variable {d : Definition} {stylesPath : Option String} {fs : Files} {fault : RuleError} {path : String}

end Definition

end ProseLint
