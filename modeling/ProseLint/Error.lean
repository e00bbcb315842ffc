/-
All that can go wrong, with a word before each message for the part it is about.
-/
import ProseLint.Config.Error
import ProseLint.Rule.Error
import ProseLint.Script.Error

namespace ProseLint

inductive LintError where
  | config (fault : ConfigError)
  | rule (fault : RuleError)
  | script (fault : ScriptError)
  deriving DecidableEq, Repr

namespace LintError

def message : LintError → String
  | config fault => "Configuration error: " ++ fault.message
  | rule fault => "Rule error: " ++ fault.message
  | script fault => "Script error: " ++ fault.message

end LintError

end ProseLint
