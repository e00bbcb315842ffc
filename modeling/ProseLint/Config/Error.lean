/-
Reasons why a configuration is refused. Each has one message.
-/
import ProseLint.Files.Fault

namespace ProseLint

inductive ValueFault where
  | noTimeout
  | badPattern (format : String)
  | badCheckName (name : String)
  | stated (field text : String)
  deriving DecidableEq, Repr

namespace ValueFault

def field : ValueFault → String
  | noTimeout => "script_timeout_ms"
  | badPattern format => "ignore_patterns." ++ format
  | badCheckName _ => "checks"
  | stated field _ => field

def message : ValueFault → String
  | noTimeout => "must be greater than zero"
  | badPattern _ => "not a pattern"
  | badCheckName name => "'" ++ name ++ "' is not a qualified check name (style.rule)"
  | stated _ text => text

end ValueFault

inductive ConfigError where
  | invalidSyntax (text : String)
  | invalidValue (fault : ValueFault)
  | unreadable (fault : AccessFault)
  deriving DecidableEq, Repr

namespace ConfigError

def message : ConfigError → String
  | invalidSyntax text => "Invalid configuration syntax: " ++ text
  | invalidValue fault => "Invalid value for " ++ fault.field ++ ": " ++ fault.message
  | unreadable fault => "Failed to read configuration: " ++ fault.message

end ConfigError

end ProseLint
