/-
Reasons why a script gives no findings. Each has one message.
-/
import ProseLint.Files.Fault

namespace ProseLint

inductive ScriptError where
  | notStarted (command : String) (fault : AccessFault)
  | failed (status : Option Int) (complaint : String)
  | timedOut (milliseconds : Nat)
  | malformedOutput
  | interrupted (fault : AccessFault)
  deriving DecidableEq, Repr

namespace ScriptError

/-- A status, if the program ended by itself. -/
def statusText : Option Int → String
  | none => "None"
  | some status => "Some(" ++ toString status ++ ")"

def message : ScriptError → String
  | notStarted command fault => "Failed to spawn '" ++ command ++ "': " ++ fault.message
  | failed status complaint =>
    "Script exited with status " ++ statusText status ++ ": " ++ complaint
  | timedOut milliseconds => "Script timed out after " ++ toString milliseconds ++ " ms"
  | malformedOutput => "Malformed script output"
  | interrupted fault => "I/O error: " ++ fault.message

end ScriptError

end ProseLint
