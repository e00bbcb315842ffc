/-
Running scripts. A runner answers a call with what the script prints or with the reason why it does
not; a host has a runner and the time that each call may take.
-/
import ProseLint.Script.Error
import ProseLint.Script.Record

namespace ProseLint

structure ScriptCall where
  runtime : String
  path : String
  text : String
  /-- in milliseconds -/
  timeout : Nat
  deriving DecidableEq, Repr

abbrev ScriptRunner := ScriptCall → Except ScriptError (List UInt8)

structure ScriptHost where
  runner : ScriptRunner
  timeout : Nat

namespace ScriptHost

def execute (h : ScriptHost) (runtime path text : String) :
    Except ScriptError (List ScriptRecord) :=
  match h.runner ⟨runtime, path, text, h.timeout⟩ with
  | .error fault => .error fault
  | .ok output =>
    match ScriptRecord.ofOutput? output with
    | some records => .ok records
    | none => .error .malformedOutput

end ScriptHost

end ProseLint
