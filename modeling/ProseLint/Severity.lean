/-
How much a finding matters. Severities have names, and ranks that order them.
-/
namespace ProseLint

inductive Severity where
  | suggestion
  | warning
  | error
  deriving DecidableEq, Repr, Inhabited

namespace Severity

def name : Severity → String
  | suggestion => "suggestion"
  | warning => "warning"
  | error => "error"

def ofName? : String → Option Severity
  | "suggestion" => some suggestion
  | "warning" => some warning
  | "error" => some error
  | _ => none

def rank : Severity → Nat
  | suggestion => 0
  | warning => 1
  | error => 2

@[simp] theorem ofName?_name (s : Severity) : ofName? s.name = some s := by cases s <;> rfl

end Severity

end ProseLint
