/-
Checks: rules that are ready to run. A check has a matcher, which looks for something in a text, and
what to say where it is found.
-/
import ProseLint.Alert.Basic
import ProseLint.Check.Template
import ProseLint.CheckName
import ProseLint.Pattern.Reader

namespace ProseLint

open Text (Span)

inductive Matcher where
  | existence (pattern : Pattern)
  | occurrence (pattern : Pattern) (max : Nat)
  | repetition (pattern : Pattern) (max : Nat)
  /-- the replacements belong to the groups of the pattern, in order -/
  | substitution (pattern : Pattern) (replacements : List String)
  /-- the pairs are names of groups of the pattern -/
  | consistency (pattern : Pattern) (pairs : List (String × String))
  | conditional (antecedent consequent : Pattern) (exceptions : List String)
  | script (runtime path : String)
  deriving DecidableEq, Repr

namespace Matcher

def kindName : Matcher → String
  | existence .. => "existence"
  | occurrence .. => "occurrence"
  | repetition .. => "repetition"
  | substitution .. => "substitution"
  | consistency .. => "consistency"
  | conditional .. => "conditional"
  | script .. => "script"

end Matcher

/-- A rule that is ready to run. -/
structure Check where
  name : CheckName
  severity : Severity
  scope : String
  message : String
  description : String
  link : Option String
  matcher : Matcher
  deriving DecidableEq, Repr

namespace Check

def level (c : Check) : Nat := c.severity.rank

def alert (c : Check) (s : Span) (args : List (List Char)) : Alert where
  check := c.name.full
  severity := c.severity
  span := s
  message := Template.fill c.message args
  description := Template.fill c.description args
  link := c.link

end Check

end ProseLint
