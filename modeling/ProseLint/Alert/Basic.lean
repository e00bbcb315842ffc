/-
Alerts: what a check has found, and where.
-/
import ProseLint.Severity
import ProseLint.Text.Span

namespace ProseLint

open Text (Span)

/-- A finding of a check. A script may give another name than that of its check, so the name is any
text. -/
structure Alert where
  check : String
  severity : Severity
  span : Span
  message : String
  description : String
  link : Option String
  deriving DecidableEq, Repr

end ProseLint
