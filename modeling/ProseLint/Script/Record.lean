/-
What scripts report. A script prints a JSON array of records, each an object or an array of its
fields in order. A record has to have a span; what else it leaves out is up to the check.
-/
import ProseLint.Alert.Json
import ProseLint.Check.Basic
import ProseLint.Text.Utf8

namespace ProseLint

open Text (Span)

structure ScriptRecord where
  check : Option String
  severity : Option String
  span : Span
  message : String
  description : String
  link : Option String
  deriving DecidableEq, Repr

namespace ScriptRecord

open Json

/-- A record from the entries of an object. A key may start with a capital, and keys that are not
known are passed over. -/
def ofEntries? (entries : List (Option String × Json)) : Option ScriptRecord :=
  if entries.all (·.1.isSome) then do
    return {
      check := ← defaulted? ["check", "Check"] entries none optionalText?
      severity := ← defaulted? ["severity", "Severity"] entries none optionalText?
      span := ← required? ["span", "Span"] entries Span.ofJson?
      message := ← defaulted? ["message", "Message"] entries "" text?
      description := ← defaulted? ["description", "Description"] entries "" text?
      link := ← defaulted? ["link", "Link"] entries none optionalText? }
  else none

/-- The value of an item that an array may end before. -/
def item? {α : Type} (default : α) (read? : Json → Option α) : List Json → Option α
  | [] => some default
  | v :: _ => read? v

def ofItems? : List Json → Option ScriptRecord
  | check :: severity :: span :: more =>
    if more.length ≤ 3 then do
      return {
        check := ← optionalText? check
        severity := ← optionalText? severity
        span := ← Span.ofJson? span
        message := ← item? "" text? more
        description := ← item? "" text? (more.drop 1)
        link := ← item? none optionalText? (more.drop 2) }
    else none
  | _ => none

def ofJson? : Json → Option ScriptRecord
  | object entries => ofEntries? entries
  | array items => ofItems? items
  | _ => none

def ofOutput? (output : List UInt8) : Option (List ScriptRecord) :=
  match Json.read? (Text.decode output) with
  | some (array items) => items.mapM ofJson?
  | _ => none

/-- The alert of a record in a text of so many bytes, unless its span is not one of that text. What
the record leaves out is as the check has it. -/
def toAlert? (r : ScriptRecord) (c : Check) (textBytes : Nat) : Option Alert :=
  if r.span.start ≤ r.span.stop ∧ r.span.stop ≤ textBytes then
    some {
      check := r.check.getD c.name.full
      severity := (r.severity.bind Severity.ofName?).getD c.severity
      span := r.span
      message := r.message
      description := r.description
      link := r.link <|> c.link }
  else none

end ScriptRecord

end ProseLint
