/-
Alerts in JSON. An alert is written as an object, its span as an array of two numbers and its link
only if it has one. It is read from such an object or from an array of its fields in order.
-/
import ProseLint.Alert.Basic
import ProseLint.Json.Reader
import ProseLint.Json.Writer

namespace ProseLint

open Text (Span)
open Json

namespace Severity

def toJson (s : Severity) : List Char := writeText s.name

/-- A severity is read from its name, or from an object that has its name for a key and nothing for
a value. -/
def ofJson? : Json → Option Severity
  | text s => s.bind ofName?
  | object [(some key, null)] => ofName? key
  | _ => none

end Severity

namespace Text.Span

def toJson (s : Span) : List Char := writeArray [writeNat s.start, writeNat s.stop]

def ofJson? : Json → Option Span
  | array [start, stop] => do return ⟨← start.nat?, ← stop.nat?⟩
  | _ => none

end Text.Span

namespace Json

def optionalText? : Json → Option (Option String)
  | null => some none
  | v => v.text?.map some

def required? {α : Type} (names : List String) (entries : List (Option String × Json))
    (read? : Json → Option α) : Option α := do
  read? (← ← field? names entries)

def defaulted? {α : Type} (names : List String) (entries : List (Option String × Json))
    (default : α) (read? : Json → Option α) : Option α := do
  match ← field? names entries with
  | none => return default
  | some v => read? v

end Json

namespace Alert

def toJson (a : Alert) : List Char :=
  writeObject <|
    [("check", writeText a.check),
     ("severity", a.severity.toJson),
     ("span", a.span.toJson),
     ("message", writeText a.message),
     ("description", writeText a.description)] ++
    (match a.link with
      | none => []
      | some link => [("link", writeText link)])

def ofItems? (check severity span message description : Json) (link : Option String) :
    Option Alert := do
  return {
    check := ← check.text?
    severity := ← Severity.ofJson? severity
    span := ← Span.ofJson? span
    message := ← message.text?
    description := ← description.text?
    link }

/-- An alert from the entries of an object. Keys it does not know are passed over. -/
def ofEntries? (entries : List (Option String × Json)) : Option Alert :=
  if entries.all (·.1.isSome) then do
    return {
      check := ← required? ["check"] entries text?
      severity := ← required? ["severity"] entries Severity.ofJson?
      span := ← required? ["span"] entries Span.ofJson?
      message := ← required? ["message"] entries text?
      description := ← required? ["description"] entries text?
      link := ← defaulted? ["link"] entries none optionalText? }
  else none

def ofJson? : Json → Option Alert
  | object entries => ofEntries? entries
  | array [check, severity, span, message, description] =>
    ofItems? check severity span message description none
  | array [check, severity, span, message, description, link] => do
    ofItems? check severity span message description (← optionalText? link)
  | _ => none

end Alert

end ProseLint
