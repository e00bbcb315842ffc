/-
The style that needs no files: a dozen rules for plain English.
-/
import ProseLint.Rule.Compile

namespace ProseLint.BuiltinStyle

def name : String := "vale"

/-- Abbreviations are written out once. What stands in parentheses after one does that. -/
def abbreviations : RuleRecord where
  kind := some "conditional"
  message := "'%s' has no definition."
  description := "Define abbreviations on first use, e.g. 'HTML (HyperText Markup Language)'."
  level := some "warning"
  scope := some "text"
  antecedent := some "\\b([A-Z]\x7b3,5\x7d) \\((?:[A-Z][A-Za-z]*\\s?)+\\)"
  consequent := some "\\b[A-Z]\x7b3,5\x7d\\b"
  exceptions := ["API", "CSS", "HTTP", "JSON", "PDF", "SQL", "URL", "USB", "XML", "YAML"]

def annotations : RuleRecord where
  kind := some "existence"
  message := "'%s' left in text."
  description := "Editorial annotations should be resolved before publishing."
  level := some "error"
  scope := some "text"
  tokens := ["XXX", "FIXME", "TODO", "NOTE"]

def complexWords : RuleRecord where
  kind := some "substitution"
  message := "Consider using '%s' instead of '%s'."
  description := "Plain words are easier to read."
  level := some "suggestion"
  scope := some "text"
  ignoreCase := true
  swap := [
    ("approximately", "about"),
    ("assistance", "help"),
    ("commence", "begin"),
    ("demonstrate", "show"),
    ("endeavou?r", "try"),
    ("facilitate", "help"),
    ("implement", "carry out"),
    ("in order to", "to"),
    ("initiate", "start"),
    ("numerous", "many"),
    ("obtain", "get"),
    ("prior to", "before"),
    ("purchase", "buy"),
    ("subsequently", "later"),
    ("sufficient", "enough"),
    ("terminate", "end"),
    ("utili[sz]e", "use")]

def editorializing : RuleRecord where
  kind := some "existence"
  message := "Consider removing '%s'."
  description := "Let the facts speak for themselves."
  level := some "warning"
  scope := some "text"
  ignoreCase := true
  tokens := ["actually", "clearly", "fortunately", "importantly", "interestingly", "luckily",
    "obviously", "of course", "remarkably", "surprisingly", "unfortunately"]

def genderBias : RuleRecord where
  kind := some "substitution"
  message := "Consider using '%s' instead of '%s'."
  description := "Prefer gender-neutral terms."
  level := some "error"
  scope := some "text"
  ignoreCase := true
  swap := [
    ("(?:alumna|alumnus)", "graduate"),
    ("(?:chair|spokes)(?:man|woman)", "chair or spokesperson"),
    ("(?:congress|sales)(?:man|woman)", "legislator or salesperson"),
    ("(?:fire|police)(?:man|woman)", "firefighter or police officer"),
    ("mankind", "humanity"),
    ("manpower", "workforce"),
    ("man-made", "artificial"),
    ("(?:steward|stewardess)", "flight attendant")]

def hedging : RuleRecord where
  kind := some "existence"
  message := "Consider removing '%s'."
  description := "Hedging weakens a statement."
  level := some "warning"
  scope := some "text"
  ignoreCase := true
  tokens := ["appear to be", "arguably", "as far as I know", "I believe", "I think",
    "in my opinion", "it seems", "might", "perhaps", "possibly", "probably", "somewhat",
    "to my knowledge"]

def litotes : RuleRecord where
  kind := some "existence"
  message := "Consider rewording '%s'."
  description := "Say what something is rather than what it is not."
  level := some "suggestion"
  scope := some "text"
  ignoreCase := true
  tokens := ["not a bad", "not a few", "not bad", "not dissimilar", "not insignificant",
    "not uncommon", "not unfamiliar", "not unlike", "not unusual", "not without"]

def passiveVoice : RuleRecord where
  kind := some "existence"
  message := "'%s' is passive voice."
  description := "Active voice is usually clearer."
  level := some "suggestion"
  scope := some "text"
  ignoreCase := true
  raw := ["\\b(?:am|are|were|being|is|been|was|be)\\s+"]
  tokens := ["\\w+ed", "begun", "built", "done", "drawn", "found", "given", "known", "made",
    "seen", "shown", "taken", "told", "written"]

def redundancy : RuleRecord where
  kind := some "existence"
  message := "'%s' is redundant."
  description := "Remove the word that repeats the meaning of the other."
  level := some "warning"
  scope := some "text"
  ignoreCase := true
  tokens := ["absolutely essential", "added bonus", "advance planning", "ATM machine",
    "basic fundamentals", "close proximity", "completely finished", "end result", "free gift",
    "future plans", "past history", "PIN number", "revert back", "unexpected surprise"]

def repetition : RuleRecord where
  kind := some "repetition"
  message := "'%s' is repeated!"
  description := "A word appears twice in a row."
  level := some "error"
  scope := some "text"
  tokens := ["[^\\s]+"]

def uncomparables : RuleRecord where
  kind := some "existence"
  message := "'%s' is not comparable."
  description := "Absolute adjectives cannot be qualified."
  level := some "warning"
  scope := some "text"
  ignoreCase := true
  raw := ["\\b(?:most|more|less|least|very|quite|rather|somewhat)\\s+"]
  tokens := ["absolute", "complete", "dead", "entire", "eternal", "fatal", "final", "infinite",
    "perfect", "unique", "universal"]

def wordiness : RuleRecord where
  kind := some "substitution"
  message := "Consider using '%s' instead of '%s'."
  description := "Shorter phrasing says the same thing."
  level := some "suggestion"
  scope := some "text"
  ignoreCase := true
  swap := [
    ("a number of", "some"),
    ("at this point in time", "now"),
    ("due to the fact that", "because"),
    ("for the purpose of", "for"),
    ("has the ability to", "can"),
    ("in spite of the fact that", "although"),
    ("in the event that", "if"),
    ("is able to", "can"),
    ("on a daily basis", "daily"),
    ("with regard to", "about")]

def rules : List (String × RuleRecord) := [
  ("Abbreviations", abbreviations),
  ("Annotations", annotations),
  ("ComplexWords", complexWords),
  ("Editorializing", editorializing),
  ("GenderBias", genderBias),
  ("Hedging", hedging),
  ("Litotes", litotes),
  ("PassiveVoice", passiveVoice),
  ("Redundancy", redundancy),
  ("Repetition", repetition),
  ("Uncomparables", uncomparables),
  ("Wordiness", wordiness)]

def check (rule : String) (record : RuleRecord) : Except RuleError Check :=
  match CheckName.new? name rule with
  | none => .error (.invalidDefinition (.badName rule))
  | some n =>
    match Definition.ofRecord n record with
    | .error fault => .error fault
    | .ok d => d.compile none .empty

def checks : List (String × Except RuleError Check) := rules.map fun r => (r.1, check r.1 r.2)

end ProseLint.BuiltinStyle
