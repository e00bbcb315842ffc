/-
Making checks of definitions. The patterns of a rule are joined to one pattern, which has to be
well-formed; `Definition.compile` says how for each kind.
-/
import ProseLint.Check.Basic
import ProseLint.Files.Snapshot
import ProseLint.Rule.Definition

namespace ProseLint

namespace Rule

def ignoreCaseSwitch : String := "(?i)"

def scriptsDirectory : String := "scripts"

/-- Alternatives as one piece of a pattern, which only matches whole words unless `nonword`. -/
def wrap (alternatives : String) (nonword : Bool) : String :=
  if nonword then "(?:" ++ alternatives ++ ")" else "\\b(?:" ++ alternatives ++ ")\\b"

def alternatives (patterns : List String) : String := "|".intercalate patterns

/-- A character that the name of a group may have, or an underscore. -/
def keyChar (c : Char) : Char := if c.isAlpha || Text.isDigit c then c else '_'

/-- What the names of the groups of a check start with. It is made of letters, digits and
underscores, does not start with a digit and ends in an underscore. -/
def groupKey (name : CheckName) : String :=
  let key := name.full.toList.map keyChar
  let lead := if key.head?.any Text.isDigit then ['_'] else []
  String.ofList (lead ++ key ++ ['_'])

def groupName (name : CheckName) (index : Nat) : String := groupKey name ++ toString index

def namedGroup (name pattern : String) : String := "(?P<" ++ name ++ ">" ++ pattern ++ ")"

def pairNames (name : CheckName) (index : Nat) : List (String × String) → List (String × String)
  | [] => []
  | _ :: pairs =>
    (groupName name (2 * index), groupName name (2 * index + 1)) :: pairNames name (index + 1) pairs

def pairGroups (names pairs : List (String × String)) : List String :=
  (names.zip pairs).flatMap fun (n, p) => [namedGroup n.1 p.1, namedGroup n.2 p.2]

/-- Whether a pattern can be put into a group without changing the numbers of others. -/
def isUsable (pattern : String) : Bool := (Pattern.ofText? pattern).any (·.groupCount = 0)

def usable (swap : List (String × String)) : List (String × String) :=
  swap.filter (isUsable ·.1)

def pattern (name : CheckName) (source : String) : Except RuleError Pattern :=
  match Pattern.ofText? source with
  | some p => .ok p
  | none => .error (.invalidPattern (.unreadable name source))

end Rule

namespace Definition

open Rule

def lacking {α : Type} (d : Definition) (lack : Lack) : Except RuleError α :=
  .error (.invalidDefinition (.lacks d.name lack))

def switch (d : Definition) : String := if d.ignoreCase then ignoreCaseSwitch else ""

/-- The pattern of an existence rule: the raw pieces one after another, then one of the tokens. -/
def existenceSource (d : Definition) (tokens raw : List String) (nonword : Bool) : String :=
  d.switch ++ String.join raw ++ wrap (alternatives tokens) (nonword || tokens.isEmpty)

def repetitionSource (d : Definition) (tokens : List String) : String :=
  d.switch ++ "(" ++ alternatives tokens ++ ")"

def substitutionSource (d : Definition) (swap : List (String × String)) (nonword : Bool) : String :=
  d.switch ++ wrap (alternatives (swap.map fun e => "(" ++ e.1 ++ ")")) nonword

def consistencySource (d : Definition) (pairs : List (String × String)) (nonword : Bool) : String :=
  d.switch ++ wrap (alternatives (pairGroups (pairNames d.name 0 pairs) pairs)) nonword

/-- The matcher of a conditional rule. What is defined has to be captured. -/
def conditionalMatcher (d : Definition) (antecedent consequent : String)
    (exceptions : List String) : Except RuleError Matcher := do
  let antecedent ← pattern d.name (d.switch ++ antecedent)
  if antecedent.groupCount = 0 then d.lacking .captureGroup
  else
    let consequent ← pattern d.name (d.switch ++ consequent)
    return .conditional antecedent consequent exceptions

def scriptPath (stylesPath style exe : String) : String :=
  Path.join (Path.join (Path.join stylesPath style) scriptsDirectory) exe

/-- The matcher of a script rule. The script has to be there. -/
def scriptMatcher (d : Definition) (stylesPath : Option String) (fs : Files)
    (exe runtime : String) : Except RuleError Matcher :=
  match stylesPath with
  | none => d.lacking .stylesPath
  | some base =>
    let path := scriptPath base d.name.style exe
    if fs.isFile path then .ok (.script runtime path) else .error (.missingScript path)

def matcher (d : Definition) (stylesPath : Option String) (fs : Files) : Except RuleError Matcher :=
  match d.kind with
  | .existence tokens raw nonword =>
    (pattern d.name (d.existenceSource tokens raw nonword)).map .existence
  | .occurrence token max => (pattern d.name (d.switch ++ token)).map (.occurrence · max)
  | .repetition tokens max => (pattern d.name (d.repetitionSource tokens)).map (.repetition · max)
  | .substitution swap nonword =>
    match usable swap with
    | [] => d.lacking .usableSwap
    | swap =>
      (pattern d.name (d.substitutionSource swap nonword)).map (.substitution · (swap.map (·.2)))
  | .consistency pairs nonword =>
    (pattern d.name (d.consistencySource pairs nonword)).map
      (.consistency · (pairNames d.name 0 pairs))
  | .conditional antecedent consequent exceptions =>
    d.conditionalMatcher antecedent consequent exceptions
  | .script exe runtime => d.scriptMatcher stylesPath fs exe runtime
  | .unknown name => .error (.unsupportedKind name)

def compile (d : Definition) (stylesPath : Option String) (fs : Files) : Except RuleError Check :=
  (d.matcher stylesPath fs).map fun matcher => {
    name := d.name
    severity := d.severity
    scope := d.scope
    message := d.message
    description := d.description
    link := d.link
    matcher }

end Definition

end ProseLint
