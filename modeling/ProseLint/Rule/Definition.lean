/-
Definitions of rules. A rule is written in TOML as one flat record; what kind of rule it is decides
which of its fields count. `RuleKind.ofRecord` says what each kind needs.
-/
import ProseLint.Files.Snapshot
import ProseLint.Rule.Error
import ProseLint.Severity
import ProseLint.Toml.Document

namespace ProseLint

/-- A rule as it is written: every field that some kind of rule has. -/
structure RuleRecord where
  kind : Option String := none
  message : String := ""
  description : String := ""
  level : Option String := none
  scope : Option String := none
  link : Option String := none
  ignoreCase : Bool := false
  nonword : Bool := false
  negate : Bool := false
  tokens : List String := []
  raw : List String := []
  swap : List (String × String) := []
  max : Nat := 0
  antecedent : Option String := none
  consequent : Option String := none
  exe : Option String := none
  runtime : Option String := none
  exceptions : List String := []
  deriving DecidableEq, Repr

namespace RuleRecord

open Toml

def present? (v : Value) : Option (Option String) := v.string?.map some

/-- The record in the entries of a table. Keys it does not know are passed over. -/
def ofEntries? (entries : List (String × Value)) : Option RuleRecord := do
  return {
    kind := ← field? ["extends", "type"] present? none entries
    message := ← field? ["message"] Value.string? "" entries
    description := ← field? ["description"] Value.string? "" entries
    level := ← field? ["level"] present? none entries
    scope := ← field? ["scope"] present? none entries
    link := ← field? ["link"] present? none entries
    ignoreCase := ← field? ["ignorecase"] Value.boolean? false entries
    nonword := ← field? ["nonword"] Value.boolean? false entries
    negate := ← field? ["negate"] Value.boolean? false entries
    tokens := ← field? ["tokens"] Value.strings? [] entries
    raw := ← field? ["raw"] Value.strings? [] entries
    swap := ← field? ["swap", "map"] (Value.mapOf? Value.string?) [] entries
    max := ← field? ["max"] Value.nat? 0 entries
    antecedent := ← field? ["if"] present? none entries
    consequent := ← field? ["then"] present? none entries
    exe := ← field? ["exe"] present? none entries
    runtime := ← field? ["runtime"] present? none entries
    exceptions := ← field? ["exceptions"] Value.strings? [] entries }

def ofToml? (text : String) : Option RuleRecord := do ofEntries? (← readEntries? text)

end RuleRecord

inductive RuleKind where
  | existence (tokens raw : List String) (nonword : Bool)
  | occurrence (token : String) (max : Nat)
  | repetition (tokens : List String) (max : Nat)
  | substitution (swap : List (String × String)) (nonword : Bool)
  | consistency (pairs : List (String × String)) (nonword : Bool)
  | conditional (antecedent consequent : String) (exceptions : List String)
  | script (exe runtime : String)
  | unknown (name : String)
  deriving DecidableEq, Repr

namespace RuleKind

def name : RuleKind → String
  | existence .. => "existence"
  | occurrence .. => "occurrence"
  | repetition .. => "repetition"
  | substitution .. => "substitution"
  | consistency .. => "consistency"
  | conditional .. => "conditional"
  | script .. => "script"
  | unknown name => name

/-- The kind a record extends, with the fields that count for it, or what it lacks. -/
def ofRecord (r : RuleRecord) : Except Lack RuleKind :=
  match r.kind with
  | none => .error .kind
  | some "existence" =>
    if r.tokens.isEmpty && r.raw.isEmpty then .error .tokensOrRaw
    else .ok (.existence r.tokens r.raw r.nonword)
  | some "occurrence" =>
    match r.tokens with
    | [] => .error .token
    | token :: _ => if r.max < 1 then .error .positiveMax else .ok (.occurrence token r.max)
  | some "repetition" =>
    if r.tokens.isEmpty then .error .tokens else .ok (.repetition r.tokens r.max)
  | some "substitution" =>
    if r.swap.isEmpty then .error (.swap "substitution") else .ok (.substitution r.swap r.nonword)
  | some "consistency" =>
    if r.swap.isEmpty then .error (.swap "consistency") else .ok (.consistency r.swap r.nonword)
  | some "conditional" =>
    match r.antecedent, r.consequent with
    | some antecedent, some consequent => .ok (.conditional antecedent consequent r.exceptions)
    | _, _ => .error .ifAndThen
  | some "script" =>
    match r.exe, r.runtime with
    | some exe, some runtime => .ok (.script exe runtime)
    | _, _ => .error .exeAndRuntime
  | some other => .ok (.unknown other)

end RuleKind

/-- A rule that has been read, with its defaults filled in. -/
structure Definition where
  name : CheckName
  message : String
  description : String
  severity : Severity
  scope : String
  link : Option String
  ignoreCase : Bool
  negate : Bool
  kind : RuleKind
  deriving DecidableEq, Repr

namespace Definition

/-- The part of a document that a rule without a scope is about. -/
def defaultScope : String := "text"

/-- A text that counts as missing when it is empty. -/
def unlessEmpty (text : Option String) : Option String := text.filter (· ≠ "")

/-- The definition of a check by a record. A level that is none counts as the lowest. -/
def ofRecord (name : CheckName) (r : RuleRecord) : Except RuleError Definition :=
  match RuleKind.ofRecord r with
  | .error lack => .error (.invalidDefinition (.lacks name lack))
  | .ok kind => .ok {
      name
      message := r.message
      description := r.description
      severity := (r.level.bind Severity.ofName?).getD .suggestion
      scope := (unlessEmpty r.scope).getD defaultScope
      link := unlessEmpty r.link
      ignoreCase := r.ignoreCase
      negate := r.negate
      kind }

def ofToml (name : CheckName) (text : String) : Except RuleError Definition :=
  match RuleRecord.ofToml? text with
  | none => .error (.invalidDefinition (.lacks name .syntaxOfToml))
  | some r => ofRecord name r

def ofFile (fs : Files) (name : CheckName) (path : String) : Except RuleError Definition :=
  match fs.readText path with
  | .error fault => .error (.unreadable path fault)
  | .ok text => ofToml name text

end Definition

end ProseLint
