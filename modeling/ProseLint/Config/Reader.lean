/-
Reading configurations from TOML. What is read is also validated: `Config.fault?` is the first fault
of a configuration.
-/
import ProseLint.CheckName
import ProseLint.Config.Basic
import ProseLint.Config.Error
import ProseLint.Files.Snapshot
import ProseLint.Pattern.Reader
import ProseLint.Toml.Document

namespace ProseLint.Config

open Toml

def ofEntries? (entries : List (String × Value)) : Option Config := do
  return {
    stylesPath := ← field? ["styles_path"] (·.string?.map some) none entries
    basedOnStyles := ← field? ["based_on_styles"] Value.strings? [] entries
    formatStyles := .ofList (← field? ["format_styles"] (Value.mapOf? Value.strings?) [] entries)
    checks := ← field? ["checks"] Value.strings? [] entries
    ignorePatterns := .ofList (← field? ["ignore_patterns"] (Value.mapOf? Value.string?) [] entries)
    scriptTimeout := ← field? ["script_timeout_ms"] Value.nat? 5000 entries }

/-- The first fault of a configuration: in its timeout, its patterns or its checks. -/
def fault? (c : Config) : Option ValueFault :=
  if c.scriptTimeout = 0 then some .noTimeout
  else
    match c.ignorePatterns.entries.find? fun e => (Pattern.ofText? e.2).isNone with
    | some e => some (.badPattern e.1)
    | none => (c.checks.find? fun name => (CheckName.parse? name).isNone).map .badCheckName

def parse (text : String) : Except ConfigError Config :=
  match (readEntries? text).bind ofEntries? with
  | none => .error (.invalidSyntax "not the TOML of a configuration")
  | some c =>
    match c.fault? with
    | some fault => .error (.invalidValue fault)
    | none => .ok c

def load (fs : Files) (path : String) : Except ConfigError Config :=
  match fs.readText path with
  | .error fault => .error (.unreadable fault)
  | .ok text => parse text

end ProseLint.Config
