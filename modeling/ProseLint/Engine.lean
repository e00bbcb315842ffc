/-
Engines: checks, what they do not look at, and what runs their scripts. An engine runs its checks on
a document in the order they were registered, with one context for all of them.
-/
import ProseLint.Check.Run
import ProseLint.Config.Basic
import ProseLint.Mask.Masker
import ProseLint.Registry

namespace ProseLint

structure Document where
  text : List Char
  format : String
  deriving DecidableEq, Repr

structure Engine where
  registry : Registry
  masker : Masker
  host : ScriptHost

namespace Masker

def ofConfig (c : Config) : Masker := plain.addAll c.ignorePatterns.entries

end Masker

namespace Engine

def ofConfig (registry : Registry) (c : Config) (runner : ScriptRunner) : Engine :=
  ⟨registry, .ofConfig c, ⟨runner, c.scriptTimeout⟩⟩

/-- What checks find in a text, one after another on one context: the alerts of each, and the context
after the last. -/
def runChecks (host : ScriptHost) (t : Masked) : Context → List Check → List (List Alert) × Context
  | ctx, [] => ([], ctx)
  | ctx, c :: cs =>
    let (alerts, ctx) := c.run t ctx host
    let (more, ctx) := runChecks host t ctx cs
    (alerts :: more, ctx)

def checkWith (e : Engine) (active : Check → Bool) (d : Document) : List Alert :=
  (runChecks e.host (e.masker.mask d.text d.format) (.fresh d.format)
    (e.registry.checks.filter active)).1.flatten

def check (e : Engine) (d : Document) : List Alert := e.checkWith (fun _ => true) d

def calls (e : Engine) (active : Check → Bool) (d : Document) : List ScriptCall :=
  (e.registry.checks.filter active).filterMap fun c =>
    match c.matcher with
    | .script runtime path => some ⟨runtime, path, String.ofList d.text, e.host.timeout⟩
    | _ => none

structure Report where
  alerts : List (List Alert)
  documents : Nat
  checks : Nat
  deriving DecidableEq, Repr

def execute (e : Engine) (ds : List Document) : Report :=
  ⟨ds.map e.check, ds.length, e.registry.size⟩

end Engine

end ProseLint
