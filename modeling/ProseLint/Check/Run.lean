/-
Running a check on a masked text. Checks with patterns look at the masked copy; a script is given the
text itself, and finds nothing when it fails.
-/
import ProseLint.Check.Counting
import ProseLint.Check.Noting
import ProseLint.Script.Host

namespace ProseLint.Check

def script (c : Check) (runtime path : String) (t : Masked) (host : ScriptHost) : List Alert :=
  match host.execute runtime path (String.ofList t.text) with
  | .ok records => records.filterMap (·.toAlert? c (Text.byteLength t.text))
  | .error _ => []

def run (c : Check) (t : Masked) (ctx : Context) (host : ScriptHost) : List Alert × Context :=
  match c.matcher with
  | .existence p => (c.existence p t, ctx)
  | .occurrence p max => (c.occurrence p max t, ctx)
  | .repetition p max => (c.repetition p max t, ctx)
  | .substitution p replacements => (c.substitution p replacements t, ctx)
  | .consistency p pairs => c.consistency p pairs t ctx
  | .conditional antecedent consequent exceptions =>
    c.conditional antecedent consequent exceptions t ctx
  | .script runtime path => (c.script runtime path t host, ctx)

end ProseLint.Check
