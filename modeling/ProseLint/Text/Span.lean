/-
Spans of a text: half-open ranges of byte offsets.
-/
namespace ProseLint.Text

/-- The bytes from `start` up to and without `stop`. -/
structure Span where
  start : Nat
  stop : Nat
  deriving DecidableEq, Repr, Inhabited

namespace Span

/-- The number of bytes, zero when the ends stand the wrong way round. -/
def length (s : Span) : Nat := s.stop - s.start

def isEmpty (s : Span) : Bool := s.stop ≤ s.start

theorem isEmpty_iff_length {s : Span} : s.isEmpty = true ↔ s.length = 0 := by
  simp [isEmpty, length, Nat.sub_eq_zero_iff_le]

end Span

end ProseLint.Text
