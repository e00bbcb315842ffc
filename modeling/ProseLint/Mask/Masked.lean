/-
Masked texts: a text and its masked copy, in which every byte of some ranges is an asterisk. The copy
has the length of the text (`byteLength_cover`), so that offsets in one are offsets in the other.
-/
import ProseLint.Mask.Spans
import ProseLint.Text.Bytes

namespace ProseLint

open Text (Span)

def filler : Char := '*'

/-- A text from `offset` on with fillers for the characters inside ordered ranges. -/
def cover : (ranges : List Span) → (offset : Nat) → List Char → List Char
  | _, _, [] => []
  | ranges, offset, c :: cs =>
    let ahead := ranges.dropWhile (·.stop ≤ offset)
    let shown := if ahead.head?.any (·.start ≤ offset) then List.replicate c.utf8Size filler else [c]
    shown ++ cover ahead (offset + c.utf8Size) cs

theorem byteLength_replicate_filler (n : Nat) :
    Text.byteLength (List.replicate n filler) = n := by
  induction n with
  | zero => rfl
  | succ n ih =>
    rw [List.replicate_succ, Text.byteLength_cons, ih]
    have h : filler.utf8Size = 1 := rfl
    omega

/-- **A covered text has the length of the text.** -/
theorem byteLength_cover (ranges : List Span) (offset : Nat) (cs : List Char) :
    Text.byteLength (cover ranges offset cs) = Text.byteLength cs := by
  induction cs generalizing ranges offset with
  | nil => simp [cover]
  | cons c cs ih =>
    simp only [cover, Text.byteLength_append, ih, Text.byteLength_cons]
    split
    · rw [byteLength_replicate_filler]
    · simp

/-- Halves the stretch from `lo` up to `hi` of a list that has the items with `p` first, until nothing
is left of it where they end. -/
def bisect {α : Type} (p : α → Bool) (xs : List α) (lo hi : Nat) (h : hi ≤ xs.length) : Nat :=
  if hlt : lo < hi then
    let mid := lo + (hi - lo) / 2
    have hmid : mid < hi := by omega
    if p xs[mid] then bisect p xs (mid + 1) hi h else bisect p xs lo mid (by omega)
  else lo
termination_by hi - lo

/-- How many items of a list that has the items with `p` first are such items. -/
def partitionPoint {α : Type} (p : α → Bool) (xs : List α) : Nat :=
  bisect p xs 0 xs.length (Nat.le_refl _)

/-- A text with its masked copy. The ranges are in order and stand apart. -/
structure Masked where
  text : List Char
  copy : List Char
  ranges : List Span
  deriving DecidableEq, Repr

namespace Masked

def unmasked (text : List Char) : Masked := ⟨text, text, []⟩

/-- A text masked in ranges that are in order and stand apart. -/
def ofRanges (text : List Char) (ranges : List Span) : Masked :=
  ⟨text, cover ranges 0 text, ranges⟩

/-- Whether a span meets a masked range. The first range that ends after its start decides. -/
def isMasked (t : Masked) (s : Span) : Bool :=
  match t.ranges[partitionPoint (·.stop ≤ s.start) t.ranges]? with
  | some r => r.start < s.stop
  | none => false

/-- What a span holds: of the text, or else of the copy, where the span cuts no character. -/
def slice (t : Masked) (s : Span) : List Char :=
  match Text.slice? t.text s with
  | some cs => cs
  | none => (Text.slice? t.copy s).getD []

end Masked

end ProseLint
