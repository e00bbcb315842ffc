/-
Spans in the order of a text. `Span.sort` puts spans in order, `Span.unite` joins those of them that
overlap or touch. `sort_pairwise`: sorted spans start where the one before them does or later.
-/
import ProseLint.Text.Span

namespace ProseLint.Text.Span

/-- Whether a span starts before another, or ends first if they start together. -/
def comesBefore (a b : Span) : Bool := a.start < b.start || (a.start = b.start && a.stop ≤ b.stop)

def sort (spans : List Span) : List Span := spans.mergeSort comesBefore

/-- Joins ordered spans to one that starts no later. -/
def uniteFrom (s : Span) : List Span → List Span
  | [] => [s]
  | t :: ts =>
    if t.start ≤ s.stop then uniteFrom ⟨s.start, max s.stop t.stop⟩ ts else s :: uniteFrom t ts

/-- What ordered spans cover, in spans that stand apart. -/
def unite : List Span → List Span
  | [] => []
  | s :: ts => uniteFrom s ts

@[simp] theorem mem_sort {r : Span} {spans : List Span} : r ∈ sort spans ↔ r ∈ spans :=
  List.mem_mergeSort

theorem comesBefore_iff {a b : Span} :
    a.comesBefore b = true ↔ a.start < b.start ∨ a.start = b.start ∧ a.stop ≤ b.stop := by
  simp [comesBefore]

/-- **Sorted spans start in order.** -/
theorem sort_pairwise (spans : List Span) :
    (sort spans).Pairwise fun a b => a.start ≤ b.start := by
  have h := @List.pairwise_mergeSort Span comesBefore
    (fun a b c hab hbc => by simp only [comesBefore_iff] at hab hbc ⊢; omega)
    (fun a b => by simp only [Bool.or_eq_true, comesBefore_iff]; omega) spans
  exact h.imp fun hab => by rw [comesBefore_iff] at hab; omega

end ProseLint.Text.Span
