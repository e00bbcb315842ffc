/-
What `Span.unite` makes of spans in order: spans that stand apart (`unite_apart`), hold what the given
ones hold (`holds_unite`), and start and stop where some of the given ones do (`ends_unite`).
-/
import ProseLint.Mask.Spans

namespace ProseLint.Text.Span

def Holds (s : Span) (i : Nat) : Prop := s.start ≤ i ∧ i < s.stop

instance (s : Span) (i : Nat) : Decidable (s.Holds i) := inferInstanceAs (Decidable (_ ∧ _))

/-- Spans that start in order. -/
def Ordered (spans : List Span) : Prop := spans.Pairwise fun a b => a.start ≤ b.start

/-- Spans in order that neither overlap nor touch. -/
def Apart (spans : List Span) : Prop := spans.Pairwise fun a b => a.stop < b.start

theorem Ordered.join {s t : Span} {ts : List Span} (h : Ordered (s :: t :: ts)) (stop : Nat) :
    Ordered (⟨s.start, stop⟩ :: ts) := by
  obtain ⟨hs, ht⟩ := List.pairwise_cons.1 h
  exact List.pairwise_cons.2 ⟨fun r hr => hs r (by simp [hr]), (List.pairwise_cons.1 ht).2⟩

theorem ends_uniteFrom {s r : Span} {ts : List Span} (h : r ∈ uniteFrom s ts) :
    (∃ a ∈ s :: ts, r.start = a.start) ∧ ∃ b ∈ s :: ts, r.stop = b.stop := by
  induction ts generalizing s with
  | nil =>
    obtain rfl : r = s := by simpa [uniteFrom] using h
    simp
  | cons t ts ih =>
    unfold uniteFrom at h
    split at h
    · obtain ⟨⟨a, ha, hra⟩, b, hb, hrb⟩ := ih h
      constructor
      · rcases List.mem_cons.1 ha with rfl | ha
        · exact ⟨s, by simp, hra⟩
        · exact ⟨a, by simp [ha], hra⟩
      · rcases List.mem_cons.1 hb with rfl | hb
        · rcases Nat.le_total s.stop t.stop with hle | hle
          · exact ⟨t, by simp, by simpa [Nat.max_eq_right hle] using hrb⟩
          · exact ⟨s, by simp, by simpa [Nat.max_eq_left hle] using hrb⟩
        · exact ⟨b, by simp [hb], hrb⟩
    · rcases List.mem_cons.1 h with rfl | h
      · exact ⟨⟨r, by simp, rfl⟩, r, by simp, rfl⟩
      · obtain ⟨⟨a, ha, hra⟩, b, hb, hrb⟩ := ih h
        exact ⟨⟨a, List.mem_cons_of_mem _ ha, hra⟩, b, List.mem_cons_of_mem _ hb, hrb⟩

theorem holds_uniteFrom {s : Span} {ts : List Span} (h : Ordered (s :: ts)) (i : Nat) :
    (∃ r ∈ uniteFrom s ts, r.Holds i) ↔ ∃ t ∈ s :: ts, t.Holds i := by
  induction ts generalizing s with
  | nil => simp [uniteFrom]
  | cons t ts ih =>
    have hst : s.start ≤ t.start := (List.pairwise_cons.1 h).1 t (by simp)
    unfold uniteFrom
    split
    · rename_i htouch
      rw [ih (h.join _)]
      simp only [List.mem_cons, exists_eq_or_imp]
      rw [← or_assoc]
      refine or_congr_left ?_
      simp only [Holds]
      omega
    · have hts := ih (List.pairwise_cons.1 h).2
      simp only [List.mem_cons, exists_eq_or_imp] at hts ⊢
      rw [hts]

theorem apart_uniteFrom {s : Span} {ts : List Span} (h : Ordered (s :: ts)) :
    Apart (uniteFrom s ts) := by
  induction ts generalizing s with
  | nil => simp [uniteFrom, Apart]
  | cons t ts ih =>
    unfold uniteFrom
    split
    · exact ih (h.join _)
    · rename_i hgap
      have ht := (List.pairwise_cons.1 h).2
      refine List.pairwise_cons.2 ⟨fun r hr => ?_, ih ht⟩
      obtain ⟨⟨a, ha, hra⟩, -⟩ := ends_uniteFrom hr
      have hta : t.start ≤ a.start := by
        rcases List.mem_cons.1 ha with rfl | ha
        · exact Nat.le_refl _
        · exact (List.pairwise_cons.1 ht).1 a ha
      omega

theorem nonempty_uniteFrom {s r : Span} {ts : List Span} (hne : ∀ t ∈ s :: ts, t.start < t.stop)
    (h : r ∈ uniteFrom s ts) : r.start < r.stop := by
  induction ts generalizing s with
  | nil =>
    obtain rfl : r = s := by simpa [uniteFrom] using h
    exact hne r (by simp)
  | cons t ts ih =>
    have hs := hne s (by simp)
    unfold uniteFrom at h
    split at h
    · refine ih (fun a ha => ?_) h
      rcases List.mem_cons.1 ha with rfl | ha
      · simp only
        omega
      · exact hne a (by simp [ha])
    · rcases List.mem_cons.1 h with rfl | h
      · exact hs
      · exact ih (fun a ha => hne a (List.mem_cons_of_mem _ ha)) h

/-! ## Spans in any order -/

/-- The spans that `unite` makes of spans once they are sorted. -/
theorem unite_sort_cases (spans : List Span) :
    unite (sort spans) = [] ∧ spans = [] ∨
      ∃ s ts, sort spans = s :: ts ∧ unite (sort spans) = uniteFrom s ts := by
  cases h : sort spans with
  | nil =>
    refine .inl ⟨rfl, List.eq_nil_iff_forall_not_mem.2 fun s hs => ?_⟩
    have := mem_sort.2 hs
    rw [h] at this
    cases this
  | cons s ts => exact .inr ⟨s, ts, rfl, rfl⟩

theorem ends_unite {spans : List Span} {r : Span} (h : r ∈ unite (sort spans)) :
    (∃ a ∈ spans, r.start = a.start) ∧ ∃ b ∈ spans, r.stop = b.stop := by
  rcases unite_sort_cases spans with ⟨he, -⟩ | ⟨s, ts, hs, he⟩ <;> rw [he] at h
  · cases h
  · obtain ⟨⟨a, ha, hra⟩, b, hb, hrb⟩ := ends_uniteFrom h
    rw [← hs] at ha hb
    exact ⟨⟨a, mem_sort.1 ha, hra⟩, b, mem_sort.1 hb, hrb⟩

/-- **United spans hold what the spans hold.** -/
theorem holds_unite (spans : List Span) (i : Nat) :
    (∃ r ∈ unite (sort spans), r.Holds i) ↔ ∃ s ∈ spans, s.Holds i := by
  rcases unite_sort_cases spans with ⟨he, hn⟩ | ⟨s, ts, hs, he⟩
  · subst hn
    simp [he]
  · rw [he, holds_uniteFrom (hs ▸ sort_pairwise spans), ← hs]
    simp

/-- **United spans stand apart.** -/
theorem unite_apart (spans : List Span) : Apart (unite (sort spans)) := by
  rcases unite_sort_cases spans with ⟨he, -⟩ | ⟨s, ts, hs, he⟩ <;> rw [he]
  · exact .nil
  · exact apart_uniteFrom (hs ▸ sort_pairwise spans)

theorem nonempty_unite {spans : List Span} (hne : ∀ s ∈ spans, s.start < s.stop) {r : Span}
    (h : r ∈ unite (sort spans)) : r.start < r.stop := by
  rcases unite_sort_cases spans with ⟨he, -⟩ | ⟨s, ts, hs, he⟩ <;> rw [he] at h
  · cases h
  · exact nonempty_uniteFrom (fun t ht => hne t (mem_sort.1 (hs ▸ ht))) h

end ProseLint.Text.Span
