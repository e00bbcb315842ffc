/-
Which spans count as masked. `isMasked` halves the ranges to find the first one that ends after the start
of the span, and looks at no other. Since ranges stand apart, that one decides: `isMasked_iff` says so for
any ranges that do, and `isMasked_mask` for the ranges that a masker finds, in bytes that are shared.
-/
import ProseLint.Proofs.Mask.Exact

namespace ProseLint

open Text (Span)

/-! ## Searching by halves -/

section Bisect

variable {α : Type} {p : α → Bool} {xs : List α}

/-- The search keeps what it knows: items before the stretch satisfy `p`, items after it do not. -/
theorem bisect_spec (hp : xs.Pairwise fun a b => p b = true → p a = true) {lo hi : Nat} (h : hi ≤ xs.length)
    (hle : lo ≤ hi) (hbefore : ∀ x ∈ xs.take lo, p x = true) (hafter : ∀ x ∈ xs.drop hi, p x = false) :
    (∀ x ∈ xs.take (bisect p xs lo hi h), p x = true) ∧ ∀ x ∈ xs.drop (bisect p xs lo hi h), p x = false := by
  fun_induction bisect p xs lo hi h with
  | case1 lo hi h hlt mid hmid hpos ih =>
    refine ih hmid (fun x hx => ?_) hafter
    obtain ⟨i, hi, rfl⟩ := List.mem_take_iff_getElem.1 hx
    rcases Nat.lt_or_eq_of_le (show i ≤ mid by omega) with hlt' | rfl
    · exact List.pairwise_iff_getElem.1 hp i mid _ _ hlt' hpos
    · exact hpos
  | case2 lo hi h hlt mid hmid hneg ih =>
    refine ih (by omega) hbefore fun x hx => Bool.eq_false_iff.2 fun hxp => hneg ?_
    obtain ⟨i, hi, rfl⟩ := List.mem_drop_iff_getElem.1 hx
    rcases Nat.eq_zero_or_pos i with rfl | hpos
    · exact hxp
    · exact List.pairwise_iff_getElem.1 hp mid (mid + i) _ _ (by omega) hxp
  | case3 lo hi h hlt =>
    obtain rfl : lo = hi := by omega
    exact ⟨hbefore, hafter⟩

/-- **In a list that has the items with `p` first, the search parts them from the others.** -/
theorem partitionPoint_spec (hp : xs.Pairwise fun a b => p b = true → p a = true) :
    (∀ x ∈ xs.take (partitionPoint p xs), p x = true) ∧ ∀ x ∈ xs.drop (partitionPoint p xs), p x = false :=
  bisect_spec hp _ (Nat.zero_le _) (by simp) (by simp)

end Bisect

/-! ## Spans that meet ranges -/

theorem Ranged.pairwise_stop {ranges : List Span} (h : Ranged ranges) (offset : Nat) :
    ranges.Pairwise fun a b => decide (b.stop ≤ offset) = true → decide (a.stop ≤ offset) = true := by
  refine h.apart.imp_of_mem fun {a b} _ hb hab hle => ?_
  have hne := h.nonempty b hb
  have hle : b.stop ≤ offset := of_decide_eq_true hle
  exact decide_eq_true (by omega)

theorem Ranged.exists_split {ranges : List Span} (h : Ranged ranges) (offset : Nat) :
    ∃ early late, ranges = early ++ late ∧ (∀ r ∈ early, r.stop ≤ offset) ∧ (∀ r ∈ late, offset < r.stop) ∧
      ranges[partitionPoint (·.stop ≤ offset) ranges]? = late.head? := by
  obtain ⟨hearly, hlate⟩ := partitionPoint_spec (h.pairwise_stop offset)
  exact ⟨_, _, (List.take_append_drop _ _).symm, fun r hr => of_decide_eq_true (hearly r hr),
    fun r hr => Nat.lt_of_not_le (of_decide_eq_false (hlate r hr)), List.head?_drop.symm⟩

/-- **A span counts as masked if a range begins before its end and ends after its start.** -/
theorem Masked.isMasked_iff {t : Masked} (h : Ranged t.ranges) {s : Span} :
    t.isMasked s = true ↔ ∃ r ∈ t.ranges, r.start < s.stop ∧ s.start < r.stop := by
  obtain ⟨early, late, hranges, hearly, hlate, hhead⟩ := h.exists_split s.start
  rw [isMasked, hhead]
  rw [hranges] at h ⊢
  cases late with
  | nil =>
    refine iff_of_false (by simp) ?_
    rintro ⟨r, hr, -, hstop⟩
    have := hearly r (by simpa using hr)
    omega
  | cons a rs =>
    simp only [List.head?_cons, decide_eq_true_eq]
    refine ⟨fun hlt => ⟨a, by simp, hlt, hlate a (by simp)⟩, ?_⟩
    rintro ⟨r, hr, hstart, hstop⟩
    rcases List.mem_append.1 hr with hr | hr
    · have := hearly r hr
      omega
    · rcases List.mem_cons.1 hr with rfl | hr
      · exact hstart
      -- The range that is met begins after the one that is looked at.
      · have := (List.pairwise_cons.1 (List.pairwise_append.1 h.apart).2.1).1 r hr
        have := h.nonempty a (by simp)
        omega

/-- Two spans that hold bytes share one if each begins before the other ends. -/
theorem Text.Span.exists_holds_iff {r s : Span} (hr : r.start < r.stop) (hs : s.start < s.stop) :
    (∃ i, r.Holds i ∧ s.Holds i) ↔ r.start < s.stop ∧ s.start < r.stop := by
  constructor
  · rintro ⟨i, ⟨hri, hir⟩, hsi, his⟩
    omega
  · rintro ⟨hrs, hsr⟩
    exact ⟨max r.start s.start, ⟨by omega, by omega⟩, by omega, by omega⟩

namespace Masker

/-- **The search by halves agrees with the plain reading.** In what a masker makes of a text, a span that
holds bytes counts as masked if it shares a byte with a masked range, and an empty one if it stands strictly
between the start and the end of one, wherever the span stands. -/
theorem isMasked_mask (m : Masker) (text : List Char) (format : String) (s : Span) :
    (s.start < s.stop → ((m.mask text format).isMasked s = true ↔
      ∃ r ∈ (m.mask text format).ranges, ∃ i, r.Holds i ∧ s.Holds i)) ∧
    (s.start = s.stop → ((m.mask text format).isMasked s = true ↔
      ∃ r ∈ (m.mask text format).ranges, r.start < s.start ∧ s.start < r.stop)) := by
  have h : Ranged (m.mask text format).ranges := (m.rangedIn_ranges text format).toRanged
  constructor
  · intro hlt
    rw [Masked.isMasked_iff h]
    exact exists_congr fun r => and_congr_right fun hr => (Span.exists_holds_iff (h.nonempty r hr) hlt).symm
  · intro heq
    rw [Masked.isMasked_iff h, heq]

/-- Spans around the address in a text and in it. -/
theorem isMasked_mask_address :
    (plain.mask "a https://a.io b".toList "txt").ranges = [⟨2, 14⟩] ∧
      (plain.mask "a https://a.io b".toList "txt").isMasked ⟨0, 3⟩ = true ∧
      (plain.mask "a https://a.io b".toList "txt").isMasked ⟨14, 16⟩ = false ∧
      (plain.mask "a https://a.io b".toList "txt").isMasked ⟨5, 5⟩ = true ∧
      (plain.mask "a https://a.io b".toList "txt").isMasked ⟨2, 2⟩ = false := by
  have hranges : (plain.mask "a https://a.io b".toList "txt").ranges = [⟨2, 14⟩] := by
    simp only [Masker.mask, Masker.ranges, urlPattern_eq]
    decide +kernel
  have hboth (s : Span) := isMasked_mask plain "a https://a.io b".toList "txt" s
  simp only [hranges, List.mem_singleton, exists_eq_left] at hboth
  refine ⟨hranges, ((hboth _).1 (by decide)).2 ⟨2, by decide⟩, ?_, ((hboth _).2 rfl).2 (by decide), ?_⟩
  · refine Bool.eq_false_iff.2 fun hmasked => ?_
    obtain ⟨i, hi, hi'⟩ := ((hboth _).1 (by decide)).1 hmasked
    simp only [Span.Holds] at hi hi'
    omega
  · refine Bool.eq_false_iff.2 fun hmasked => ?_
    have := ((hboth _).2 rfl).1 hmasked
    simp only at this
    omega

end Masker

end ProseLint
