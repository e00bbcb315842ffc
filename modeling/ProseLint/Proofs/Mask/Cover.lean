/-
What `cover` makes of a text. Character by character it shows fillers where a range holds the character
(`cover_eq_veil`); byte by byte it changes what the ranges hold and nothing else (`getElem?_bytes_cover`).
The copy is the slices between the ranges with fillers for the ranges (`stitch?_eq_cover`), and where it
has a boundary that the text has not, a range lies on both sides (`isBoundary_of_cover`).
-/
import ProseLint.Mask.Masked
import ProseLint.Proofs.Mask.Union
import ProseLint.Proofs.Text.Boundary

namespace ProseLint

open Text (Span IsBoundary byteLength bytes)

def Held (ranges : List Span) (i : Nat) : Prop := ∃ r ∈ ranges, r.Holds i

instance (ranges : List Span) (i : Nat) : Decidable (Held ranges i) :=
  inferInstanceAs (Decidable (∃ r ∈ ranges, r.Holds i))

/-- A text from `offset` on with fillers for the characters that start where `held` says. -/
def veil (held : Nat → Prop) [DecidablePred held] (offset : Nat) : List Char → List Char
  | [] => []
  | c :: cs =>
    (if held offset then List.replicate c.utf8Size filler else [c]) ++ veil held (offset + c.utf8Size) cs

/-- Ranges to mask: in order, apart, and none of them empty. -/
structure Ranged (ranges : List Span) : Prop where
  apart : Span.Apart ranges
  nonempty : ∀ r ∈ ranges, r.start < r.stop

theorem Ranged.tail {r : Span} {rs : List Span} (h : Ranged (r :: rs)) : Ranged rs :=
  ⟨(List.pairwise_cons.1 h.apart).2, fun s hs => h.nonempty s (List.mem_cons_of_mem _ hs)⟩

theorem Ranged.start_gt {r s : Span} {rs : List Span} (h : Ranged (r :: rs)) (hs : s ∈ rs) :
    r.stop < s.start :=
  (List.pairwise_cons.1 h.apart).1 s hs

theorem Ranged.held_iff_head {ranges : List Span} (h : Ranged ranges) {offset : Nat}
    (hahead : ∀ r ∈ ranges.head?, offset < r.stop) :
    ranges.head?.any (·.start ≤ offset) = true ↔ Held ranges offset := by
  cases ranges with
  | nil => simp [Held]
  | cons r rs =>
    have hr : offset < r.stop := hahead r rfl
    simp only [List.head?_cons, Option.any_some, decide_eq_true_eq, Held, List.mem_cons, exists_eq_or_imp]
    constructor
    · exact fun hle => .inl ⟨hle, hr⟩
    · rintro (⟨hle, -⟩ | ⟨s, hs, hle, -⟩)
      · exact hle
      · have := h.start_gt hs
        have := h.nonempty r (by simp)
        omega

theorem Ranged.dropWhile {ranges : List Span} (h : Ranged ranges) (offset : Nat) :
    Ranged (ranges.dropWhile (·.stop ≤ offset)) ∧
      (∀ r ∈ (ranges.dropWhile (·.stop ≤ offset)).head?, offset < r.stop) ∧
      ∀ i, offset ≤ i → (Held (ranges.dropWhile (·.stop ≤ offset)) i ↔ Held ranges i) := by
  induction ranges with
  | nil => exact ⟨h, by simp, fun _ _ => Iff.rfl⟩
  | cons r rs ih =>
    by_cases hr : r.stop ≤ offset
    · obtain ⟨h1, h2, h3⟩ := ih h.tail
      rw [List.dropWhile_cons_of_pos (by simpa using hr)]
      refine ⟨h1, h2, fun i hi => (h3 i hi).trans ?_⟩
      simp only [Held, List.mem_cons, exists_eq_or_imp, Span.Holds]
      constructor
      · exact .inr
      · rintro (⟨-, hlt⟩ | h)
        · omega
        · exact h
    · rw [List.dropWhile_cons_of_neg (by simpa using hr)]
      refine ⟨h, ?_, fun _ _ => Iff.rfl⟩
      simp only [List.head?_cons, Option.mem_some_iff, forall_eq']
      omega

theorem veil_congr {held held' : Nat → Prop} [DecidablePred held] [DecidablePred held'] {offset : Nat}
    {cs : List Char} (h : ∀ i, offset ≤ i → (held i ↔ held' i)) :
    veil held offset cs = veil held' offset cs := by
  induction cs generalizing offset with
  | nil => rfl
  | cons c cs ih =>
    rw [veil, veil, ih fun i hi => h i (by omega)]
    simp only [h offset (Nat.le_refl _)]

/-- **A covered text shows fillers where a range holds the character.** -/
theorem cover_eq_veil {ranges : List Span} (h : Ranged ranges) (offset : Nat) (cs : List Char) :
    cover ranges offset cs = veil (Held ranges) offset cs := by
  induction cs generalizing ranges offset with
  | nil => simp [cover, veil]
  | cons c cs ih =>
    obtain ⟨hahead, hhead, hheld⟩ := h.dropWhile offset
    simp only [cover, veil]
    rw [ih hahead, veil_congr fun i hi => hheld i (by omega)]
    congr 1
    simp only [hahead.held_iff_head hhead, hheld offset (Nat.le_refl _)]

/-! ## Veils -/

section Veil

variable {held : Nat → Prop} [DecidablePred held] {offset : Nat}

theorem byteLength_veil (cs : List Char) : byteLength (veil held offset cs) = byteLength cs := by
  induction cs generalizing offset with
  | nil => rfl
  | cons c cs ih =>
    rw [veil, Text.byteLength_append, ih, Text.byteLength_cons]
    split
    · rw [byteLength_replicate_filler]
    · simp

theorem veil_append (as bs : List Char) :
    veil held offset (as ++ bs) = veil held offset as ++ veil held (offset + byteLength as) bs := by
  induction as generalizing offset with
  | nil => rfl
  | cons a as ih =>
    rw [List.cons_append, veil, veil, ih, List.append_assoc, Text.byteLength_cons, Nat.add_assoc]

theorem veil_eq_self {cs : List Char} (h : ∀ i, offset ≤ i → i < offset + byteLength cs → ¬ held i) :
    veil held offset cs = cs := by
  induction cs generalizing offset with
  | nil => rfl
  | cons c cs ih =>
    have hc := c.utf8Size_pos
    rw [Text.byteLength_cons] at h
    rw [veil, ih fun i hi hlt => h i (by omega) (by omega), if_neg (h offset (by omega) (by omega))]
    rfl

theorem veil_eq_replicate {cs : List Char} (h : ∀ i, offset ≤ i → i < offset + byteLength cs → held i) :
    veil held offset cs = List.replicate (byteLength cs) filler := by
  induction cs generalizing offset with
  | nil => rfl
  | cons c cs ih =>
    have hc := c.utf8Size_pos
    rw [Text.byteLength_cons] at h ⊢
    rw [veil, ih fun i hi hlt => h i (by omega) (by omega), if_pos (h offset (by omega) (by omega)),
      List.replicate_append_replicate]

/-- All bytes of a character are held or none. -/
def Whole (held : Nat → Prop) (offset : Nat) (cs : List Char) : Prop :=
  ∀ pre c post, cs = pre ++ c :: post → ∀ i, i < c.utf8Size →
    (held (offset + byteLength pre + i) ↔ held (offset + byteLength pre))

omit [DecidablePred held] in
theorem Whole.head {c : Char} {cs : List Char} (h : Whole held offset (c :: cs)) {i : Nat}
    (hi : i < c.utf8Size) : held (offset + i) ↔ held offset := h [] c cs rfl i hi

omit [DecidablePred held] in
theorem Whole.tail {c : Char} {cs : List Char} (h : Whole held offset (c :: cs)) :
    Whole held (offset + c.utf8Size) cs := by
  rintro pre d post rfl i hi
  have := h (c :: pre) d post rfl i hi
  rwa [Text.byteLength_cons, ← Nat.add_assoc] at this

/-- The byte that stands for a masked byte. -/
def fillerByte : UInt8 := filler.toUInt8

theorem bytes_replicate_filler (n : Nat) : bytes (List.replicate n filler) = List.replicate n fillerByte := by
  induction n with
  | zero => rfl
  | succ n ih =>
    rw [List.replicate_succ, List.replicate_succ, ← ih]
    rfl

/-- Byte by byte a veil hides what is held. -/
theorem getElem?_bytes_veil {cs : List Char} (h : Whole held offset cs) {i : Nat} (hi : i < byteLength cs) :
    (bytes (veil held offset cs))[i]? = if held (offset + i) then some fillerByte else (bytes cs)[i]? := by
  induction cs generalizing offset i with
  | nil => simp at hi
  | cons c cs ih =>
    rw [Text.byteLength_cons] at hi
    have hcons : bytes (c :: cs) = bytes [c] ++ bytes cs := Text.bytes_append [c] cs
    have hshown : (bytes (if held offset then List.replicate c.utf8Size filler else [c])).length = c.utf8Size := by
      rw [Text.length_bytes]
      split
      · rw [byteLength_replicate_filler]
      · simp
    rw [veil, Text.bytes_append, hcons]
    by_cases hc : i < c.utf8Size
    · rw [List.getElem?_append_left (by omega), List.getElem?_append_left (by simpa using hc)]
      simp only [h.head hc]
      split
      · rw [bytes_replicate_filler, List.getElem?_replicate_of_lt hc]
      · rfl
    · rw [List.getElem?_append_right (by omega), List.getElem?_append_right (by simp; omega), hshown,
        ih h.tail (by omega), Text.length_bytes]
      have hoff : offset + c.utf8Size + (i - c.utf8Size) = offset + i := by omega
      simp [hoff]

/-- Where a veil has a boundary that the text has not, the character there is held. -/
theorem isBoundary_of_veil {cs : List Char} {n : Nat} (h : IsBoundary (veil held offset cs) n) :
    IsBoundary cs n ∨ ∃ pre c post, cs = pre ++ c :: post ∧ byteLength pre < n ∧
      n < byteLength pre + c.utf8Size ∧ held (offset + byteLength pre) := by
  induction cs generalizing offset n with
  | nil => exact .inl h
  | cons c cs ih =>
    rw [veil] at h
    by_cases hn : n < c.utf8Size
    · by_cases hc : held offset
      · cases n with
        | zero => exact .inl (Text.isBoundary_zero _)
        | succ n => exact .inr ⟨[], c, cs, rfl, by simp, by simpa using hn, hc⟩
      · rw [if_neg hc] at h
        obtain ⟨pre, post, heq, rfl⟩ := h
        cases pre with
        | nil => exact .inl (Text.isBoundary_zero _)
        | cons d pre =>
          obtain ⟨rfl, -⟩ := List.cons.inj heq
          rw [Text.byteLength_cons] at hn
          omega
    · have hlen : byteLength (if held offset then List.replicate c.utf8Size filler else [c]) = c.utf8Size := by
        split
        · rw [byteLength_replicate_filler]
        · simp
      have hright := h.right (by omega)
      rw [hlen] at hright
      rcases ih hright with hb | ⟨pre, d, post, rfl, h1, h2, h3⟩
      · have := hb.append_left [c]
        simp only [Text.byteLength_cons, Text.byteLength_nil, List.singleton_append] at this
        exact .inl (by rwa [show c.utf8Size + 0 + (n - c.utf8Size) = n by omega] at this)
      · refine .inr ⟨c :: pre, d, post, rfl, ?_, ?_, ?_⟩ <;> rw [Text.byteLength_cons]
        · omega
        · omega
        · rwa [← Nat.add_assoc]

/-- Where nothing is held, a veil starts as the text does. -/
theorem exists_of_veil_eq_cons {c : Char} {cs v : List Char} (hfree : ¬ held offset)
    (h : veil held offset cs = c :: v) : ∃ post, cs = c :: post ∧ v = veil held (offset + c.utf8Size) post := by
  cases cs with
  | nil => cases h
  | cons d ds =>
    rw [veil, if_neg hfree] at h
    obtain ⟨rfl, rfl⟩ := List.cons.inj h
    exact ⟨ds, rfl, rfl⟩

/-- What a veil shows is not held. -/
theorem not_held_of_veil_eq_cons {c : Char} {cs v : List Char} (hc : c ≠ filler)
    (h : veil held offset cs = c :: v) : ¬ held offset := by
  intro hheld
  cases cs with
  | nil => cases h
  | cons d ds =>
    obtain ⟨n, hn⟩ := Nat.exists_eq_add_one_of_ne_zero (Nat.ne_of_gt d.utf8Size_pos)
    rw [veil, if_pos hheld, hn, List.replicate_succ, List.cons_append] at h
    exact hc (List.cons.inj h).1.symm

/-- A character of a veil that is no filler is one of the text. -/
theorem exists_of_veil_eq_append {c : Char} {cs u v : List Char} (hc : c ≠ filler)
    (h : veil held offset cs = u ++ c :: v) : ∃ pre post, cs = pre ++ c :: post ∧
      byteLength pre = byteLength u ∧ veil held (offset + byteLength pre) (c :: post) = c :: v := by
  induction cs generalizing offset u with
  | nil => simp [veil] at h
  | cons d ds ih =>
    by_cases hu : u = []
    · subst hu
      obtain ⟨post, heq, -⟩ := exists_of_veil_eq_cons (not_held_of_veil_eq_cons hc h) h
      exact ⟨[], post, heq, rfl, heq ▸ h⟩
    · have hshown : byteLength (if held offset then List.replicate d.utf8Size filler else [d]) = d.utf8Size := by
        split
        · exact byteLength_replicate_filler _
        · simp
      -- the veil of the first character lies before `c`, which is no filler
      obtain ⟨e, rfl, he⟩ : ∃ e, u = (if held offset then List.replicate d.utf8Size filler else [d]) ++ e ∧
          veil held (offset + d.utf8Size) ds = e ++ c :: v := by
        rcases List.append_eq_append_iff.1 h with ⟨e, rfl, he⟩ | ⟨e, he, hv⟩
        · exact ⟨e, rfl, he⟩
        · cases e with
          | nil => exact ⟨[], by simpa using he.symm, by simpa using hv.symm⟩
          | cons x e =>
            obtain rfl : c = x := (List.cons.inj hv).1
            split at he
            · have hmem : c ∈ List.replicate d.utf8Size filler := he ▸ by simp
              exact absurd (List.eq_of_mem_replicate hmem) hc
            · obtain ⟨x, u, rfl⟩ := List.exists_cons_of_ne_nil hu
              simp at he
      obtain ⟨pre, post, rfl, hlen, hveil⟩ := ih he
      refine ⟨d :: pre, post, rfl, ?_, ?_⟩
      · rw [Text.byteLength_cons, Text.byteLength_append, hshown, hlen]
      · rwa [Text.byteLength_cons, ← Nat.add_assoc]

/-- A word of a veil that has no filler is one of the text, and nothing of it is held. -/
theorem exists_of_veil_eq_word {w cs v : List Char} (hw : filler ∉ w) (h : veil held offset cs = w ++ v) :
    (∀ as c bs, w = as ++ c :: bs → ¬ held (offset + byteLength as)) ∧
      ∃ post, cs = w ++ post ∧ v = veil held (offset + byteLength w) post := by
  induction w generalizing offset cs with
  | nil => exact ⟨by simp, cs, rfl, h.symm⟩
  | cons c w ih =>
    rw [List.mem_cons, not_or] at hw
    have hfree := not_held_of_veil_eq_cons (Ne.symm hw.1) h
    obtain ⟨post, rfl, hv⟩ := exists_of_veil_eq_cons hfree h
    obtain ⟨hall, post, rfl, hv⟩ := ih hw.2 hv.symm
    refine ⟨fun as d bs heq => ?_, post, rfl, ?_⟩
    · cases as with
      | nil => exact hfree
      | cons x as =>
        obtain ⟨rfl, rfl⟩ := List.cons.inj heq
        rw [Text.byteLength_cons, ← Nat.add_assoc]
        exact hall as d bs rfl
    · rwa [Text.byteLength_cons, ← Nat.add_assoc]

end Veil

/-! ## Covered texts -/

/-- Ranges to mask in a text, with their ends on boundaries. -/
structure RangedIn (text : List Char) (ranges : List Span) : Prop extends Ranged ranges where
  start : ∀ r ∈ ranges, IsBoundary text r.start
  stop : ∀ r ∈ ranges, IsBoundary text r.stop

theorem boundary_outside {pre post : List Char} {c : Char} {n : Nat}
    (h : IsBoundary (pre ++ c :: post) n) : n ≤ byteLength pre ∨ byteLength pre + c.utf8Size ≤ n := by
  obtain ⟨a, b, heq, rfl⟩ := h
  rcases Nat.le_total (byteLength a) (byteLength pre) with hle | hle
  · exact .inl hle
  · obtain ⟨e, rfl, he⟩ := Text.prefix_of_byteLength_le heq hle
    cases e with
    | nil => simp
    | cons d e =>
      obtain ⟨rfl, -⟩ := List.cons.inj he
      rw [Text.byteLength_append, Text.byteLength_cons]
      omega

theorem RangedIn.whole {text : List Char} {ranges : List Span} (h : RangedIn text ranges) :
    Whole (Held ranges) 0 text := by
  rintro pre c post rfl i hi
  refine exists_congr fun r => and_congr_right fun hr => ?_
  have h1 := boundary_outside (h.start r hr)
  have h2 := boundary_outside (h.stop r hr)
  simp only [Span.Holds]
  omega

/-- **A covered text has fillers for the bytes that ranges hold, and the bytes of the text elsewhere.** -/
theorem getElem?_bytes_cover {text : List Char} {ranges : List Span} (h : RangedIn text ranges) {i : Nat}
    (hi : i < byteLength text) :
    (bytes (cover ranges 0 text))[i]? = if Held ranges i then some fillerByte else (bytes text)[i]? := by
  rw [cover_eq_veil h.toRanged, getElem?_bytes_veil h.whole hi, Nat.zero_add]

/-- **Outside the ranges a covered text has the boundaries of the text.** -/
theorem isBoundary_of_cover {text : List Char} {ranges : List Span} (h : RangedIn text ranges) {n : Nat}
    (hn : IsBoundary (cover ranges 0 text) n) (hout : ∀ r ∈ ranges, n ≤ r.start ∨ r.stop ≤ n) :
    IsBoundary text n := by
  rw [cover_eq_veil h.toRanged] at hn
  rcases isBoundary_of_veil hn with hb | ⟨pre, c, post, rfl, h1, h2, r, hr, hle, hlt⟩
  · exact hb
  · have h3 := boundary_outside (h.stop r hr)
    have h4 := hout r hr
    omega

/-- A text from `offset` on, rebuilt of the slices between ranges and of fillers for the ranges. It
fails where a slice would cut a character. -/
def stitch? (text : List Char) (offset : Nat) : List Span → Option (List Char)
  | [] => Text.slice? text ⟨offset, byteLength text⟩
  | r :: rs => do
    let head ← Text.slice? text ⟨offset, r.start⟩
    let tail ← stitch? text r.stop rs
    return head ++ List.replicate r.length filler ++ tail

theorem stitch?_eq_veil {ranges : List Span} :
    ∀ {pre cs : List Char}, RangedIn (pre ++ cs) ranges → (∀ r ∈ ranges, byteLength pre ≤ r.start) →
      stitch? (pre ++ cs) (byteLength pre) ranges = some (veil (Held ranges) (byteLength pre) cs) := by
  induction ranges with
  | nil =>
    intro pre cs _ _
    rw [stitch?, veil_eq_self (by simp [Held])]
    exact Text.slice?_eq_some.2 ⟨pre, [], by simp, rfl, rfl⟩
  | cons r rs ih =>
    intro pre cs h hle
    have hne := h.nonempty r (by simp)
    obtain ⟨a, b, hab, ha⟩ := h.start r (by simp)
    obtain ⟨d, e, hde, hd⟩ := h.stop r (by simp)
    obtain ⟨head, rfl, rfl⟩ := Text.prefix_of_byteLength_le hab (by have := hle r (by simp); omega)
    obtain ⟨mid, rfl, rfl⟩ := Text.prefix_of_byteLength_le (hab.symm.trans hde) (by omega)
    have hlen : byteLength mid = r.length := by
      rw [Text.byteLength_append] at hd
      simp only [Span.length]
      omega
    have hhead : Text.slice? (pre ++ (head ++ (mid ++ e))) ⟨byteLength pre, r.start⟩ = some head :=
      Text.slice?_eq_some.2 ⟨pre, mid ++ e, by simp, rfl, ha⟩
    have hrs : RangedIn (pre ++ head ++ mid ++ e) rs :=
      ⟨h.tail, fun s hs => by simpa using h.start s (List.mem_cons_of_mem _ hs),
        fun s hs => by simpa using h.stop s (List.mem_cons_of_mem _ hs)⟩
    have htail := ih hrs fun s hs => by
      rw [hd]
      exact Nat.le_of_lt (h.start_gt hs)
    rw [hd, List.append_assoc, List.append_assoc] at htail
    rw [stitch?, hhead, htail, Option.bind_eq_bind, Option.bind_some, Option.bind_some]
    rw [veil_append, veil_append, ← Text.byteLength_append, ← Text.byteLength_append, hd, ha]
    have hfree : veil (Held (r :: rs)) (byteLength pre) head = head := by
      refine veil_eq_self fun i _ hlt => ?_
      rw [← Text.byteLength_append, ha] at hlt
      rintro ⟨s, hs, hsi, -⟩
      rcases List.mem_cons.1 hs with rfl | hs
      · omega
      · have := h.start_gt hs
        omega
    have hmid : veil (Held (r :: rs)) r.start mid = List.replicate r.length filler := by
      rw [← hlen]
      refine veil_eq_replicate fun i hi hlt => ⟨r, by simp, hi, ?_⟩
      rw [hlen] at hlt
      simp only [Span.length] at hlt
      omega
    have hrest : veil (Held (r :: rs)) r.stop e = veil (Held rs) r.stop e := by
      refine veil_congr fun i hi => ?_
      simp only [Held, List.mem_cons, exists_eq_or_imp, Span.Holds]
      exact ⟨fun hor => hor.resolve_left (by omega), .inr⟩
    rw [hfree, hmid, hrest, ← List.append_assoc]
    rfl

/-- **A covered text is the slices between the ranges with fillers for the ranges**, and no slice cuts
a character. -/
theorem stitch?_eq_cover {text : List Char} {ranges : List Span} (h : RangedIn text ranges) :
    stitch? text 0 ranges = some (cover ranges 0 text) := by
  rw [cover_eq_veil h.toRanged]
  exact @stitch?_eq_veil ranges [] text h (by simp)

end ProseLint
