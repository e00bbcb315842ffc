/-
Masking is exact (`mask_exact`): the ranges are what the matches of the two patterns hold together, and
the copy differs from the text in the bytes of the ranges only. The pattern of a format is the last one
given for it that can be read (`pattern?_addAll`); addresses have a pattern (`urlPattern_eq`).
-/
import ProseLint.Mask.Masker
import ProseLint.Proofs.Mask.Cover
import ProseLint.Proofs.Pattern.Matches
import ProseLint.Proofs.Pattern.Size

namespace ProseLint

open Text (Span IsBoundary byteLength bytes)

/-! ## The pattern of addresses -/

def addressHead : Pattern.CharSet :=
  .compl (.union (.union (.union (.union (.union (.cls .blank) (.single '/')) (.single '$')) (.single '.'))
    (.single '?')) (.single '#'))

def addressScheme : Pattern.Expr :=
  .alt [.seq [.one (.single 'h'), .one (.single 't'), .one (.single 't'), .one (.single 'p'),
      .rounds 0 (some 1) true (.one (.single 's'))],
    .seq [.one (.single 'f'), .one (.single 't'), .one (.single 'p')]]

def addressExpr : Pattern.Expr :=
  .seq [addressScheme, .one (.single ':'), .one (.single '/'), .one (.single '/'), .one addressHead,
    .one .notLineFeed, .rounds 0 none true (.one (.compl (.cls .blank)))]

theorem fits_addressExpr : (Pattern.Outline.ofExpr addressExpr).fits = true :=
  Pattern.Expr.fits_of_weight_le (by decide +kernel)

/-- **Addresses have a pattern.** -/
theorem urlPattern_eq : urlPattern = some ⟨urlSource, .ofExpr addressExpr, []⟩ := by
  have hread : (Pattern.Reader.initial.read? urlSource.length urlSource.toList).map
      (fun r => (r.body.expr, r.body.depth)) = some (addressExpr, 5) := by rfl
  obtain ⟨r, hr, hbody⟩ := Option.map_eq_some_iff.1 hread
  obtain ⟨hexpr, hdepth⟩ := Prod.mk.inj hbody
  rw [urlPattern, Pattern.ofText?, hr]
  simp only [hexpr, hdepth]
  rw [if_pos ⟨by decide, fits_addressExpr⟩]
  rfl

/-! ## The pattern of a format -/

namespace Masker

/-- The last pattern given for a format that can be read. -/
def lastReadable (patterns : List (String × String)) (format : String) : Option Pattern :=
  ((patterns.filter (·.1 = format)).filterMap (Pattern.ofText? ·.2)).getLast?

theorem pattern?_add (m : Masker) (format source name : String) :
    (m.add format source).pattern? name =
      (if format = name then Pattern.ofText? source else none).or (m.pattern? name) := by
  unfold add pattern?
  cases hp : Pattern.ofText? source with
  | none => simp
  | some p =>
    by_cases h : format = name
    · subst h
      simp
    · have hne : (name == format) = false := beq_eq_false_iff_ne.2 (Ne.symm h)
      simp [List.lookup_cons, h, hne]

/-- **A format has the last pattern given for it that can be read.** -/
theorem pattern?_addAll (m : Masker) (patterns : List (String × String)) (format : String) :
    (m.addAll patterns).pattern? format = (lastReadable patterns format).or (m.pattern? format) := by
  induction patterns generalizing m with
  | nil => simp [addAll, lastReadable]
  | cons e es ih =>
    have hstep : (m.addAll (e :: es)).pattern? format = ((m.add e.1 e.2).addAll es).pattern? format := rfl
    rw [hstep, ih, pattern?_add]
    by_cases h : e.1 = format
    · cases hp : Pattern.ofText? e.2 with
      | none => simp [lastReadable, h, hp]
      | some p =>
        simp only [lastReadable, h, decide_true, List.filter_cons_of_pos, List.filterMap_cons, hp, if_true,
          List.getLast?_cons, Option.some_or]
        cases ((es.filter fun x => decide (x.1 = format)).filterMap (Pattern.ofText? ·.2)).getLast? <;> simp
    · simp [lastReadable, h]

/-! ## The ranges -/

theorem fits_of_mem_found {text : List Char} {pattern : Option Pattern} {s : Span}
    (h : s ∈ found text pattern) : s.Fits text := by
  cases pattern with
  | none => cases h
  | some p =>
    obtain ⟨m, hm, rfl⟩ := List.mem_map.1 h
    exact (Pattern.Program.within_of_mem_findAll hm).fits

/-- **The ranges to mask stand apart on boundaries of the text, and none is empty.** -/
theorem rangedIn_ranges (m : Masker) (text : List Char) (format : String) :
    RangedIn text (m.ranges text format) := by
  have hfits : ∀ s ∈ (found text urlPattern ++ found text (m.pattern? format)).filter (!·.isEmpty),
      s.Fits text ∧ s.start < s.stop := by
    intro s hs
    obtain ⟨hs, hne⟩ := List.mem_filter.1 hs
    refine ⟨(List.mem_append.1 hs).elim fits_of_mem_found fits_of_mem_found, ?_⟩
    simpa [Span.isEmpty] using hne
  refine ⟨⟨Span.unite_apart _, fun r hr => Span.nonempty_unite (fun s hs => (hfits s hs).2) hr⟩, ?_, ?_⟩
  · intro r hr
    obtain ⟨⟨a, ha, heq⟩, -⟩ := Span.ends_unite hr
    exact heq ▸ (hfits a ha).1.start
  · intro r hr
    obtain ⟨-, b, hb, heq⟩ := Span.ends_unite hr
    exact heq ▸ (hfits b hb).1.stop

/-- **The ranges hold what the matches hold.** -/
theorem held_ranges (m : Masker) (text : List Char) (format : String) (i : Nat) :
    Held (m.ranges text format) i ↔
      Held (found text urlPattern) i ∨ Held (found text (m.pattern? format)) i := by
  have hne {s : Span} (h : s.Holds i) : (!s.isEmpty) = true := by
    have := h.1
    have := h.2
    simp [Span.isEmpty]
    omega
  rw [Held, ranges, Span.holds_unite]
  simp only [Held, List.mem_filter, List.mem_append]
  constructor
  · rintro ⟨s, ⟨hs | hs, -⟩, h⟩
    · exact .inl ⟨s, hs, h⟩
    · exact .inr ⟨s, hs, h⟩
  · rintro (⟨s, hs, h⟩ | ⟨s, hs, h⟩)
    · exact ⟨s, ⟨.inl hs, hne h⟩, h⟩
    · exact ⟨s, ⟨.inr hs, hne h⟩, h⟩

theorem ranges_eq_nil {m : Masker} {text : List Char} {format : String}
    (h : ∀ s ∈ found text urlPattern ++ found text (m.pattern? format), s.isEmpty = true) :
    m.ranges text format = [] := by
  have hnil : (found text urlPattern ++ found text (m.pattern? format)).filter (!·.isEmpty) = [] :=
    List.filter_eq_nil_iff.2 fun s hs => by simp [h s hs]
  rw [ranges, hnil]
  simp [Span.sort, Span.unite]

end Masker

theorem cover_nil (offset : Nat) (text : List Char) : cover [] offset text = text := by
  rw [cover_eq_veil ⟨.nil, by simp⟩, veil_eq_self]
  simp [Held]

/-! ## Masking -/

/-- Some match of a pattern in a text holds the byte at an offset. -/
def Matched (p : Pattern) (text : List Char) (i : Nat) : Prop := ∃ m ∈ p.findAll text, m.span.Holds i

theorem held_found (p : Pattern) (text : List Char) (i : Nat) :
    Held (Masker.found text (some p)) i ↔ Matched p text i := by
  constructor
  · rintro ⟨s, hs, hi⟩
    obtain ⟨m, hm, rfl⟩ := List.mem_map.1 hs
    exact ⟨m, hm, hi⟩
  · rintro ⟨m, hm, hi⟩
    exact ⟨m.span, List.mem_map_of_mem hm, hi⟩

/-- A text is masked exactly where `masks` says. -/
structure Masked.Exact (t : Masked) (text : List Char) (masks : Nat → Prop) : Prop where
  text_eq : t.text = text
  length_eq : byteLength t.copy = byteLength text
  nonempty : ∀ r ∈ t.ranges, r.start < r.stop
  inside : ∀ r ∈ t.ranges, r.stop ≤ byteLength text
  boundaries : ∀ r ∈ t.ranges, IsBoundary text r.start ∧ IsBoundary text r.stop
  apart : t.ranges.Pairwise fun a b => a.stop < b.start
  held_iff : ∀ i, Held t.ranges i ↔ masks i
  bytes_eq : ∀ i, i < byteLength text →
    (bytes t.copy)[i]? = if Held t.ranges i then some fillerByte else (bytes text)[i]?
  /-- no slice that the copy is built of cuts a character -/
  stitched : stitch? text 0 t.ranges = some t.copy

theorem Masked.ofRanges_exact {text : List Char} {ranges : List Span} (h : RangedIn text ranges) :
    (Masked.ofRanges text ranges).Exact text (Held ranges) where
  text_eq := rfl
  length_eq := byteLength_cover ranges 0 text
  nonempty := h.nonempty
  inside r hr := (h.stop r hr).le
  boundaries r hr := ⟨h.start r hr, h.stop r hr⟩
  apart := h.apart
  held_iff _ := Iff.rfl
  bytes_eq _ hi := getElem?_bytes_cover h hi
  stitched := stitch?_eq_cover h

theorem Masker.mask_eq_unmasked {m : Masker} {text : List Char} {format : String}
    (h : ∀ s ∈ found text urlPattern ++ found text (m.pattern? format), s.isEmpty = true) :
    m.mask text format = Masked.unmasked text := by
  rw [mask, ranges_eq_nil h, Masked.ofRanges, cover_nil]
  rfl

/-- **Masking is exact.** What is masked in a text of a format are the bytes in matches of the pattern
of addresses and of the last pattern given for the format that can be read. Where none of these matches
holds anything, the text stays as it is. -/
theorem mask_exact (patterns : List (String × String)) (text : List Char) (format : String) :
    ∃ url, Pattern.ofText? urlSource = some url ∧
      ((Masker.plain.addAll patterns).mask text format).Exact text (fun i =>
        Matched url text i ∨ ∃ p, Masker.lastReadable patterns format = some p ∧ Matched p text i) ∧
      ((∀ m ∈ url.findAll text, m.span.isEmpty = true) →
        (∀ p, Masker.lastReadable patterns format = some p → ∀ m ∈ p.findAll text, m.span.isEmpty = true) →
        (Masker.plain.addAll patterns).mask text format = Masked.unmasked text) := by
  have hlast : (Masker.plain.addAll patterns).pattern? format = Masker.lastReadable patterns format := by
    rw [Masker.pattern?_addAll]
    exact Option.or_none
  obtain ⟨url, hurl⟩ : ∃ url, urlPattern = some url := ⟨_, urlPattern_eq⟩
  refine ⟨url, hurl, ?_, fun hempty hempty' => ?_⟩
  · have hexact := Masked.ofRanges_exact ((Masker.plain.addAll patterns).rangedIn_ranges text format)
    refine { hexact with held_iff := fun i => ?_ }
    rw [Masker.mask, Masked.ofRanges, Masker.held_ranges, hlast, hurl, held_found]
    refine or_congr_right ?_
    cases Masker.lastReadable patterns format with
    | none => simp [Held, Masker.found]
    | some p => simp [held_found]
  · refine Masker.mask_eq_unmasked fun s hs => ?_
    rw [hurl, hlast] at hs
    rcases List.mem_append.1 hs with hs | hs
    · obtain ⟨m, hm, rfl⟩ := List.mem_map.1 hs
      exact hempty m hm
    · cases hp : Masker.lastReadable patterns format with
      | none =>
        rw [hp] at hs
        cases hs
      | some p =>
        rw [hp] at hs
        obtain ⟨m, hm, rfl⟩ := List.mem_map.1 hs
        exact hempty' p hp m hm

end ProseLint
