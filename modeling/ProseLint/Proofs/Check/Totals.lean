/-
What occurrence checks flag: all matches of a pattern together, when there are more of them than the check puts
up with. It counts the matches that meet no masked range, empty ones among them, and its alert goes from the
first of these to the last, whatever is masked before, between or after them (`Check.Gathers`). Where no match
is empty, they are the ones that an existence check of the same pattern flags one by one, so the two can be told
from one another (`Check.occurrence_gathers`).
-/
import ProseLint.Proofs.Check.Located

namespace ProseLint

open Text (Span)

namespace Check

variable {c e : Check} {p : Pattern} {max : Nat} {t : Masked}

/-! ## Matches that show -/

def shownSpans (p : Pattern) (t : Masked) : List Span := (spansOf p t).filter fun s => s.Clear t.ranges

theorem shownSpans_eq (h : Ranged t.ranges) (p : Pattern) :
    shownSpans p t = (spansOf p t).filter fun s => !t.isMasked s := by
  refine List.filter_congr fun s _ => ?_
  rw [Bool.eq_iff_iff, decide_eq_true_iff, Bool.not_eq_true', Masked.isMasked_eq_false_iff h]

/-- Where no match is empty, existence checks flag the matches that show. -/
theorem map_span_existence (h : Ranged t.ranges) (hne : ∀ s ∈ spansOf p t, s.start < s.stop) (e : Check) :
    (e.existence p t).map (·.span) = shownSpans p t := by
  rw [existence, List.map_map, shownSpans_eq h]
  have hspan : (fun a : Alert => a.span) ∘ (fun s => e.alert s [t.slice s]) = id := rfl
  rw [hspan, List.map_id]
  refine List.filter_congr fun s hs => ?_
  have hfull : s.isEmpty = false := decide_eq_false (Nat.not_le.2 (hne s hs))
  rw [hfull, Bool.not_false, Bool.true_and]

/-! ## Counting them -/

theorem occurrence_of_le (h : Ranged t.ranges) (c : Check) (hle : (shownSpans p t).length ≤ max) :
    c.occurrence p max t = [] := by
  rw [shownSpans_eq h] at hle
  unfold occurrence
  split
  · rfl
  · rename_i hshown
    rw [hshown] at hle
    exact if_pos hle

theorem occurrence_of_lt (h : Ranged t.ranges) (c : Check) (hlt : max < (shownSpans p t).length) :
    ∃ first last, (shownSpans p t).head? = some first ∧ (shownSpans p t).getLast? = some last ∧
      c.occurrence p max t = [c.alert ⟨first.start, last.stop⟩ []] := by
  rw [shownSpans_eq h] at hlt ⊢
  unfold occurrence
  split
  · rename_i hshown
    rw [hshown] at hlt
    cases hlt
  · rename_i first rest hshown
    rw [hshown] at hlt ⊢
    exact ⟨first, _, rfl, List.getLast?_eq_some_getLast _, if_neg (Nat.not_le.2 hlt)⟩

/-- What an occurrence check makes of the matches of its pattern. -/
structure Gathers (c : Check) (p : Pattern) (max : Nat) (t : Masked) : Prop where
  /-- The matches are in the order of the text, so that the first of them stands first there. -/
  ordered : (spansOf p t).Pairwise Span.Precedes
  one_iff : (c.occurrence p max t).length = 1 ↔ max < (shownSpans p t).length
  none_iff : c.occurrence p max t = [] ↔ (shownSpans p t).length ≤ max
  /-- The alert goes from the first to the last match that shows, and says what the check says. -/
  alert : ∀ a ∈ c.occurrence p max t, ∃ first last,
    (shownSpans p t).head? = some first ∧ (shownSpans p t).getLast? = some last ∧
      a = { check := c.name.full, severity := c.severity, span := ⟨first.start, last.stop⟩, message := c.message,
            description := c.description, link := c.link }

theorem gathers (h : Ranged t.ranges) (c : Check) (p : Pattern) (max : Nat) : c.Gathers p max t := by
  have hfew (hle : (shownSpans p t).length ≤ max) := occurrence_of_le h c hle
  have hmany (hlt : max < (shownSpans p t).length) := occurrence_of_lt h c hlt
  refine ⟨List.pairwise_map.2 (Pattern.Program.findAll_pairwise _ _), ?_, ?_, fun a ha => ?_⟩
  · rcases Nat.lt_or_ge max (shownSpans p t).length with hlt | hle
    · obtain ⟨_, _, -, -, heq⟩ := hmany hlt
      exact iff_of_true (by rw [heq]; rfl) hlt
    · exact iff_of_false (by rw [hfew hle]; exact Nat.zero_ne_one) (Nat.not_lt.2 hle)
  · rcases Nat.lt_or_ge max (shownSpans p t).length with hlt | hle
    · obtain ⟨_, _, -, -, heq⟩ := hmany hlt
      exact iff_of_false (by rw [heq]; exact List.cons_ne_nil _ _) (Nat.not_le.2 hlt)
    · exact iff_of_true (hfew hle) hle
  · rcases Nat.lt_or_ge max (shownSpans p t).length with hlt | hle
    · obtain ⟨first, last, hfirst, hlast, heq⟩ := hmany hlt
      refine ⟨first, last, hfirst, hlast, ?_⟩
      rw [heq] at ha
      -- Nothing is put into the templates, so they are said as they are.
      rw [List.mem_singleton.1 ha, Check.alert, Template.fill_nil, Template.fill_nil]
    · rw [hfew hle] at ha
      cases ha

/-- What an occurrence check finds can be told from what an existence check of the same pattern finds. -/
structure FollowsFrom (c e : Check) (p : Pattern) (max : Nat) (t : Masked) : Prop where
  some_iff : c.occurrence p max t ≠ [] ↔ max < (e.existence p t).length
  span : ∀ a ∈ c.occurrence p max t, ∃ first last,
    (e.existence p t).head? = some first ∧ (e.existence p t).getLast? = some last ∧
      a.span = ⟨first.span.start, last.span.stop⟩

theorem followsFrom (h : Ranged t.ranges) (hne : ∀ s ∈ spansOf p t, s.start < s.stop) (c e : Check) (max : Nat) :
    c.FollowsFrom e p max t := by
  have hgathers := gathers h c p max
  have hspans := map_span_existence h hne e
  constructor
  · rw [ne_eq, hgathers.none_iff, Nat.not_le, ← hspans, List.length_map]
  · intro a ha
    obtain ⟨first, last, hfirst, hlast, rfl⟩ := hgathers.alert a ha
    rw [← hspans, List.head?_map, Option.map_eq_some_iff] at hfirst
    rw [← hspans, List.getLast?_map, Option.map_eq_some_iff] at hlast
    obtain ⟨b, hb, rfl⟩ := hfirst
    obtain ⟨d, hd, rfl⟩ := hlast
    exact ⟨b, d, hb, hd, rfl⟩

/-- **An occurrence check counts the matches that show.** It raises one alert if there are more than it puts up
with, and else none; the alert goes from the first of them to the last. Where no match is empty, an existence
check of the same pattern raises an alert for each of them. -/
theorem occurrence_gathers (c e : Check) (p : Pattern) (max : Nat) (m : Masker) (text : List Char)
    (format : String) :
    c.Gathers p max (m.mask text format) ∧
      ((∀ s ∈ spansOf p (m.mask text format), s.start < s.stop) → c.FollowsFrom e p max (m.mask text format)) := by
  have h : Ranged (m.mask text format).ranges := (m.rangedIn_ranges text format).toRanged
  exact ⟨gathers h c p max, fun hne => followsFrom h hne c e max⟩

/-- Addresses before, between and after three letters. -/
def lettersAndAddresses : List Char := "ftp://ab a b a ftp://ab a ftp://ab".toList

theorem mask_lettersAndAddresses : Masker.plain.mask lettersAndAddresses "text" =
    .ofRanges lettersAndAddresses [⟨0, 8⟩, ⟨15, 23⟩, ⟨26, 34⟩] := by
  have hfound : (Masker.found lettersAndAddresses urlPattern ++
      Masker.found lettersAndAddresses (Masker.plain.pattern? "text")).filter (!·.isEmpty) =
        [⟨0, 8⟩, ⟨15, 23⟩, ⟨26, 34⟩] := by
    rw [urlPattern_eq]
    decide +kernel
  rw [Masker.mask, Masker.ranges, hfound, Span.sort, List.mergeSort_of_pairwise (by decide)]
  rfl

/-- Of six matches three are masked, and the alert goes from the first to the last of the others. -/
theorem occurrence_gathers_addresses :
    ∃ p, Pattern.ofText? "[*-a]+" = some p ∧
      spansOf p (Masker.plain.mask lettersAndAddresses "text") =
        [⟨0, 8⟩, ⟨9, 10⟩, ⟨13, 14⟩, ⟨15, 23⟩, ⟨24, 25⟩, ⟨26, 34⟩] ∧
      (∀ s ∈ spansOf p (Masker.plain.mask lettersAndAddresses "text"), s.start < s.stop) ∧
      ∀ c e : Check, (c.occurrence p 2 (Masker.plain.mask lettersAndAddresses "text")).map (·.span) = [⟨9, 25⟩] ∧
        c.Gathers p 2 (Masker.plain.mask lettersAndAddresses "text") ∧
        c.FollowsFrom e p 2 (Masker.plain.mask lettersAndAddresses "text") := by
  have hread : (Pattern.ofText? "[*-a]+").map (fun p =>
      let t := Masked.ofRanges lettersAndAddresses [⟨0, 8⟩, ⟨15, 23⟩, ⟨26, 34⟩]
      (spansOf p t, shownSpans p t)) =
      some ([⟨0, 8⟩, ⟨9, 10⟩, ⟨13, 14⟩, ⟨15, 23⟩, ⟨24, 25⟩, ⟨26, 34⟩], [⟨9, 10⟩, ⟨13, 14⟩, ⟨24, 25⟩]) := by
    decide +kernel
  rw [← mask_lettersAndAddresses] at hread
  obtain ⟨p, hp, hspans⟩ := Option.map_eq_some_iff.1 hread
  obtain ⟨hspans, hshown⟩ := Prod.mk.inj hspans
  have hne : ∀ s ∈ spansOf p (Masker.plain.mask lettersAndAddresses "text"), s.start < s.stop := by
    rw [hspans]
    decide
  refine ⟨p, hp, hspans, hne, fun c e => ?_⟩
  obtain ⟨hgathers, hfollows⟩ := occurrence_gathers c e p 2 .plain lettersAndAddresses "text"
  refine ⟨?_, hgathers, hfollows hne⟩
  obtain ⟨a, ha⟩ := List.length_eq_one_iff.1 (hgathers.one_iff.2 (by rw [hshown]; decide))
  obtain ⟨first, last, hfirst, hlast, heq⟩ := hgathers.alert a (by rw [ha]; exact List.mem_singleton_self a)
  rw [hshown] at hfirst hlast
  obtain rfl := Option.some.inj hfirst
  obtain rfl := Option.some.inj hlast
  rw [ha, heq]
  rfl

end Check

end ProseLint
