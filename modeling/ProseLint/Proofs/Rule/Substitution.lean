/-
Which replacement a substitution rule recommends. A check of such a rule counts groups to find the
replacement of an entry; an entry recommends a replacement of its own when its pattern, alone in a rule,
finds what is flagged (`Definition.Recommends`).
-/
import ProseLint.Check.Run
import ProseLint.Mask.Masker
import ProseLint.Proofs.Mask.Exact
import ProseLint.Proofs.Rule.Making

namespace ProseLint

open Text (Span)
open Pattern (Place)
open Rule

/-- A search of a text from an offset on finds a span. -/
def Pattern.Finds (q : Pattern) (text : List Char) (offset : Nat) (s : Span) : Prop :=
  ∃ p m stop, Place.In text p ∧ p.offset = offset ∧ q.program.search p = some (m, stop) ∧ m.span = s

/-- A search finds what it comes to. -/
theorem Pattern.finds_of_finish? {q : Pattern} {text : List Char} {place : Place} {f : Pattern.Finish}
    (hin : place.In text) (h : q.program.finish? place = some f) : q.Finds text place.offset f.span :=
  ⟨place, .ofFinish f, f.place, hin, rfl, by rw [Program.search_eq, h, Option.map_some], rfl⟩

namespace Definition

/-- The pattern of an entry that is alone in its rule. -/
def entryPattern? (d : Definition) (nonword : Bool) (e : String × String) : Option Pattern :=
  Pattern.ofText? (d.substitutionSource [e] nonword)

/-- An alert recommends the replacement of an entry that, alone in its rule, finds what is flagged. -/
structure Recommends (d : Definition) (nonword : Bool) (c : Check) (t : Masked) (a : Alert)
    (e : String × String) : Prop where
  finds : ∃ q, d.entryPattern? nonword e = some q ∧ q.Finds t.copy a.span.start a.span
  flags : a = c.alert a.span [e.2.toList, t.slice a.span]

/-! ## A group that is dropped -/

/-- Entries of which the first has a group that is repeated no times. -/
def droppedSwap : List (String × String) := [("(a)\x7b0\x7db", "x"), ("c", "y"), ("d", "z")]

theorem isSegment_t : isSegment "T" = true := by decide +kernel

theorem isSegment_s : isSegment "S" = true := by decide +kernel

def droppedRule : Definition where
  name := ⟨"T", "S", isSegment_t, by decide +kernel⟩
  message := "%s for %s"
  description := ""
  severity := .suggestion
  scope := "text"
  link := none
  ignoreCase := false
  negate := false
  kind := .substitution droppedSwap true

def droppedCheck (p : Pattern) : Check where
  name := droppedRule.name
  severity := droppedRule.severity
  scope := droppedRule.scope
  message := droppedRule.message
  description := droppedRule.description
  link := droppedRule.link
  matcher := .substitution p (droppedSwap.map (·.2))

theorem usable_droppedSwap : usable droppedSwap = droppedSwap := by decide +kernel

theorem compile_droppedRule {p : Pattern}
    (h : Pattern.ofText? (droppedRule.substitutionSource droppedSwap true) = some p) :
    droppedRule.compile none .empty = .ok (droppedCheck p) := by
  have hmatcher : droppedRule.matcher none .empty = .ok (.substitution p (droppedSwap.map (·.2))) := by
    have hkind : droppedRule.kind = .substitution droppedSwap true := rfl
    simp only [matcher, hkind, usable_droppedSwap]
    rw [droppedSwap] at h ⊢
    simp only [pattern, h]
    rfl
  rw [compile, hmatcher]
  rfl

/-- A text with something for each entry of the rule. -/
def lettersText : List Char := "b c d".toList

theorem mask_lettersText : Masker.plain.mask lettersText "text" = .unmasked lettersText := by
  refine Masker.mask_eq_unmasked fun s hs => ?_
  have hnone : Masker.found lettersText urlPattern = [] := by
    rw [urlPattern_eq]
    decide +kernel
  rw [hnone] at hs
  cases hs

/-- The place of the second letter. -/
def secondLetter : Place := ⟨some ' ', 2, "c d".toList⟩

theorem secondLetter_in : secondLetter.In lettersText := ⟨"b ".toList, rfl, rfl, rfl⟩

/-- The second letter with the replacement of the third entry. -/
def mispaired (p : Pattern) : Alert := (droppedCheck p).alert ⟨2, 3⟩ ["z".toList, "c".toList]

/-- No entry recommends the replacement of the third entry for the second letter: the first two have
other replacements, and the third finds something else. -/
theorem not_recommends_mispaired (p : Pattern) {e : String × String} (he : e ∈ droppedSwap) :
    ¬ droppedRule.Recommends true (droppedCheck p) (.unmasked lettersText) (mispaired p) e := by
  rintro ⟨⟨q, hq, hfinds⟩, hflags⟩
  have hmessage : Template.fill "%s for %s" ["z".toList, "c".toList] =
      Template.fill "%s for %s" [e.2.toList, "c".toList] := congrArg Alert.message hflags
  simp only [droppedSwap, List.mem_cons, List.not_mem_nil, or_false] at he
  rcases he with rfl | rfl | rfl
  · exact absurd hmessage (by decide +kernel)
  · exact absurd hmessage (by decide +kernel)
  · obtain ⟨place, m, stop, hin, hoffset, hsearch, hspan⟩ := hfinds
    obtain rfl := hin.eq_of_offset secondLetter_in hoffset
    have hthird : (droppedRule.entryPattern? true ("d", "z")).map
        (fun q => (q.program.search secondLetter).map (·.1.span)) = some (some ⟨4, 5⟩) := by decide +kernel
    rw [hq, Option.map_some, hsearch, Option.map_some, hspan] at hthird
    have hstart : 2 = 4 := congrArg Span.start (Option.some.inj (Option.some.inj hthird))
    exact absurd hstart (by decide)

/-- **A group that is repeated no times is counted all the same.** The pattern has more groups than there
are replacements, and what the second entry finds is flagged with the replacement of the third. -/
theorem substitution_mispaired :
    ∃ c p replacements, droppedRule.compile none .empty = .ok c ∧ c.matcher = .substitution p replacements ∧
      p.groupCount ≠ replacements.length ∧
      ∃ a ∈ c.substitution p replacements (Masker.plain.mask lettersText "text"),
        ∀ e ∈ droppedSwap,
          ¬ droppedRule.Recommends true c (Masker.plain.mask lettersText "text") a e := by
  have hread : (Pattern.ofText? (droppedRule.substitutionSource droppedSwap true)).isSome := by decide +kernel
  have hruns : (Pattern.ofText? (droppedRule.substitutionSource droppedSwap true)).all (fun p =>
      p.groupCount = 4 ∧
        mispaired p ∈ (droppedCheck p).substitution p (droppedSwap.map (·.2)) (.unmasked lettersText)) = true := by
    decide +kernel
  obtain ⟨p, hp⟩ := Option.isSome_iff_exists.1 hread
  rw [hp, Option.all_some, decide_eq_true_iff] at hruns
  obtain ⟨hcount, hmem⟩ := hruns
  refine ⟨droppedCheck p, p, _, compile_droppedRule hp, rfl, ?_, mispaired p, ?_, fun e he => ?_⟩
  · rw [hcount]
    decide
  · rw [mask_lettersText]
    exact hmem
  · rw [mask_lettersText]
    exact not_recommends_mispaired p he

end Definition

end ProseLint
