/-
Where the alerts of checks with patterns stand. The matches are found in the masked copy, but whatever
meets no range of the mask has its ends on boundaries of the text itself (`Span.Clear.fits`). Each
matcher builds the spans of its alerts of such matches in its own way; `Check.located` says for all of
them what the spans are like.
-/
import ProseLint.Check.Run
import ProseLint.Mask.Masker
import ProseLint.Proofs.Mask.Overlap
import ProseLint.Proofs.Rule.Making
import ProseLint.Proofs.Rule.Reading

namespace ProseLint

open Text (Span IsBoundary byteLength)
open Pattern (Match)

/-! ## Spans that meet no range -/

/-- A span meets none of the ranges. -/
def Text.Span.Clear (ranges : List Span) (s : Span) : Prop := ∀ r ∈ ranges, s.stop ≤ r.start ∨ r.stop ≤ s.start

instance (ranges : List Span) (s : Span) : Decidable (s.Clear ranges) :=
  inferInstanceAs (Decidable (∀ r ∈ ranges, s.stop ≤ r.start ∨ r.stop ≤ s.start))

/-- **What counts as not masked meets no range.** -/
theorem Masked.isMasked_eq_false_iff {t : Masked} (h : Ranged t.ranges) {s : Span} :
    t.isMasked s = false ↔ s.Clear t.ranges := by
  rw [← Bool.not_eq_true, isMasked_iff h]
  simp only [not_exists, not_and]
  exact forall₂_congr fun r _ => by omega

theorem Masked.clear_of_isMasked_eq_false {t : Masked} (h : Ranged t.ranges) {s : Span}
    (hs : t.isMasked s = false) : s.Clear t.ranges :=
  (isMasked_eq_false_iff h).1 hs

/-- A span of the copy that meets no range has its ends on boundaries of the text. -/
theorem Text.Span.Clear.fits {text : List Char} {ranges : List Span} (h : RangedIn text ranges) {s : Span}
    (hc : s.Clear ranges) (hs : s.Fits (cover ranges 0 text)) : s.Fits text where
  le := hs.le
  start := isBoundary_of_cover h hs.start fun r hr => by
    have := hc r hr
    have := hs.le
    omega
  stop := isBoundary_of_cover h hs.stop fun r hr => by
    have := hc r hr
    have := hs.le
    omega

namespace Alert

/-- The alerts stand on boundaries of a text, each with its ends in order. -/
def AllFit (text : List Char) (as : List Alert) : Prop := ∀ a ∈ as, a.span.Fits text

def NoneEmpty (as : List Alert) : Prop := ∀ a ∈ as, a.span.start < a.span.stop

/-- No alert meets a range of the mask. -/
def AllClear (ranges : List Span) (as : List Alert) : Prop := ∀ a ∈ as, a.span.Clear ranges

/-- Each alert starts after the one before it, and ends after it. -/
def Rising (as : List Alert) : Prop :=
  as.Pairwise fun a b => a.span.start < b.span.start ∧ a.span.stop < b.span.stop

/-- What the alerts of a check of a kind are like. -/
structure Located (kind : String) (text : List Char) (ranges : List Span) (as : List Alert) : Prop where
  fits : AllFit text as
  nonempty : kind ∈ ["existence", "occurrence", "repetition", "substitution"] → NoneEmpty as
  clear : kind ∈ ["existence", "substitution", "consistency", "conditional"] → AllClear ranges as
  rising : kind ∈ ["existence", "occurrence", "repetition", "substitution", "conditional"] → Rising as

end Alert

open Alert

namespace Check

variable {text : List Char} {ranges : List Span} {c : Check} {p : Pattern}

@[simp] theorem span_alert (c : Check) (s : Span) (args : List (List Char)) : (c.alert s args).span = s := rfl

theorem fits_of_unmasked (h : RangedIn text ranges) {s : Span}
    (hs : s.Fits (Masked.ofRanges text ranges).copy) (hu : (Masked.ofRanges text ranges).isMasked s = false) :
    s.Clear ranges ∧ s.Fits text := by
  have hclear : s.Clear ranges := Masked.clear_of_isMasked_eq_false h.toRanged hu
  exact ⟨hclear, hclear.fits h hs⟩

/-- The spans that a pattern matches follow one another on boundaries of the copy. -/
theorem spansOf_located (p : Pattern) (t : Masked) :
    (∀ s ∈ spansOf p t, s.Fits t.copy) ∧ (spansOf p t).Pairwise Span.Precedes := by
  refine ⟨fun s hs => ?_, List.pairwise_map.2 (Pattern.Program.findAll_pairwise _ _)⟩
  obtain ⟨m, hm, rfl⟩ := List.mem_map.1 hs
  exact (Pattern.Program.within_of_mem_findAll hm).fits

/-! ## Checks that count matches -/

theorem existence_located (h : RangedIn text ranges) (c : Check) (p : Pattern) :
    Located "existence" text ranges (c.existence p (.ofRanges text ranges)) := by
  obtain ⟨hfits, hpair⟩ := spansOf_located p (.ofRanges text ranges)
  have hmem : ∀ a ∈ c.existence p (.ofRanges text ranges),
      a.span.start < a.span.stop ∧ a.span.Clear ranges ∧ a.span.Fits text := by
    intro a ha
    obtain ⟨s, hs, rfl⟩ := List.mem_map.1 ha
    obtain ⟨hs, hkept⟩ := List.mem_filter.1 hs
    obtain ⟨hne, hu⟩ : s.start < s.stop ∧ (Masked.ofRanges text ranges).isMasked s = false := by
      simpa [Span.isEmpty] using hkept
    exact ⟨hne, fits_of_unmasked h (hfits s hs) hu⟩
  refine ⟨fun a ha => (hmem a ha).2.2, fun _ a ha => (hmem a ha).1, fun _ a ha => (hmem a ha).2.1, fun _ => ?_⟩
  exact List.pairwise_map.2 ((hpair.filter _).imp fun hab => ⟨hab.start_lt, hab.stop_lt⟩)

/-- The span from the first to the last of spans that follow one another is theirs. -/
theorem span_of_first_last {text : List Char} {first : Span} {rest : List Span} (hne : rest ≠ [])
    (hfits : ∀ s ∈ first :: rest, s.Fits text) (hpair : (first :: rest).Pairwise Span.Precedes) :
    (Span.mk first.start ((first :: rest).getLast (by simp)).stop).Fits text ∧
      first.start < ((first :: rest).getLast (by simp)).stop := by
  have hmem : rest.getLast hne ∈ rest := List.getLast_mem hne
  have hlast := hfits _ (List.mem_cons_of_mem _ hmem)
  have hfirst := hfits first (by simp)
  have hstop := ((List.pairwise_cons.1 hpair).1 _ hmem).stop_lt
  have hle := hfirst.le
  rw [List.getLast_cons hne]
  exact ⟨⟨by simp only; omega, hfirst.start, hlast.stop⟩, by omega⟩

theorem occurrence_located (h : RangedIn text ranges) (c : Check) (p : Pattern) {max : Nat} (hmax : 1 ≤ max) :
    Located "occurrence" text ranges (c.occurrence p max (.ofRanges text ranges)) := by
  obtain ⟨hfits, hpair⟩ := spansOf_located p (.ofRanges text ranges)
  have hkept : ∀ s ∈ (spansOf p (.ofRanges text ranges)).filter fun s => !(Masked.ofRanges text ranges).isMasked s,
      s.Fits text := by
    intro s hs
    obtain ⟨hs, hu⟩ := List.mem_filter.1 hs
    exact (fits_of_unmasked h (hfits s hs) (by simpa using hu)).2
  have hpair := hpair.filter fun s => !(Masked.ofRanges text ranges).isMasked s
  unfold occurrence
  split
  · exact ⟨by simp [AllFit], by simp [NoneEmpty], by simp, fun _ => .nil⟩
  · rename_i first rest hspans
    rw [hspans] at hkept hpair
    split
    · exact ⟨by simp [AllFit], by simp [NoneEmpty], by simp, fun _ => .nil⟩
    · rename_i hmany
      have hrest : rest ≠ [] := by
        rintro rfl
        simp at hmany
        omega
      obtain ⟨hfit, hlt⟩ := span_of_first_last hrest hkept hpair
      exact ⟨by simpa [AllFit] using hfit, fun _ => by simpa [NoneEmpty] using hlt, by simp,
        fun _ => List.pairwise_singleton _ _⟩

/-- What is known of a streak before the matches that may go on with it: once something has been said,
it starts on a boundary of the text, before all of them. -/
def Streak.Before (text : List Char) (ms : List Match) (r : Streak) : Prop :=
  r.said ≠ [] → IsBoundary text r.start ∧ ∀ m ∈ ms, r.start < m.span.start

/-- What the alerts of a streak are like: each starts with the streak or with one of the matches, and
ends with one of the matches. -/
structure Streak.Raises (text : List Char) (ms : List Match) (r : Streak) (as : List Alert) : Prop where
  fits : AllFit text as
  nonempty : NoneEmpty as
  rising : Rising as
  start : ∀ a ∈ as, (r.said ≠ [] ∧ a.span.start = r.start) ∨ ∃ m ∈ ms, a.span.start = m.span.start
  stop : ∀ a ∈ as, ∃ m ∈ ms, a.span.stop = m.span.stop

/-- A streak that starts with a match, among the matches from there on. -/
theorem Streak.Raises.cons {ms : List Match} {m : Match} {r s : Streak} {as : List Alert}
    (h : s.Raises text ms as) (hs : s.said = [] ∨ s.start = m.span.start ∨ (s.start = r.start ∧ r.said ≠ [])) :
    r.Raises text (m :: ms) as where
  fits := h.fits
  nonempty := h.nonempty
  rising := h.rising
  start a ha := by
    rcases h.start a ha with ⟨hsaid, heq⟩ | ⟨n, hn, heq⟩
    · rcases hs with hs | hs | ⟨hs, hr⟩
      · exact absurd hs hsaid
      · exact .inr ⟨m, by simp, heq.trans hs⟩
      · exact .inl ⟨hr, heq.trans hs⟩
    · exact .inr ⟨n, List.mem_cons_of_mem _ hn, heq⟩
  stop a ha := by
    obtain ⟨n, hn, heq⟩ := h.stop a ha
    exact ⟨n, List.mem_cons_of_mem _ hn, heq⟩

theorem repetitionFrom_raises (h : RangedIn text ranges) (c : Check) (max : Nat) :
    ∀ {ms : List Match} {r : Streak}, (∀ m ∈ ms, m.span.Fits (Masked.ofRanges text ranges).copy) →
      (ms.Pairwise fun m n => m.span.Precedes n.span) → r.Before text ms →
      r.Raises text ms (repetitionFrom c max (.ofRanges text ranges) r ms)
  | [], r, _, _, _ => ⟨by simp [AllFit, repetitionFrom], by simp [NoneEmpty, repetitionFrom], .nil,
      by simp [repetitionFrom], by simp [repetitionFrom]⟩
  | m :: ms, r, hfits, hpair, hr => by
    obtain ⟨hm, hms⟩ := List.forall_mem_cons.1 hfits
    obtain ⟨hbefore, hpair⟩ := List.pairwise_cons.1 hpair
    simp only [repetitionFrom]
    split
    · exact (repetitionFrom_raises h c max hms hpair fun hne => absurd rfl hne).cons (.inl rfl)
    · rename_i hu
      have hfit := (fits_of_unmasked h hm (by simpa using hu)).2
      have hnext : ∀ said n, (Streak.mk said m.span.start n).Before text ms :=
        fun said n _ => ⟨hfit.start, fun k hk => (hbefore k hk).start_lt⟩
      split
      · rename_i hgoes
        have hsaid : r.said ≠ [] := by
          simp only [Streak.goesOn, Bool.and_eq_true, beq_iff_eq, Bool.not_eq_true', List.isEmpty_eq_false_iff] at hgoes
          exact hgoes.2 ▸ hgoes.1
        obtain ⟨hstart, hlt⟩ := hr hsaid
        split
        · have htail := repetitionFrom_raises h c max hms hpair (hnext (Unicode.trim m.text) 0)
          have hrm := hlt m (by simp)
          have hle := hfit.le
          have hspan : (Span.mk r.start m.span.stop).Fits text := ⟨by simp only; omega, hstart, hfit.stop⟩
          have hcons : r.Raises text (m :: ms) _ := htail.cons (.inr (.inl rfl))
          refine ⟨List.forall_mem_cons.2 ⟨hspan, hcons.fits⟩,
            List.forall_mem_cons.2 ⟨by simp only [span_alert]; omega, hcons.nonempty⟩,
            List.pairwise_cons.2 ⟨fun a ha => ?_, hcons.rising⟩,
            List.forall_mem_cons.2 ⟨.inl ⟨hsaid, rfl⟩, hcons.start⟩,
            List.forall_mem_cons.2 ⟨⟨m, by simp, rfl⟩, hcons.stop⟩⟩
          obtain ⟨k, hk, hstop⟩ := htail.stop a ha
          have hmk := hbefore k hk
          constructor
          · rcases htail.start a ha with ⟨-, heq⟩ | ⟨n, hn, heq⟩
            · simp only [span_alert, heq]
              omega
            · have := (hbefore n hn).start_lt
              simp only [span_alert, heq]
              omega
          · simp only [span_alert, hstop]
            exact hmk.stop_lt
        · have hgo : (Streak.mk (Unicode.trim m.text) r.start (r.count + 1)).Before text ms :=
            fun _ => ⟨hstart, fun n hn => hlt n (List.mem_cons_of_mem _ hn)⟩
          exact (repetitionFrom_raises h c max hms hpair hgo).cons (.inr (.inr ⟨rfl, hsaid⟩))
      · exact (repetitionFrom_raises h c max hms hpair (hnext _ _)).cons (.inr (.inl rfl))

theorem repetition_located (h : RangedIn text ranges) (c : Check) (p : Pattern) (max : Nat) :
    Located "repetition" text ranges (c.repetition p max (.ofRanges text ranges)) := by
  have hraises := repetitionFrom_raises h c max
    (fun m hm => (Pattern.Program.within_of_mem_findAll hm).fits)
    (Pattern.Program.findAll_pairwise p.program (Masked.ofRanges text ranges).copy)
    (r := .broken 0) fun hne => absurd rfl hne
  exact ⟨hraises.fits, fun _ => hraises.nonempty, by simp, fun _ => hraises.rising⟩

theorem group?_of_takenGroup? {m : Match} {i : Nat} {s : Span} (h : takenGroup? p m = some (i, s)) :
    m.group? i = some s ∧ s.start < s.stop := by
  obtain ⟨j, -, hj⟩ := List.exists_of_findSome?_eq_some h
  obtain ⟨s', hs', heq⟩ := Option.map_eq_some_iff.1 hj
  obtain ⟨rfl, rfl⟩ := Prod.mk.inj heq
  obtain ⟨hgroup, hne⟩ := Option.filter_eq_some_iff.1 hs'
  exact ⟨hgroup, by simpa [Span.isEmpty] using hne⟩

/-- An alert of a substitution stands on a group of a match. -/
theorem exists_of_mem_substitution {t : Masked} {reps : List String} {m : Match} {a : Alert}
    (h : (do
      let (i, s) ← takenGroup? p m
      if t.isMasked s then none
      else
        let replacement ← reps[i - 1]?
        return c.alert s [replacement.toList, t.slice s]) = some a) :
    ∃ i rep, takenGroup? p m = some (i, a.span) ∧ t.isMasked a.span = false ∧ reps[i - 1]? = some rep ∧
      a = c.alert a.span [rep.toList, t.slice a.span] := by
  obtain ⟨⟨i, s⟩, htaken, h⟩ := Option.bind_eq_some_iff.1 h
  simp only at h
  split at h
  · cases h
  · rename_i hu
    obtain ⟨rep, hrep, ha⟩ := Option.bind_eq_some_iff.1 h
    obtain rfl := Option.some.inj ha
    exact ⟨i, rep, htaken, by simpa using hu, hrep, rfl⟩

theorem substitution_located (h : RangedIn text ranges) (c : Check) (p : Pattern) (reps : List String) :
    Located "substitution" text ranges (c.substitution p reps (.ofRanges text ranges)) := by
  have hmem : ∀ a ∈ c.substitution p reps (.ofRanges text ranges),
      a.span.start < a.span.stop ∧ a.span.Clear ranges ∧ a.span.Fits text := by
    intro a ha
    obtain ⟨m, hm, hf⟩ := List.mem_filterMap.1 ha
    obtain ⟨i, rep, htaken, hu, -, -⟩ := exists_of_mem_substitution hf
    obtain ⟨hgroup, hne⟩ := group?_of_takenGroup? htaken
    obtain ⟨-, -, hfits⟩ := (Pattern.Program.within_of_mem_findAll hm).groups i _ hgroup
    exact ⟨hne, fits_of_unmasked h hfits hu⟩
  refine ⟨fun a ha => (hmem a ha).2.2, fun _ a ha => (hmem a ha).1, fun _ a ha => (hmem a ha).2.1, fun _ => ?_⟩
  refine List.pairwise_filterMap.2 ((Pattern.Program.findAll_pairwise p.program _).imp_of_mem ?_)
  intro m n hm hn hmn a ha b hb
  obtain ⟨i, -, hi, -⟩ := exists_of_mem_substitution ha
  obtain ⟨j, -, hj, -⟩ := exists_of_mem_substitution hb
  obtain ⟨hgi, hai⟩ := group?_of_takenGroup? hi
  obtain ⟨hgj, hbj⟩ := group?_of_takenGroup? hj
  obtain ⟨-, hastop, -⟩ := (Pattern.Program.within_of_mem_findAll hm).groups i _ hgi
  obtain ⟨hbstart, -, -⟩ := (Pattern.Program.within_of_mem_findAll hn).groups j _ hgj
  have := hmn.stop_le
  omega

/-! ## Checks that note -/

/-- An alert of a consistency rule stands on a group of a match that is not masked. -/
def OnGroup (t : Masked) (ms : List Match) (a : Alert) : Prop :=
  t.isMasked a.span = false ∧ ∃ m ∈ ms, ∃ i, m.group? i = some a.span

theorem exists_group?_of_used? {v : Variants} {m : Match} {name : String} {s : Span}
    (h : v.used? m = some (name, s)) : ∃ i, m.group? i = some s := by
  unfold Variants.used? at h
  split at h
  · rename_i s' hs'
    obtain ⟨-, rfl⟩ := Prod.mk.inj (Option.some.inj h)
    obtain ⟨i, -, hi⟩ := Option.bind_eq_some_iff.1 hs'
    exact ⟨i, hi⟩
  · obtain ⟨s', hs', heq⟩ := Option.map_eq_some_iff.1 h
    obtain ⟨-, rfl⟩ := Prod.mk.inj heq
    obtain ⟨i, -, hi⟩ := Option.bind_eq_some_iff.1 hs'
    exact ⟨i, hi⟩

theorem notePair_onGroup {t : Masked} {m : Match} {ctx : Context} {v : Variants} {a : Alert}
    (h : (c.notePair t m ctx v).1 = some a) : OnGroup t [m] a := by
  unfold notePair at h
  split at h
  · cases h
  · rename_i name s hused
    split at h
    · cases h
    · rename_i hu
      simp only at h
      split at h
      · obtain rfl := Option.some.inj h
        exact ⟨by simpa using hu, m, by simp, exists_group?_of_used? hused⟩
      · cases h

theorem notePairs_onGroup {t : Masked} {m : Match} {ctx : Context} {vs : List Variants} {a : Alert}
    (h : a ∈ (c.notePairs t m ctx vs).1) : OnGroup t [m] a := by
  induction vs generalizing ctx with
  | nil => cases h
  | cons v vs ih =>
    rcases List.mem_append.1 h with h | h
    · exact notePair_onGroup (Option.mem_toList.1 h)
    · exact ih h

theorem noteMatches_onGroup {t : Masked} {ms : List Match} {ctx : Context} {vs : List Variants} {a : Alert}
    (h : a ∈ (c.noteMatches t vs ctx ms).1) : OnGroup t ms a := by
  induction ms generalizing ctx with
  | nil => cases h
  | cons m ms ih =>
    rcases List.mem_append.1 h with h | h
    · obtain ⟨hu, n, hn, i, hi⟩ := notePairs_onGroup h
      exact ⟨hu, m, by simp, i, List.mem_singleton.1 hn ▸ hi⟩
    · obtain ⟨hu, n, hn, i, hi⟩ := ih h
      exact ⟨hu, n, List.mem_cons_of_mem _ hn, i, hi⟩

theorem consistency_located (h : RangedIn text ranges) (c : Check) (p : Pattern)
    (pairs : List (String × String)) (ctx : Context) :
    Located "consistency" text ranges (c.consistency p pairs (.ofRanges text ranges) ctx).1 := by
  have hmem : ∀ a ∈ (c.consistency p pairs (.ofRanges text ranges) ctx).1,
      a.span.Clear ranges ∧ a.span.Fits text := by
    intro a ha
    obtain ⟨hu, m, hm, i, hi⟩ := noteMatches_onGroup ha
    exact fits_of_unmasked h ((Pattern.Program.within_of_mem_findAll hm).groups i _ hi).2.2 hu
  exact ⟨fun a ha => (hmem a ha).2, by simp, fun _ a ha => (hmem a ha).1, by simp⟩

theorem conditional_located (h : RangedIn text ranges) (c : Check) (antecedent consequent : Pattern)
    (exceptions : List String) (ctx : Context) :
    Located "conditional" text ranges
      (c.conditional antecedent consequent exceptions (.ofRanges text ranges) ctx).1 := by
  have hmem : ∀ a ∈ (c.conditional antecedent consequent exceptions (.ofRanges text ranges) ctx).1,
      a.span.Clear ranges ∧ a.span.Fits text := by
    intro a ha
    obtain ⟨m, hm, rfl⟩ := List.mem_map.1 ha
    obtain ⟨hm, hflagged⟩ := List.mem_filter.1 hm
    rw [Bool.and_eq_true, Bool.not_eq_true'] at hflagged
    exact fits_of_unmasked h (Pattern.Program.within_of_mem_findAll hm).fits hflagged.1
  refine ⟨fun a ha => (hmem a ha).2, by simp, fun _ a ha => (hmem a ha).1, fun _ => ?_⟩
  exact List.pairwise_map.2 (((Pattern.Program.findAll_pairwise consequent.program _).filter _).imp
    fun hab => ⟨hab.start_lt, hab.stop_lt⟩)

end Check

/-! ## Checks of definitions -/

/-- An occurrence rule that has been read allows one match or more. -/
theorem Definition.one_le_max {name : CheckName} {toml : String} {d : Definition} {token : String} {max : Nat}
    (h : Definition.ofToml name toml = .ok d) (hkind : d.kind = .occurrence token max) : 1 ≤ max := by
  obtain ⟨r, -, htakes⟩ := exists_record h
  rw [hkind] at htakes
  exact htakes.2.2

open Alert in
/-- **The alerts of a check stand on boundaries of the text.** They meet the mask only where the check
takes several matches together, and follow one another but for those that note pairs. -/
theorem Check.located {name : CheckName} {toml : String} {d : Definition} {stylesPath : Option String}
    {fs : Files} {c : Check} (hread : Definition.ofToml name toml = .ok d)
    (hcompile : d.compile stylesPath fs = .ok c) (hkind : c.matcher.kindName ≠ "script") (m : Masker)
    (text : List Char) (format : String) (ctx : Context) (host : ScriptHost) :
    Located c.matcher.kindName text (m.mask text format).ranges (c.run (m.mask text format) ctx host).1 := by
  have h := m.rangedIn_ranges text format
  obtain ⟨-, hmakes⟩ := Definition.makes_of_compile hcompile
  have hmask : m.mask text format = .ofRanges text (m.ranges text format) := rfl
  rw [hmask]
  unfold Check.run
  cases hm : c.matcher with
  | existence p => exact c.existence_located h p
  | occurrence p max =>
    rw [hm] at hmakes
    obtain ⟨token, hd, -⟩ := hmakes
    exact c.occurrence_located h p (Definition.one_le_max hread hd)
  | repetition p max => exact c.repetition_located h p max
  | substitution p reps => exact c.substitution_located h p reps
  | consistency p pairs => exact c.consistency_located h p pairs ctx
  | conditional antecedent consequent exceptions =>
    exact c.conditional_located h antecedent consequent exceptions ctx
  | script runtime path => exact absurd (by rw [hm]; rfl) hkind

def sampleToml : String := "extends = 'existence'\ntokens = ['foo']\nnonword = true\n"

def sampleName : CheckName := ⟨"Sample", "Foo", by decide +kernel, by decide +kernel⟩

def sampleRule : Definition where
  name := sampleName
  message := ""
  description := ""
  severity := .suggestion
  scope := "text"
  link := none
  ignoreCase := false
  negate := false
  kind := .existence ["foo"] [] true

/-- A text with an address of letters that take two bytes, and `foo` in it and after it. -/
def umlautText : List Char := "zur ftp://käse.de/foo führt foo".toList

/-- The rule that looks for `foo` finds it where it stands in the text, and not in the address. -/
theorem Check.located_sampleRule :
    ∃ d c, Definition.ofToml sampleName sampleToml = .ok d ∧ d.compile none .empty = .ok c ∧
      c.matcher.kindName ≠ "script" ∧
      let t := Masker.plain.mask umlautText "text"
      let as := (c.run t (.fresh "text") ⟨fun _ => .error .malformedOutput, 0⟩).1
      t.ranges = [⟨4, 22⟩] ∧ as.map (·.span) = [⟨30, 33⟩] ∧ Alert.Located c.matcher.kindName umlautText t.ranges as := by
  have hrecord : RuleRecord.ofToml? sampleToml =
      some { kind := some "existence", tokens := ["foo"], nonword := true } := by decide +kernel
  have hread : Definition.ofToml sampleName sampleToml = .ok sampleRule := by
    rw [Definition.ofToml, hrecord]
    rfl
  have hranges : Masker.plain.ranges umlautText "text" = [⟨4, 22⟩] := by
    simp only [Masker.ranges, urlPattern_eq]
    decide +kernel
  have hfound : (sampleRule.compile none .empty).toOption.map (fun c => (c.matcher.kindName,
      (c.run (.ofRanges umlautText [⟨4, 22⟩]) (.fresh "text") ⟨fun _ => .error .malformedOutput, 0⟩).1.map (·.span))) =
      some ("existence", [⟨30, 33⟩]) := by
    decide +kernel
  have hmask : Masker.plain.mask umlautText "text" = .ofRanges umlautText [⟨4, 22⟩] := by
    rw [Masker.mask, hranges]
  cases hc : sampleRule.compile none .empty with
  | error e => simp [hc, Except.toOption] at hfound
  | ok c =>
    rw [hc] at hfound
    obtain ⟨hexistence, hspans⟩ := Prod.mk.inj (Option.some.inj hfound)
    have hne : c.matcher.kindName ≠ "script" := by
      rw [hexistence]
      decide
    exact ⟨sampleRule, c, hread, hc, hne, hranges, hmask ▸ hspans, Check.located hread hc hne .plain _ _ _ _⟩

end ProseLint
