/-
What a check takes from a text that is masked. A check with a pattern looks at the masked copy and at the
ranges, and comes to findings; only the alerts of these quote the text itself (`Check.run_eq_findings`).
All that is quoted meets no range, so it stands in the copy as it does in the text, and what the ranges
hide shows nowhere (`Check.run_blind`).
-/
import ProseLint.Proofs.Check.Located

namespace ProseLint

open Text (Span IsBoundary byteLength)
open Pattern (Match)
open Unicode (trim)

/-! ## Slices outside the ranges -/

/-- A span that meets no range holds the same in the text and in the copy. -/
theorem Text.Span.Clear.slice {text : List Char} {ranges : List Span} (h : RangedIn text ranges) {s : Span}
    (hc : s.Clear ranges) (hs : s.Fits (cover ranges 0 text)) :
    ∃ cs, Text.slice? text s = some cs ∧ Text.slice? (cover ranges 0 text) s = some cs := by
  have hfits := hc.fits h hs
  have hle := hfits.le
  obtain ⟨pre, post, htext, hpre⟩ := hfits.start
  obtain ⟨pre', post', htext', hpre'⟩ := hfits.stop
  obtain ⟨mid, rfl, rfl⟩ := Text.prefix_of_byteLength_le (htext.symm.trans htext') (by omega)
  have hfree : veil (Held ranges) (byteLength pre) mid = mid := by
    refine veil_eq_self fun i hi hlt => ?_
    rw [← Text.byteLength_append] at hlt
    rintro ⟨r, hr, hri, hir⟩
    have := hc r hr
    omega
  have hcover : cover ranges 0 text =
      veil (Held ranges) 0 pre ++ mid ++ veil (Held ranges) (byteLength (pre ++ mid)) post' := by
    rw [cover_eq_veil h.toRanged, htext', veil_append, veil_append, Nat.zero_add, Nat.zero_add, hfree]
  refine ⟨mid, Text.slice?_eq_some.2 ⟨pre, post', htext', hpre, hpre'⟩, Text.slice?_eq_some.2 ?_⟩
  refine ⟨veil (Held ranges) 0 pre, _, hcover, ?_, ?_⟩
  · rw [byteLength_veil, hpre]
  · rw [Text.byteLength_append, byteLength_veil, ← Text.byteLength_append, hpre']

/-- A match that is not masked says what stands in the text. -/
theorem Check.slice_of_unmasked {text : List Char} {ranges : List Span} (h : RangedIn text ranges) {m : Match}
    (hm : m.Within (Masked.ofRanges text ranges).copy) (hu : (Masked.ofRanges text ranges).isMasked m.span = false) :
    Text.slice? text m.span = some m.text := by
  obtain ⟨said, htext, hcopy⟩ := (Masked.clear_of_isMasked_eq_false h.toRanged hu).slice h hm.fits
  rw [htext, ← hcopy]
  exact hm.slice

/-- Text and copy hold the same in a span, which cuts no character of either. -/
def Masked.Shows (t : Masked) (s : Span) : Prop :=
  ∃ cs, Text.slice? t.text s = some cs ∧ Text.slice? t.copy s = some cs

theorem Masked.Shows.slice_eq {t t' : Masked} {s : Span} (h : t.Shows s) (h' : t'.Shows s)
    (hcopy : t.copy = t'.copy) : t.slice s = t'.slice s := by
  obtain ⟨cs, htext, hcs⟩ := h
  obtain ⟨cs', htext', hcs'⟩ := h'
  obtain rfl : cs = cs' := Option.some.inj (hcs.symm.trans (hcopy ▸ hcs'))
  simp only [Masked.slice, htext, htext']

/-! ## Findings -/

/-- Something that a check flags: where the alert stands, what is said before the quote, and the span that
is quoted, if one is, with or without the blanks around it. -/
structure Finding where
  span : Span
  said : List (List Char)
  quoted : Option Span
  trimmed : Bool
  deriving DecidableEq, Repr

namespace Finding

def ofSpan (s : Span) : Finding := ⟨s, [], some s, false⟩

/-- The alert of a finding, which quotes what `quote` answers. -/
def alert (c : Check) (quote : Span → List Char) (f : Finding) : Alert :=
  c.alert f.span (f.said ++ (f.quoted.map fun s => if f.trimmed then trim (quote s) else quote s).toList)

theorem alert_congr {c : Check} {quote quote' : Span → List Char} {f : Finding}
    (h : ∀ s ∈ f.quoted, quote s = quote' s) : f.alert c quote = f.alert c quote' := by
  have hquotes : (f.quoted.map fun s => if f.trimmed then trim (quote s) else quote s) =
      f.quoted.map fun s => if f.trimmed then trim (quote' s) else quote' s :=
    Option.map_congr fun s hs => by rw [h s hs]
  rw [alert, alert, hquotes]

end Finding

namespace Check

def existenceFindings (p : Pattern) (t : Masked) : List Finding :=
  ((spansOf p t).filter fun s => !s.isEmpty && !t.isMasked s).map .ofSpan

/-- What an occurrence check finds. It quotes nothing. -/
def occurrenceFindings (p : Pattern) (max : Nat) (t : Masked) : List Finding :=
  match (spansOf p t).filter fun s => !t.isMasked s with
  | [] => []
  | first :: rest =>
    if rest.length + 1 ≤ max then []
    else [⟨⟨first.start, ((first :: rest).getLast (List.cons_ne_nil first rest)).stop⟩, [], none, false⟩]

/-- What a repetition check finds from a streak on. The match that makes it too long is quoted. -/
def repetitionFindingsFrom (max : Nat) (t : Masked) : Streak → List Match → List Finding
  | _, [] => []
  | r, m :: ms =>
    if t.isMasked m.span then repetitionFindingsFrom max t (.broken r.start) ms
    else
      let said := trim m.text
      if r.goesOn said then
        if max < r.count + 1 then
          ⟨⟨r.start, m.span.stop⟩, [], some m.span, true⟩ ::
            repetitionFindingsFrom max t ⟨said, m.span.start, 0⟩ ms
        else repetitionFindingsFrom max t ⟨said, r.start, r.count + 1⟩ ms
      else repetitionFindingsFrom max t ⟨said, m.span.start, 0⟩ ms

def substitutionFinding? (p : Pattern) (replacements : List String) (t : Masked) (m : Match) :
    Option Finding := do
  let (i, s) ← takenGroup? p m
  if t.isMasked s then none
  else
    let replacement ← replacements[i - 1]?
    return ⟨s, [replacement.toList], some s, false⟩

/-- What a consistency check finds in a match by one pair, and the context after it. -/
def pairFinding (t : Masked) (m : Match) (ctx : Context) (v : Variants) : Option Finding × Context :=
  match v.used? m with
  | none => (none, ctx)
  | some (name, s) =>
    if t.isMasked s then (none, ctx)
    else
      let after := ctx.push name
      (if !v.complete ctx && v.complete after then some (.ofSpan s) else none, after)

def pairFindings (t : Masked) (m : Match) : Context → List Variants → List Finding × Context
  | ctx, [] => ([], ctx)
  | ctx, v :: vs =>
    let (finding, ctx) := pairFinding t m ctx v
    let (findings, ctx) := pairFindings t m ctx vs
    (finding.toList ++ findings, ctx)

def matchFindings (t : Masked) (pairs : List Variants) : Context → List Match → List Finding × Context
  | ctx, [] => ([], ctx)
  | ctx, m :: ms =>
    let (findings, ctx) := pairFindings t m ctx pairs
    let (more, ctx) := matchFindings t pairs ctx ms
    (findings ++ more, ctx)

/-- What a conditional check finds, and the context with what is defined. -/
def conditionalFindings (antecedent consequent : Pattern) (exceptions : List String) (t : Masked)
    (ctx : Context) : List Finding × Context :=
  let ctx := ((antecedent.findAll t.copy).filterMap (defined? t)).foldl Context.push ctx
  let excepted : Std.HashSet String := .ofList exceptions
  let isFlagged (m : Match) : Bool :=
    let said := String.ofList m.text
    !t.isMasked m.span && (!ctx.contains said && !excepted.contains said)
  (((consequent.findAll t.copy).filter isFlagged).map fun m => .ofSpan m.span, ctx)

/-- What a check with patterns finds, and the context after it. -/
def findings (c : Check) (t : Masked) (ctx : Context) : List Finding × Context :=
  match c.matcher with
  | .existence p => (existenceFindings p t, ctx)
  | .occurrence p max => (occurrenceFindings p max t, ctx)
  | .repetition p max => (repetitionFindingsFrom max t (.broken 0) (p.findAll t.copy), ctx)
  | .substitution p replacements =>
    ((p.findAll t.copy).filterMap (substitutionFinding? p replacements t), ctx)
  | .consistency p pairs => matchFindings t (pairs.map (Variants.ofPair p)) ctx (p.findAll t.copy)
  | .conditional antecedent consequent exceptions =>
    conditionalFindings antecedent consequent exceptions t ctx
  | .script .. => ([], ctx)

/-! ## A run is its findings with quotes -/

variable {c : Check} {t : Masked}

theorem existence_eq_findings (c : Check) (p : Pattern) (t : Masked) :
    c.existence p t = (existenceFindings p t).map (Finding.alert c t.slice) := by
  rw [existence, existenceFindings, List.map_map]
  rfl

theorem occurrence_eq_findings (c : Check) (p : Pattern) (max : Nat) (t : Masked) :
    c.occurrence p max t = (occurrenceFindings p max t).map (Finding.alert c t.slice) := by
  unfold occurrence occurrenceFindings
  cases (spansOf p t).filter fun s => !t.isMasked s with
  | nil => rfl
  | cons first rest =>
    simp only
    split <;> rfl

theorem repetitionFrom_eq_findings (c : Check) (max : Nat) (t : Masked) (r : Streak) (ms : List Match) :
    repetitionFrom c max t r ms = (repetitionFindingsFrom max t r ms).map (Finding.alert c t.slice) := by
  induction ms generalizing r with
  | nil => rfl
  | cons m ms ih =>
    simp only [repetitionFrom, repetitionFindingsFrom]
    split
    · exact ih _
    · split
      · split
        · rw [List.map_cons, ih]
          rfl
        · exact ih _
      · exact ih _

theorem substitution_eq_findings (c : Check) (p : Pattern) (replacements : List String) (t : Masked) :
    c.substitution p replacements t =
      ((p.findAll t.copy).filterMap (substitutionFinding? p replacements t)).map (Finding.alert c t.slice) := by
  rw [List.map_filterMap, substitution]
  refine congrArg (List.filterMap · _) (funext fun m => ?_)
  unfold substitutionFinding?
  cases takenGroup? p m with
  | none => rfl
  | some g =>
    obtain ⟨i, s⟩ := g
    simp only [Option.bind_eq_bind, Option.bind_some]
    split
    · rfl
    · cases replacements[i - 1]? <;> rfl

theorem notePair_eq_finding (c : Check) (t : Masked) (m : Match) (ctx : Context) (v : Variants) :
    c.notePair t m ctx v =
      ((pairFinding t m ctx v).1.map (Finding.alert c t.slice), (pairFinding t m ctx v).2) := by
  unfold notePair pairFinding
  cases v.used? m with
  | none => rfl
  | some use =>
    simp only
    split
    · rfl
    · simp only
      split <;> rfl

theorem notePairs_eq_findings (c : Check) (t : Masked) (m : Match) (ctx : Context) (vs : List Variants) :
    c.notePairs t m ctx vs =
      ((pairFindings t m ctx vs).1.map (Finding.alert c t.slice), (pairFindings t m ctx vs).2) := by
  induction vs generalizing ctx with
  | nil => rfl
  | cons v vs ih =>
    simp only [notePairs, pairFindings, notePair_eq_finding, ih, List.map_append]
    cases (pairFinding t m ctx v).1 <;> rfl

theorem noteMatches_eq_findings (c : Check) (t : Masked) (vs : List Variants) (ctx : Context)
    (ms : List Match) : c.noteMatches t vs ctx ms =
      ((matchFindings t vs ctx ms).1.map (Finding.alert c t.slice), (matchFindings t vs ctx ms).2) := by
  induction ms generalizing ctx with
  | nil => rfl
  | cons m ms ih => simp only [noteMatches, matchFindings, notePairs_eq_findings, ih, List.map_append]

theorem conditional_eq_findings (c : Check) (antecedent consequent : Pattern) (exceptions : List String)
    (t : Masked) (ctx : Context) : c.conditional antecedent consequent exceptions t ctx =
      ((conditionalFindings antecedent consequent exceptions t ctx).1.map (Finding.alert c t.slice),
        (conditionalFindings antecedent consequent exceptions t ctx).2) := by
  simp only [conditional, conditionalFindings, List.map_map]
  rfl

/-- **What a run of a check with patterns answers is its findings, with quotes of the text.** -/
theorem run_eq_findings (hkind : c.matcher.kindName ≠ "script") (t : Masked) (ctx : Context)
    (host : ScriptHost) :
    c.run t ctx host = ((c.findings t ctx).1.map (Finding.alert c t.slice), (c.findings t ctx).2) := by
  unfold run findings
  cases hm : c.matcher with
  | existence p => simp only [existence_eq_findings]
  | occurrence p max => simp only [occurrence_eq_findings]
  | repetition p max => simp only [repetition, repetitionFrom_eq_findings]
  | substitution p replacements => simp only [substitution_eq_findings]
  | consistency p pairs => exact noteMatches_eq_findings c t _ ctx _
  | conditional antecedent consequent exceptions => exact conditional_eq_findings c _ _ _ t ctx
  | script runtime path => exact absurd (by rw [hm]; rfl) hkind

/-! ## Findings come from the copy -/

variable {t t' : Masked}

theorem repetitionFindingsFrom_congr (h : t.isMasked = t'.isMasked) (max : Nat) (r : Streak) (ms : List Match) :
    repetitionFindingsFrom max t r ms = repetitionFindingsFrom max t' r ms := by
  induction ms generalizing r with
  | nil => rfl
  | cons m ms ih => simp only [repetitionFindingsFrom, h, ih]

theorem pairFindings_congr (h : t.isMasked = t'.isMasked) (m : Match) (ctx : Context) (vs : List Variants) :
    pairFindings t m ctx vs = pairFindings t' m ctx vs := by
  induction vs generalizing ctx with
  | nil => rfl
  | cons v vs ih => simp only [pairFindings, pairFinding, h, ih]

theorem matchFindings_congr (h : t.isMasked = t'.isMasked) (vs : List Variants) (ctx : Context)
    (ms : List Match) : matchFindings t vs ctx ms = matchFindings t' vs ctx ms := by
  induction ms generalizing ctx with
  | nil => rfl
  | cons m ms ih => simp only [matchFindings, pairFindings_congr h, ih]

/-- **Findings are of the copy and the ranges.** The text plays no part in them. -/
theorem findings_congr (c : Check) (hcopy : t.copy = t'.copy) (hranges : t.ranges = t'.ranges)
    (ctx : Context) : c.findings t ctx = c.findings t' ctx := by
  have hmask : t.isMasked = t'.isMasked := by
    funext s
    rw [Masked.isMasked, Masked.isMasked, hranges]
  have hdefined : defined? t = defined? t' := by
    funext m
    rw [defined?, defined?, hmask]
  have hsubstitution (p : Pattern) (replacements : List String) :
      substitutionFinding? p replacements t = substitutionFinding? p replacements t' := by
    funext m
    simp only [substitutionFinding?, hmask]
  unfold findings
  cases c.matcher with
  | existence p => simp only [existenceFindings, spansOf, hcopy, hmask]
  | occurrence p max => simp only [occurrenceFindings, spansOf, hcopy, hmask]
  | repetition p max => simp only [hcopy, repetitionFindingsFrom_congr hmask]
  | substitution p replacements => simp only [hsubstitution, hcopy]
  | consistency p pairs => simp only [hcopy, matchFindings_congr hmask]
  | conditional antecedent consequent exceptions => simp only [conditionalFindings, hcopy, hmask, hdefined]
  | script => rfl

/-! ## What findings quote -/

/-- What a finding quotes is not masked, and cuts no character of the copy. -/
def QuotesUnmasked (t : Masked) (f : Finding) : Prop :=
  ∀ s ∈ f.quoted, t.isMasked s = false ∧ s.Fits t.copy

theorem quotesUnmasked_ofSpan {s : Span} (hu : t.isMasked s = false) (hs : s.Fits t.copy) :
    QuotesUnmasked t (.ofSpan s) := fun r hr => by
  obtain rfl : s = r := Option.some.inj hr
  exact ⟨hu, hs⟩

theorem existenceFindings_unmasked (p : Pattern) (t : Masked) :
    ∀ f ∈ existenceFindings p t, QuotesUnmasked t f := by
  intro f hf
  obtain ⟨s, hs, rfl⟩ := List.mem_map.1 hf
  obtain ⟨hs, hkept⟩ := List.mem_filter.1 hs
  rw [Bool.and_eq_true, Bool.not_eq_true', Bool.not_eq_true'] at hkept
  exact quotesUnmasked_ofSpan hkept.2 ((spansOf_located p t).1 s hs)

theorem occurrenceFindings_unmasked (p : Pattern) (max : Nat) (t : Masked) :
    ∀ f ∈ occurrenceFindings p max t, QuotesUnmasked t f := by
  intro f hf
  unfold occurrenceFindings at hf
  split at hf
  · cases hf
  · split at hf
    · cases hf
    · obtain rfl := List.mem_singleton.1 hf
      intro s hs
      cases hs

theorem repetitionFindingsFrom_unmasked (max : Nat) {ms : List Match} (hms : ∀ m ∈ ms, m.span.Fits t.copy)
    (r : Streak) : ∀ f ∈ repetitionFindingsFrom max t r ms, QuotesUnmasked t f := by
  induction ms generalizing r with
  | nil => exact fun f hf => nomatch hf
  | cons m ms ih =>
    obtain ⟨hm, hms⟩ := List.forall_mem_cons.1 hms
    simp only [repetitionFindingsFrom]
    split
    · exact ih hms _
    · rename_i hu
      split
      · split
        · refine List.forall_mem_cons.2 ⟨fun s hs => ?_, ih hms _⟩
          obtain rfl : m.span = s := Option.some.inj hs
          exact ⟨by simpa using hu, hm⟩
        · exact ih hms _
      · exact ih hms _

theorem substitutionFinding?_unmasked {p : Pattern} {replacements : List String} {m : Match}
    (hm : m.Within t.copy) {f : Finding} (hf : substitutionFinding? p replacements t m = some f) :
    QuotesUnmasked t f := by
  unfold substitutionFinding? at hf
  obtain ⟨⟨i, s⟩, htaken, hf⟩ := Option.bind_eq_some_iff.1 hf
  simp only at hf
  split at hf
  · cases hf
  · rename_i hu
    obtain ⟨replacement, -, hf⟩ := Option.bind_eq_some_iff.1 hf
    obtain rfl := Option.some.inj hf
    intro r hr
    obtain rfl : s = r := Option.some.inj hr
    exact ⟨by simpa using hu, (hm.groups i s (group?_of_takenGroup? htaken).1).2.2⟩

theorem pairFinding_unmasked {m : Match} (hm : m.Within t.copy) (ctx : Context) (v : Variants) :
    ∀ f ∈ (pairFinding t m ctx v).1, QuotesUnmasked t f := by
  intro f hf
  unfold pairFinding at hf
  split at hf
  · cases hf
  · rename_i name s hused
    split at hf
    · cases hf
    · rename_i hu
      simp only at hf
      split at hf
      · obtain rfl := Option.some.inj hf
        obtain ⟨i, hi⟩ := exists_group?_of_used? hused
        exact quotesUnmasked_ofSpan (by simpa using hu) (hm.groups i s hi).2.2
      · cases hf

theorem pairFindings_unmasked {m : Match} (hm : m.Within t.copy) (ctx : Context) (vs : List Variants) :
    ∀ f ∈ (pairFindings t m ctx vs).1, QuotesUnmasked t f := by
  induction vs generalizing ctx with
  | nil => exact fun f hf => nomatch hf
  | cons v vs ih =>
    intro f hf
    rcases List.mem_append.1 hf with hf | hf
    · exact pairFinding_unmasked hm ctx v f (Option.mem_toList.1 hf)
    · exact ih _ f hf

theorem matchFindings_unmasked {ms : List Match} (hms : ∀ m ∈ ms, m.Within t.copy) (vs : List Variants)
    (ctx : Context) : ∀ f ∈ (matchFindings t vs ctx ms).1, QuotesUnmasked t f := by
  induction ms generalizing ctx with
  | nil => exact fun f hf => nomatch hf
  | cons m ms ih =>
    obtain ⟨hm, hms⟩ := List.forall_mem_cons.1 hms
    intro f hf
    rcases List.mem_append.1 hf with hf | hf
    · exact pairFindings_unmasked hm ctx vs f hf
    · exact ih hms _ f hf

theorem conditionalFindings_unmasked (antecedent consequent : Pattern) (exceptions : List String)
    (t : Masked) (ctx : Context) :
    ∀ f ∈ (conditionalFindings antecedent consequent exceptions t ctx).1, QuotesUnmasked t f := by
  intro f hf
  obtain ⟨m, hm, rfl⟩ := List.mem_map.1 hf
  obtain ⟨hm, hflagged⟩ := List.mem_filter.1 hm
  rw [Bool.and_eq_true, Bool.not_eq_true'] at hflagged
  exact quotesUnmasked_ofSpan hflagged.1 (Pattern.Program.within_of_mem_findAll hm).fits

/-- **Findings quote what is not masked.** -/
theorem findings_unmasked (c : Check) (t : Masked) (ctx : Context) :
    ∀ f ∈ (c.findings t ctx).1, QuotesUnmasked t f := by
  unfold findings
  cases c.matcher with
  | existence p => exact existenceFindings_unmasked p t
  | occurrence p max => exact occurrenceFindings_unmasked p max t
  | repetition p max =>
    exact repetitionFindingsFrom_unmasked max
      (fun m hm => (Pattern.Program.within_of_mem_findAll hm).fits) (.broken 0)
  | substitution p replacements =>
    intro f hf
    obtain ⟨m, hm, hf⟩ := List.mem_filterMap.1 hf
    exact substitutionFinding?_unmasked (Pattern.Program.within_of_mem_findAll hm) hf
  | consistency p pairs =>
    exact matchFindings_unmasked (fun m hm => Pattern.Program.within_of_mem_findAll hm) _ ctx
  | conditional antecedent consequent exceptions => exact conditionalFindings_unmasked _ _ _ t ctx
  | script => exact fun f hf => nomatch hf

/-- A run comes to its findings, and all that these quote stands in the text as it does in the copy. -/
structure Faithful (c : Check) (t : Masked) (ctx : Context) (host : ScriptHost) : Prop where
  run_eq : c.run t ctx host = ((c.findings t ctx).1.map (Finding.alert c t.slice), (c.findings t ctx).2)
  shows : ∀ f ∈ (c.findings t ctx).1, ∀ s ∈ f.quoted, t.Shows s

theorem faithful_mask (hkind : c.matcher.kindName ≠ "script") (m : Masker) (text : List Char)
    (format : String) (ctx : Context) (host : ScriptHost) : c.Faithful (m.mask text format) ctx host where
  run_eq := run_eq_findings hkind _ ctx host
  shows f hf s hs := by
    have h := m.rangedIn_ranges text format
    obtain ⟨hu, hfits⟩ := findings_unmasked c _ ctx f hf s hs
    exact (Masked.clear_of_isMasked_eq_false h.toRanged hu).slice h hfits

/-- **What is masked cannot be told from the alerts.** Two texts with the same copy and the same ranges
get the same alerts and leave the same context; and whatever a check quotes of either stands there as it
stands in the copy. -/
theorem run_blind (hkind : c.matcher.kindName ≠ "script") {m m' : Masker} {text text' : List Char}
    {format format' : String} (hcopy : (m.mask text format).copy = (m'.mask text' format').copy)
    (hranges : (m.mask text format).ranges = (m'.mask text' format').ranges) (ctx : Context)
    (host : ScriptHost) :
    c.run (m.mask text format) ctx host = c.run (m'.mask text' format') ctx host ∧
      c.Faithful (m.mask text format) ctx host ∧ c.Faithful (m'.mask text' format') ctx host := by
  have h := c.faithful_mask hkind m text format ctx host
  have h' := c.faithful_mask hkind m' text' format' ctx host
  have hfindings := c.findings_congr hcopy hranges ctx
  refine ⟨?_, h, h'⟩
  have halerts : (c.findings (m.mask text format) ctx).1.map (Finding.alert c (m.mask text format).slice) =
      (c.findings (m.mask text format) ctx).1.map (Finding.alert c (m'.mask text' format').slice) := by
    refine List.map_congr_left fun f hf => Finding.alert_congr fun s hs => ?_
    exact (h.shows f hf s hs).slice_eq (h'.shows f (hfindings ▸ hf) s hs) hcopy
  rw [h.run_eq, h'.run_eq, halerts, hfindings]

/-- The rule that looks for `foo` does not tell two addresses of one length apart. -/
theorem run_blind_addresses :
    ∃ c : Check, sampleRule.compile none .empty = .ok c ∧ ∀ ctx host,
      c.run (Masker.plain.mask "a foo ftp://ab".toList "text") ctx host =
        c.run (Masker.plain.mask "a foo ftp://cd".toList "text") ctx host ∧
      c.Faithful (Masker.plain.mask "a foo ftp://ab".toList "text") ctx host ∧
      c.Faithful (Masker.plain.mask "a foo ftp://cd".toList "text") ctx host := by
  have hmask : (Masker.plain.mask "a foo ftp://ab".toList "text").copy =
        (Masker.plain.mask "a foo ftp://cd".toList "text").copy ∧
      (Masker.plain.mask "a foo ftp://ab".toList "text").ranges =
        (Masker.plain.mask "a foo ftp://cd".toList "text").ranges := by
    simp only [Masker.mask, Masker.ranges, urlPattern_eq]
    decide +kernel
  have hkind : (sampleRule.compile none .empty).toOption.map (·.matcher.kindName) = some "existence" := by
    decide +kernel
  obtain ⟨c, hcompile, hexistence⟩ := Rule.exists_of_toOption_map hkind
  have hne : c.matcher.kindName ≠ "script" := by
    rw [hexistence]
    decide
  exact ⟨c, hcompile, fun ctx host => run_blind hne hmask.1 hmask.2 ctx host⟩

end Check

end ProseLint
