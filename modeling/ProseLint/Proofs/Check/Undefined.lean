/-
What conditional checks flag: the uses that nothing defines. A use is a match of the second pattern, and it
is defined by an unmasked capture of the first one, wherever in the text that stands. The captures are noted
before a use is looked at, so a second run on the same text finds what the first one did
(`Check.conditional_flags_undefined`).
-/
import ProseLint.Proofs.Check.Activation
import ProseLint.Proofs.Check.Contexts

namespace ProseLint

open Text (Span byteLength)
open Pattern (Match)

theorem Pattern.Match.Within.slice_textOf {cs : List Char} {m : Match} (h : m.Within cs) {s : Span}
    (hstart : m.span.start ≤ s.start) (hstop : s.stop ≤ m.span.stop) (hs : s.Fits cs) :
    Text.slice? cs s = some (m.textOf s) := by
  obtain ⟨pre, post, htext, hpre, hupto⟩ := Text.slice?_eq_some.1 h.slice
  obtain ⟨mid, hmid⟩ : ∃ mid, Text.slice? cs s = some mid :=
    Option.isSome_iff_exists.1 (Text.isSome_slice?_iff.2 ⟨hs.le, hs.start, hs.stop⟩)
  obtain ⟨a, b, htext', ha, hab⟩ := Text.slice?_eq_some.1 hmid
  -- What stands before the span starts with what stands before the match.
  obtain ⟨x, rfl, hrest⟩ := Text.prefix_of_byteLength_le
    (show pre ++ (m.text ++ post) = a ++ (mid ++ b) by rw [← List.append_assoc, ← htext, htext', List.append_assoc])
    (by omega)
  simp only [Text.byteLength_append] at ha hab hupto
  obtain ⟨y, hy, -⟩ := Text.prefix_of_byteLength_le
    (show (x ++ mid) ++ b = m.text ++ post by simp [hrest]) (by rw [Text.byteLength_append]; omega)
  have hsaid : Text.slice? m.text ⟨s.start - m.span.start, s.stop - m.span.start⟩ = some mid := by
    refine Text.slice?_eq_some.2 ⟨x, y, hy, ?_, ?_⟩ <;> simp only [Text.byteLength_append] <;> omega
  rw [hmid, Match.textOf, hsaid, Option.getD_some]

namespace Check

variable {c : Check} {antecedent consequent : Pattern} {exceptions : List String} {text : List Char}
  {ranges : List Span} {ctx : Context}

/-- Some match of a pattern captures a text with its first group, where the group is not masked. -/
def Introduces (antecedent : Pattern) (t : Masked) (said : List Char) : Prop :=
  ∃ m ∈ antecedent.findAll t.copy, ∃ s ∈ m.group? 1, t.isMasked s = false ∧ Text.slice? t.text s = some said

instance (antecedent : Pattern) (t : Masked) (said : List Char) : Decidable (Introduces antecedent t said) :=
  inferInstanceAs (Decidable (∃ m ∈ antecedent.findAll t.copy, ∃ s ∈ m.group? 1, _ ∧ _))

/-- A match is a use that nothing defines: neither what has been noted before, nor the text itself, nor an
exception. -/
structure Undefined (antecedent : Pattern) (exceptions : List String) (t : Masked) (ctx : Context) (m : Match) :
    Prop where
  unmasked : t.isMasked m.span = false
  new : String.ofList m.text ∉ ctx.notes
  notIntroduced : ¬ Introduces antecedent t m.text
  notExcepted : String.ofList m.text ∉ exceptions

instance (antecedent : Pattern) (exceptions : List String) (t : Masked) (ctx : Context) (m : Match) :
    Decidable (Undefined antecedent exceptions t ctx m) :=
  decidable_of_iff (t.isMasked m.span = false ∧ String.ofList m.text ∉ ctx.notes ∧
    ¬ Introduces antecedent t m.text ∧ String.ofList m.text ∉ exceptions)
    ⟨fun ⟨h1, h2, h3, h4⟩ => ⟨h1, h2, h3, h4⟩, fun ⟨h1, h2, h3, h4⟩ => ⟨h1, h2, h3, h4⟩⟩

theorem defined?_eq_some (h : RangedIn text ranges) {m : Match} (hm : m.Within (Masked.ofRanges text ranges).copy)
    {said : List Char} :
    defined? (.ofRanges text ranges) m = some (String.ofList said) ↔
      ∃ s ∈ m.group? 1, (Masked.ofRanges text ranges).isMasked s = false ∧ Text.slice? text s = some said := by
  have hslice {s : Span} (hs : m.group? 1 = some s) (hu : (Masked.ofRanges text ranges).isMasked s = false) :
      Text.slice? text s = some (m.textOf s) := by
    obtain ⟨hstart, hstop, hfits⟩ := hm.groups 1 s hs
    obtain ⟨cs, htext, hcopy⟩ := (Masked.clear_of_isMasked_eq_false h.toRanged hu).slice h hfits
    rw [htext, ← hcopy]
    exact hm.slice_textOf hstart hstop hfits
  simp only [defined?, Option.map_eq_some_iff, Option.filter_eq_some_iff, Bool.not_eq_true', Option.mem_def]
  constructor
  · rintro ⟨s, ⟨hs, hu⟩, hsaid⟩
    exact ⟨s, hs, hu, String.ofList_injective hsaid ▸ hslice hs hu⟩
  · rintro ⟨s, hs, hu, hsaid⟩
    rw [hslice hs hu] at hsaid
    exact ⟨s, ⟨hs, hu⟩, congrArg String.ofList (Option.some.inj hsaid)⟩

theorem mem_defined_iff (h : RangedIn text ranges) {said : List Char} :
    String.ofList said ∈ (antecedent.findAll (Masked.ofRanges text ranges).copy).filterMap
        (defined? (.ofRanges text ranges)) ↔ Introduces antecedent (.ofRanges text ranges) said := by
  rw [List.mem_filterMap]
  exact exists_congr fun m => and_congr_right fun hm =>
    defined?_eq_some h (Pattern.Program.within_of_mem_findAll hm)

/-- What a conditional check reports on a text, and what it does to the context. -/
structure ReportsUndefined (c : Check) (antecedent consequent : Pattern) (exceptions : List String) (t : Masked)
    (ctx : Context) (host : ScriptHost) : Prop where
  /-- One alert for each undefined use, which it quotes. -/
  alerts : (c.run t ctx host).1 =
    ((consequent.findAll t.copy).filter fun m => decide (Undefined antecedent exceptions t ctx m)).map
      fun m => c.alert m.span [m.text]
  /-- The matches are in the order of the text. -/
  ordered : (consequent.findAll t.copy).Pairwise fun m n => m.span.Precedes n.span
  /-- A use that is not masked says what the text holds there. -/
  said : ∀ m ∈ consequent.findAll t.copy, t.isMasked m.span = false → Text.slice? t.text m.span = some m.text
  /-- The captures are noted in the order of the matches. -/
  notes : (c.run t ctx host).2.notes = ctx.notes ++ (antecedent.findAll t.copy).filterMap (defined? t)
  introduced : ∀ said, String.ofList said ∈ (antecedent.findAll t.copy).filterMap (defined? t) ↔
    Introduces antecedent t said
  exact : (c.run t ctx host).2.Exact
  /-- A second run finds the same. -/
  again : (c.run t (c.run t ctx host).2 host).1 = (c.run t ctx host).1

theorem alerts_eq_undefined (h : RangedIn text ranges) (hctx : ctx.Exact) (c : Check) :
    (c.conditional antecedent consequent exceptions (.ofRanges text ranges) ctx).1 =
      ((consequent.findAll (Masked.ofRanges text ranges).copy).filter fun m =>
        decide (Undefined antecedent exceptions (.ofRanges text ranges) ctx m)).map
          fun m => c.alert m.span [m.text] := by
  let t := Masked.ofRanges text ranges
  have hknown (m : Match) : (ctx.contains (String.ofList m.text) ||
      ((antecedent.findAll t.copy).filterMap (defined? t)).contains (String.ofList m.text) ||
        exceptions.contains (String.ofList m.text)) = true ↔
      String.ofList m.text ∈ ctx.notes ∨ Introduces antecedent t m.text ∨ String.ofList m.text ∈ exceptions := by
    simp only [Bool.or_eq_true, hctx _, List.contains_iff_mem, t, mem_defined_iff h, or_assoc]
  have hkept (m : Match) : (!t.isMasked m.span && !(ctx.contains (String.ofList m.text) ||
      ((antecedent.findAll t.copy).filterMap (defined? t)).contains (String.ofList m.text) ||
        exceptions.contains (String.ofList m.text))) = decide (Undefined antecedent exceptions t ctx m) := by
    rw [Bool.eq_iff_iff, decide_eq_true_iff, Bool.and_eq_true, Bool.not_eq_true', Bool.not_eq_true',
      Bool.eq_false_iff, Bool.eq_false_iff, ne_eq, ne_eq, hknown, not_or, not_or]
    exact ⟨fun ⟨h1, h2, h3, h4⟩ => ⟨Bool.eq_false_iff.2 h1, h2, h3, h4⟩,
      fun hm => ⟨Bool.eq_false_iff.1 hm.unmasked, hm.new, hm.notIntroduced, hm.notExcepted⟩⟩
  rw [conditional_alerts, List.filter_congr fun m _ => hkept m]
  refine List.map_congr_left fun m hm => ?_
  obtain ⟨hm, hu⟩ := List.mem_filter.1 hm
  have hslice := slice_of_unmasked h (Pattern.Program.within_of_mem_findAll hm) (of_decide_eq_true hu).unmasked
  have hquote : (Masked.ofRanges text ranges).slice m.span = m.text := by
    simp only [Masked.slice, Masked.ofRanges, hslice]
  rw [hquote]

/-- What the text introduces counts already, so it makes no difference that the first run has noted it. -/
theorem conditional_again (c : Check) (antecedent consequent : Pattern) (exceptions : List String) (t : Masked)
    (ctx : Context) :
    (c.conditional antecedent consequent exceptions t (c.conditional antecedent consequent exceptions t ctx).2).1 =
      (c.conditional antecedent consequent exceptions t ctx).1 := by
  have hnotes : (c.conditional antecedent consequent exceptions t ctx).2 =
      ((antecedent.findAll t.copy).filterMap (defined? t)).foldl Context.push ctx := rfl
  rw [conditional_alerts, conditional_alerts, hnotes]
  simp only [Context.contains_foldl_push, Bool.or_assoc, Bool.or_self_left]

end Check

/-- **A conditional check flags exactly the undefined uses.** On every masked text and every context, it
raises one alert for each match of its second pattern that shows, in the order of the text, unless what the
match says was noted before, is captured anywhere in the text where it shows, or is an exception. It notes
the captures, and to run it again changes nothing in what it finds. -/
theorem Check.conditional_flags_undefined {d : Definition} {stylesPath : Option String} {fs : Files} {c : Check}
    (h : d.compile stylesPath fs = .ok c) (hkind : c.IsConditional) :
    ∃ first second exceptions antecedent consequent, d.kind = .conditional first second exceptions ∧
      Pattern.ofText? (d.switch ++ first) = some antecedent ∧ antecedent.groupCount ≠ 0 ∧
      Pattern.ofText? (d.switch ++ second) = some consequent ∧
      ∀ (text : List Char) (ranges : List Span), RangedIn text ranges → ∀ ctx : Context, ctx.Exact →
        ∀ host, ReportsUndefined c antecedent consequent exceptions (.ofRanges text ranges) ctx host := by
  obtain ⟨antecedent, consequent, exceptions, hmatcher⟩ := hkind
  have hmakes := (Definition.makes_of_compile h).2
  rw [hmatcher] at hmakes
  obtain ⟨first, second, hd, hfirst, hcount, hsecond⟩ := hmakes
  refine ⟨first, second, exceptions, antecedent, consequent, hd, hfirst, hcount, hsecond, ?_⟩
  intro text ranges hranges ctx hctx host
  have hrun (ctx : Context) : c.run (.ofRanges text ranges) ctx host =
      c.conditional antecedent consequent exceptions (.ofRanges text ranges) ctx := by
    rw [run, hmatcher]
  have hnoted : c.noted (.ofRanges text ranges) =
      (antecedent.findAll (Masked.ofRanges text ranges).copy).filterMap (defined? (.ofRanges text ranges)) := by
    rw [noted, hmatcher]
  exact {
    alerts := by rw [hrun, alerts_eq_undefined hranges hctx]
    ordered := Pattern.Program.findAll_pairwise _ _
    said := fun m hm hu => slice_of_unmasked hranges (Pattern.Program.within_of_mem_findAll hm) hu
    notes := by rw [notes_run, hnoted]
    introduced := fun said => mem_defined_iff hranges
    exact := hctx.afterRun ⟨c, _, host⟩
    again := by rw [hrun, hrun, conditional_again] }

namespace Engine

/-- A rule that wants acronyms introduced, somewhere. -/
def acronymRule : Definition where
  name := colorName
  message := ""
  description := ""
  severity := .warning
  scope := "text"
  link := none
  ignoreCase := false
  negate := false
  kind := .conditional "say ([A-Z]+)" "[A-Z]+" ["IT"]

/-- One of the acronyms is neither introduced nor an exception, and it is flagged. -/
theorem conditional_flags_undefined_acronym :
    ∃ c, acronymRule.compile none .empty = .ok c ∧ c.IsConditional ∧
      RangedIn "AB IT CD say AB".toList [] ∧ (Context.fresh "text").Exact ∧
      (c.run (.ofRanges "AB IT CD say AB".toList []) (.fresh "text") noScripts).1.map (·.span) = [⟨6, 8⟩] ∧
      ∃ antecedent consequent, Check.ReportsUndefined c antecedent consequent ["IT"]
        (.ofRanges "AB IT CD say AB".toList []) (.fresh "text") noScripts := by
  have hcompile : (acronymRule.compile none .empty).toOption.map (·.matcher.kindName) = some "conditional" := by
    decide +kernel
  obtain ⟨c, hc, hname⟩ := Rule.exists_of_toOption_map hcompile
  have hkind : c.IsConditional := by
    cases hm : c.matcher with
    | conditional antecedent consequent exceptions => exact ⟨antecedent, consequent, exceptions, hm⟩
    | _ => simp [hm, Matcher.kindName] at hname
  have hranged : RangedIn "AB IT CD say AB".toList [] := ⟨⟨.nil, by simp⟩, by simp, by simp⟩
  obtain ⟨first, second, exceptions, antecedent, consequent, hd, hfirst, -, hsecond, hreports⟩ :=
    Check.conditional_flags_undefined hc hkind
  obtain ⟨rfl, rfl, rfl⟩ := RuleKind.conditional.inj hd
  have hreports := hreports _ _ hranged _ (Context.exact_fresh "text") noScripts
  have huses : (Pattern.ofText? (acronymRule.switch ++ "say ([A-Z]+)")).bind (fun a =>
      (Pattern.ofText? (acronymRule.switch ++ "[A-Z]+")).map fun b =>
        ((b.findAll (Masked.ofRanges "AB IT CD say AB".toList []).copy).filter fun m =>
          decide (Check.Undefined a ["IT"] (.ofRanges "AB IT CD say AB".toList []) (.fresh "text") m)).map (·.span)) =
      some [⟨6, 8⟩] := by
    decide +kernel
  rw [hfirst, hsecond] at huses
  refine ⟨c, hc, hkind, hranged, Context.exact_fresh _, ?_, antecedent, consequent, hreports⟩
  rw [hreports.alerts, List.map_map]
  exact Option.some.inj huses

end Engine

end ProseLint
