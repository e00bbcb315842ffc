/-
What checks note, and which checks that disturbs. A check notes the same whatever the context holds
(`Check.context_run`), and the alerts of a consistency check depend on the names of its own groups only
(`noteMatches_congr`). So it finds among other checks what it finds alone, unless one that ran before it
has noted such a name (`Engine.consistency_alone`): the captured text of a conditional check may be one,
and so may a group of a check whose name has the same key (`Engine.consistency_disturbed`).
-/
import ProseLint.Engine
import ProseLint.Proofs.Check.Located

namespace ProseLint

open Text (Span)
open Pattern (Match)

/-! ## What is noted -/

theorem Context.notes_foldl_push (notes : List String) (ctx : Context) :
    (notes.foldl push ctx).notes = ctx.notes ++ notes := by
  induction notes generalizing ctx with
  | nil => simp
  | cons n ns ih => rw [List.foldl_cons, ih, notes_push, List.append_assoc, List.singleton_append]

theorem Context.contains_foldl_push (notes : List String) (ctx : Context) (name : String) :
    (notes.foldl push ctx).contains name = (ctx.contains name || notes.contains name) := by
  induction notes generalizing ctx with
  | nil => simp
  | cons n ns ih => rw [List.foldl_cons, ih, contains_push, List.contains_cons, Bool.or_assoc, Bool.or_left_comm]

namespace Check

/-- The variant of a pair that a match uses, unless it is masked there. -/
def shown? (t : Masked) (m : Match) (v : Variants) : Option String :=
  ((v.used? m).filter fun u => !t.isMasked u.2).map (·.1)

/-- What a check notes on a masked text, in order. -/
def noted (c : Check) (t : Masked) : List String :=
  match c.matcher with
  | .consistency p pairs => (p.findAll t.copy).flatMap fun m => (pairs.map (Variants.ofPair p)).filterMap (shown? t m)
  | .conditional antecedent _ _ => (antecedent.findAll t.copy).filterMap (defined? t)
  | _ => []

variable {c : Check} {t : Masked}

theorem notePair_context (c : Check) (t : Masked) (m : Match) (ctx : Context) (v : Variants) :
    (c.notePair t m ctx v).2 = (shown? t m v).toList.foldl Context.push ctx := by
  unfold notePair shown?
  cases v.used? m with
  | none => rfl
  | some u =>
    by_cases hu : t.isMasked u.2 = true
    · simp [Option.filter, hu]
    · simp [Option.filter, hu]

theorem notePairs_context (c : Check) (t : Masked) (m : Match) (ctx : Context) (vs : List Variants) :
    (c.notePairs t m ctx vs).2 = (vs.filterMap (shown? t m)).foldl Context.push ctx := by
  induction vs generalizing ctx with
  | nil => rfl
  | cons v vs ih =>
    simp only [notePairs]
    rw [ih, notePair_context, ← List.foldl_append, List.filterMap_cons]
    cases shown? t m v <;> rfl

theorem noteMatches_context (c : Check) (t : Masked) (vs : List Variants) (ctx : Context) (ms : List Match) :
    (c.noteMatches t vs ctx ms).2 = (ms.flatMap fun m => vs.filterMap (shown? t m)).foldl Context.push ctx := by
  induction ms generalizing ctx with
  | nil => rfl
  | cons m ms ih =>
    simp only [noteMatches]
    rw [ih, notePairs_context, ← List.foldl_append, List.flatMap_cons]

/-- **A check pushes the same whatever the context holds**, and does nothing else to it. -/
theorem context_run (c : Check) (t : Masked) (ctx : Context) (host : ScriptHost) :
    (c.run t ctx host).2 = (c.noted t).foldl Context.push ctx := by
  unfold run noted
  cases c.matcher with
  | consistency p pairs => exact noteMatches_context c t _ ctx _
  | _ => rfl

theorem notes_run (c : Check) (t : Masked) (ctx : Context) (host : ScriptHost) :
    (c.run t ctx host).2.notes = ctx.notes ++ c.noted t := by
  rw [context_run, Context.notes_foldl_push]

/-! ## What consistency checks look up -/

def namesOf (vs : List Variants) : List String := vs.flatMap fun v => [v.first, v.second]

/-- Two contexts hold the same of some names. -/
def SameOn (names : List String) (ctx ctx' : Context) : Prop :=
  ∀ n ∈ names, ctx.contains n = ctx'.contains n

theorem SameOn.push {names : List String} {ctx ctx' : Context} (h : SameOn names ctx ctx') (note : String) :
    SameOn names (ctx.push note) (ctx'.push note) := by
  intro n hn
  rw [Context.contains_push, Context.contains_push, h n hn]

theorem notePair_congr {names : List String} {ctx ctx' : Context} (h : SameOn names ctx ctx') (m : Match)
    {v : Variants} (hfirst : v.first ∈ names) (hsecond : v.second ∈ names) :
    (c.notePair t m ctx v).1 = (c.notePair t m ctx' v).1 ∧
      SameOn names (c.notePair t m ctx v).2 (c.notePair t m ctx' v).2 := by
  have hcomplete {a b : Context} (hab : SameOn names a b) : v.complete a = v.complete b := by
    rw [Variants.complete, Variants.complete, hab _ hfirst, hab _ hsecond]
  unfold notePair
  split
  · exact ⟨rfl, h⟩
  · split
    · exact ⟨rfl, h⟩
    · rename_i name s _ _
      refine ⟨?_, h.push name⟩
      simp only [hcomplete h, hcomplete (h.push name)]

theorem notePairs_congr {names : List String} (m : Match) :
    ∀ {vs : List Variants} {ctx ctx' : Context}, SameOn names ctx ctx' → (∀ n ∈ namesOf vs, n ∈ names) →
      (c.notePairs t m ctx vs).1 = (c.notePairs t m ctx' vs).1 ∧
        SameOn names (c.notePairs t m ctx vs).2 (c.notePairs t m ctx' vs).2
  | [], _, _, h, _ => ⟨rfl, h⟩
  | v :: vs, ctx, ctx', h, hvs => by
    obtain ⟨halert, hpair⟩ := notePair_congr (c := c) (t := t) h m (hvs v.first (by simp [namesOf]))
      (hvs v.second (by simp [namesOf]))
    obtain ⟨halerts, hpairs⟩ := notePairs_congr m hpair fun n hn =>
      hvs n (by simp only [namesOf, List.flatMap_cons]; exact List.mem_append_right _ hn)
    refine ⟨?_, hpairs⟩
    simp only [notePairs]
    rw [halert, halerts]

/-- **The alerts of a consistency check depend on what the context holds of its names.** -/
theorem noteMatches_congr {vs : List Variants} :
    ∀ {ms : List Match} {ctx ctx' : Context}, SameOn (namesOf vs) ctx ctx' →
      (c.noteMatches t vs ctx ms).1 = (c.noteMatches t vs ctx' ms).1
  | [], _, _, _ => rfl
  | m :: ms, ctx, ctx', h => by
    obtain ⟨halerts, hpairs⟩ := notePairs_congr (c := c) (t := t) m h fun _ hn => hn
    simp only [noteMatches]
    rw [halerts, noteMatches_congr hpairs]

/-- The names of the groups that a consistency check notes. -/
def groupNames (c : Check) : List String :=
  match c.matcher with
  | .consistency _ pairs => pairs.flatMap fun p => [p.1, p.2]
  | _ => []

theorem run_consistency_congr {p : Pattern} {pairs : List (String × String)}
    (hc : c.matcher = .consistency p pairs) {ctx ctx' : Context} (h : SameOn c.groupNames ctx ctx')
    (host : ScriptHost) : (c.run t ctx host).1 = (c.run t ctx' host).1 := by
  have hnames : namesOf (pairs.map (Variants.ofPair p)) = c.groupNames := by
    rw [namesOf, List.flatMap_map, groupNames, hc]
    rfl
  rw [← hnames] at h
  unfold run
  rw [hc]
  exact noteMatches_congr h

/-- A consistency check notes names of its groups. -/
theorem mem_groupNames_of_mem_noted {p : Pattern} {pairs : List (String × String)}
    (hc : c.matcher = .consistency p pairs) {n : String} (hn : n ∈ c.noted t) : n ∈ c.groupNames := by
  rw [noted, hc] at hn
  rw [groupNames, hc]
  obtain ⟨m, -, hn⟩ := List.mem_flatMap.1 hn
  obtain ⟨v, hv, hshown⟩ := List.mem_filterMap.1 hn
  obtain ⟨pair, hpair, rfl⟩ := List.mem_map.1 hv
  refine List.mem_flatMap.2 ⟨pair, hpair, ?_⟩
  obtain ⟨⟨name, s⟩, hused, rfl⟩ := Option.map_eq_some_iff.1 hshown
  have hused := (Option.filter_eq_some_iff.1 hused).1
  unfold Variants.used? at hused
  split at hused
  · obtain ⟨rfl, -⟩ := Prod.mk.inj (Option.some.inj hused)
    simp [Variants.ofPair]
  · obtain ⟨s', -, heq⟩ := Option.map_eq_some_iff.1 hused
    obtain ⟨rfl, -⟩ := Prod.mk.inj heq
    simp [Variants.ofPair]

end Check

/-! ## Names of groups -/

namespace Rule

/-- Two texts that end in an underscore and something without one are the same up to it. -/
theorem append_underscore_inj {a b ds es : List Char} (hds : '_' ∉ ds) (hes : '_' ∉ es)
    (h : a ++ '_' :: ds = b ++ '_' :: es) : a = b ∧ ds = es := by
  rcases List.append_eq_append_iff.1 h with ⟨x, rfl, hx⟩ | ⟨x, rfl, hx⟩
  · cases x with
    | nil => simpa using hx
    | cons c x =>
      obtain ⟨-, hds'⟩ := List.cons.inj hx
      exact absurd (by simp [hds']) hds
  · cases x with
    | nil => simpa [eq_comm] using hx
    | cons c x =>
      obtain ⟨-, hes'⟩ := List.cons.inj hx
      exact absurd (by simp [hes']) hes

theorem toList_groupKey (name : CheckName) : ∃ lead, (groupKey name).toList = lead ++ ['_'] :=
  ⟨_, String.toList_ofList⟩

/-- **The name of a group says whose group it is**, up to the key of the check. -/
theorem groupKey_eq_of_groupName_eq {name name' : CheckName} {i j : Nat}
    (h : groupName name i = groupName name' j) : groupKey name = groupKey name' := by
  obtain ⟨lead, hlead⟩ := toList_groupKey name
  obtain ⟨lead', hlead'⟩ := toList_groupKey name'
  have hlist := congrArg String.toList h
  simp only [groupName, String.toList_append, hlead, hlead', Nat.toString_eq_repr, Nat.toList_repr, List.append_assoc,
    List.singleton_append] at hlist
  obtain ⟨heq, -⟩ := append_underscore_inj (by simp) (by simp) hlist
  exact String.toList_injective (by rw [hlead, hlead', heq])

theorem mem_pairNames {name : CheckName} {ps : List (String × String)} {index : Nat} {n : String}
    (h : n ∈ (pairNames name index ps).flatMap fun p => [p.1, p.2]) : ∃ i, n = groupName name i := by
  induction ps generalizing index with
  | nil => cases h
  | cons p ps ih =>
    rw [pairNames, List.flatMap_cons] at h
    rcases List.mem_append.1 h with h | h
    · simp only [List.mem_cons, List.not_mem_nil, or_false] at h
      rcases h with rfl | rfl
      · exact ⟨_, rfl⟩
      · exact ⟨_, rfl⟩
    · exact ih h

end Rule

/-- A check that a definition makes. -/
def Check.Compiled (c : Check) : Prop :=
  ∃ (d : Definition) (stylesPath : Option String) (fs : Files), d.compile stylesPath fs = .ok c

theorem Check.Compiled.groupName {c : Check} (h : c.Compiled) {n : String} (hn : n ∈ c.groupNames) :
    ∃ i, n = Rule.groupName c.name i := by
  obtain ⟨d, stylesPath, fs, hcompile⟩ := h
  obtain ⟨hname, hmakes⟩ := Definition.makes_of_compile hcompile
  unfold groupNames at hn
  split at hn
  · rename_i hm
    rw [hm] at hmakes
    obtain ⟨variants, nonword, -, -, rfl⟩ := hmakes
    exact hname ▸ Rule.mem_pairNames hn
  · cases hn

def Check.IsConsistency (c : Check) : Prop := ∃ p pairs, c.matcher = .consistency p pairs

theorem Check.isConsistency_of_kindName {c : Check} (h : c.matcher.kindName = "consistency") :
    c.IsConsistency := by
  cases hm : c.matcher with
  | consistency p pairs => exact ⟨p, pairs, hm⟩
  | _ => simp [hm, Matcher.kindName] at h

theorem Check.not_mem_groupNames {b c : Check} (hb : b.Compiled) (hc : c.Compiled)
    (hkey : Rule.groupKey b.name ≠ Rule.groupKey c.name) {n : String} (hn : n ∈ b.groupNames) :
    n ∉ c.groupNames := by
  intro hn'
  obtain ⟨i, rfl⟩ := hb.groupName hn
  obtain ⟨j, hj⟩ := hc.groupName hn'
  exact hkey (Rule.groupKey_eq_of_groupName_eq hj)

/-! ## Checks on one context -/

namespace Engine

variable {host : ScriptHost} {t : Masked}

theorem context_runChecks (host : ScriptHost) (t : Masked) (ctx : Context) (cs : List Check) :
    (runChecks host t ctx cs).2 = (cs.flatMap (·.noted t)).foldl Context.push ctx := by
  induction cs generalizing ctx with
  | nil => rfl
  | cons c cs ih =>
    simp only [runChecks]
    rw [ih, Check.context_run, ← List.foldl_append, List.flatMap_cons]

theorem contains_runChecks (ctx : Context) (cs : List Check) (n : String) :
    (runChecks host t ctx cs).2.contains n = true ↔ ctx.contains n = true ∨ ∃ b ∈ cs, n ∈ b.noted t := by
  rw [context_runChecks, Context.contains_foldl_push, Bool.or_eq_true, List.contains_iff_mem, List.mem_flatMap]

theorem getElem?_runChecks (ctx : Context) (before : List Check) (c : Check) (after : List Check) :
    (runChecks host t ctx (before ++ c :: after)).1[before.length]? =
      some (c.run t (runChecks host t ctx before).2 host).1 := by
  induction before generalizing ctx with
  | nil => simp [runChecks]
  | cons b bs ih =>
    simp only [List.cons_append, runChecks, List.length_cons, List.getElem?_cons_succ]
    exact ih _

theorem filter_eq_singleton {r : Registry} {before after : List Check} {c : Check}
    (h : r.checks = before ++ c :: after) : r.checks.filter (· = c) = [c] := by
  have hnodup := r.distinct
  rw [h, List.map_append, List.map_cons, List.nodup_append] at hnodup
  obtain ⟨-, hafter, hbefore⟩ := hnodup
  have hb : before.filter (· = c) = [] := List.filter_eq_nil_iff.2 fun b hb heq => by
    obtain rfl : b = c := by simpa using heq
    exact hbefore _ (List.mem_map_of_mem hb) _ (by simp) rfl
  have ha : after.filter (· = c) = [] := List.filter_eq_nil_iff.2 fun a ha heq => by
    obtain rfl : a = c := by simpa using heq
    exact (List.nodup_cons.1 hafter).1 (List.mem_map_of_mem ha)
  rw [h, List.filter_append, List.filter_cons, hb, ha]
  simp

theorem checkWith_only {e : Engine} {before after : List Check} {c : Check}
    (h : e.registry.checks = before ++ c :: after) (d : Document) :
    e.checkWith (· = c) d = (c.run (e.masker.mask d.text d.format) (.fresh d.format) e.host).1 := by
  rw [checkWith, filter_eq_singleton h]
  simp [runChecks]

/-- A check leaves the names of another alone on a masked text: it is a consistency check of another key,
or it notes none of the names. -/
def LeavesAlone (t : Masked) (b c : Check) : Prop :=
  (b.IsConsistency ∧ Rule.groupKey b.name ≠ Rule.groupKey c.name) ∨ ∀ n ∈ b.noted t, n ∉ c.groupNames

/-- **A consistency check finds among other checks what it finds alone**, as long as those before it
leave the names of its groups alone. -/
theorem consistency_alone (e : Engine) (hcompiled : ∀ c ∈ e.registry.checks, c.Compiled)
    {before after : List Check} {c : Check} (hchecks : e.registry.checks = before ++ c :: after)
    (hc : c.IsConsistency) (d : Document)
    (hbefore : ∀ b ∈ before, LeavesAlone (e.masker.mask d.text d.format) b c) :
    (runChecks e.host (e.masker.mask d.text d.format) (.fresh d.format) e.registry.checks).1[before.length]? =
      some (e.checkWith (· = c) d) := by
  obtain ⟨p, pairs, hmatcher⟩ := hc
  have hsame : Check.SameOn c.groupNames
      (runChecks e.host (e.masker.mask d.text d.format) (.fresh d.format) before).2 (.fresh d.format) := by
    intro n hn
    rw [Context.contains_fresh, Bool.eq_false_iff, ne_eq, contains_runChecks]
    rintro (hfresh | ⟨b, hb, hnb⟩)
    · cases hfresh
    · rcases hbefore b hb with ⟨⟨q, ps, hq⟩, hkey⟩ | hfree
      · have hb' := hcompiled b (by simp [hchecks, hb])
        have hc' := hcompiled c (by simp [hchecks])
        exact Check.not_mem_groupNames hb' hc' hkey (Check.mem_groupNames_of_mem_noted hq hnb) hn
      · exact hfree n hnb hn
  rw [checkWith_only hchecks, hchecks, getElem?_runChecks, Check.run_consistency_congr hmatcher hsame]

/-! ## Two rules of spelling -/

def spellingRule (name : CheckName) (first second : String) : Definition where
  name := name
  message := ""
  description := ""
  severity := .suggestion
  scope := "text"
  link := none
  ignoreCase := false
  negate := false
  kind := .consistency [(first, second)] true

def spellingCheck? (name : CheckName) (first second : String) : Option Check :=
  ((spellingRule name first second).compile none .empty).toOption

theorem compiled_of_spellingCheck? {name : CheckName} {first second : String} {c : Check}
    (h : spellingCheck? name first second = some c) : c.Compiled ∧ c.name = name ∧ c.IsConsistency := by
  unfold spellingCheck? at h
  cases hc : (spellingRule name first second).compile none .empty with
  | error e => simp [hc, Except.toOption] at h
  | ok b =>
    rw [hc] at h
    obtain rfl := Option.some.inj h
    obtain ⟨hname, hmakes⟩ := Definition.makes_of_compile hc
    exact ⟨⟨_, _, _, hc⟩, hname, Check.isConsistency_of_kindName hmakes.kindName⟩

/-- A text without addresses, in which a rule of colors and one of grays find something. -/
def colorText : List Char := "color grey".toList

theorem mask_colorText : Masker.plain.mask colorText "text" = .unmasked colorText := by
  refine Masker.mask_eq_unmasked fun s hs => ?_
  have hnone : Masker.found colorText urlPattern = [] := by
    rw [urlPattern_eq]
    decide +kernel
  rw [hnone] at hs
  cases hs

/-- A host on which no script runs. -/
def noScripts : ScriptHost := ⟨fun _ => .error .malformedOutput, 0⟩

/-- An engine with two checks that looks at everything but addresses. -/
def ofTwo (a b : Check) (h : a.name.full ≠ b.name.full) : Engine :=
  ⟨⟨[a, b], by simp [h]⟩, .plain, noScripts⟩

def colorName : CheckName := ⟨"T", "Colors", by decide +kernel, by decide +kernel⟩

def grayName : CheckName := ⟨"T", "Grays", by decide +kernel, by decide +kernel⟩

/-- Two rules of spelling whose names have different keys do not disturb each other. -/
theorem consistency_alone_spelling :
    ∃ (e : Engine) (a c : Check), (∀ b ∈ e.registry.checks, b.Compiled) ∧ e.registry.checks = [a] ++ c :: [] ∧
      c.IsConsistency ∧ (∀ b ∈ [a], LeavesAlone (e.masker.mask colorText "text") b c) ∧
      (runChecks e.host (e.masker.mask colorText "text") (.fresh "text") e.registry.checks).1[1]? =
        some (e.checkWith (· = c) ⟨colorText, "text"⟩) := by
  have hread : (spellingCheck? colorName "color" "colour").isSome ∧ (spellingCheck? grayName "gray" "grey").isSome := by
    decide +kernel
  obtain ⟨a, ha⟩ := Option.isSome_iff_exists.1 hread.1
  obtain ⟨c, hc⟩ := Option.isSome_iff_exists.1 hread.2
  obtain ⟨hacompiled, haname, hakind⟩ := compiled_of_spellingCheck? ha
  obtain ⟨hccompiled, hcname, hckind⟩ := compiled_of_spellingCheck? hc
  have hne : a.name.full ≠ c.name.full := by
    rw [haname, hcname]
    decide +kernel
  have hkey : Rule.groupKey a.name ≠ Rule.groupKey c.name := by
    rw [haname, hcname]
    decide +kernel
  have hcompiled : ∀ b ∈ (ofTwo a c hne).registry.checks, b.Compiled := by
    intro b hb
    rcases List.mem_cons.1 hb with rfl | hb
    · exact hacompiled
    · exact List.mem_singleton.1 hb ▸ hccompiled
  have hbefore : ∀ b ∈ [a], LeavesAlone ((ofTwo a c hne).masker.mask colorText "text") b c :=
    fun b hb => .inl (List.mem_singleton.1 hb ▸ ⟨hakind, hkey⟩)
  exact ⟨ofTwo a c hne, a, c, hcompiled, rfl, hckind, hbefore,
    consistency_alone (ofTwo a c hne) hcompiled rfl hckind ⟨colorText, "text"⟩ hbefore⟩

def hyphenName : CheckName := ⟨"T", "a-b", by decide +kernel, by decide +kernel⟩

def underscoreName : CheckName := ⟨"T", "a_b", by decide +kernel, by decide +kernel⟩

/-- **Two rules of spelling whose names have one key disturb each other.** The check of colors notes
the first group of the key, so the check of grays takes its second group for the second variant of a
pair. -/
theorem consistency_disturbed :
    ∃ (e : Engine) (a c : Check), (∀ b ∈ e.registry.checks, b.Compiled) ∧ e.registry.checks = [a] ++ c :: [] ∧
      c.IsConsistency ∧
      (runChecks e.host (e.masker.mask colorText "text") (.fresh "text") e.registry.checks).1[1]? ≠
        some (e.checkWith (· = c) ⟨colorText, "text"⟩) := by
  have hruns : (spellingCheck? hyphenName "color" "colour").bind (fun a =>
      (spellingCheck? underscoreName "gray" "grey").map fun c =>
        ((runChecks noScripts (.unmasked colorText) (.fresh "text") [a, c]).1[1]?.map (·.map (·.span)),
          (c.run (.unmasked colorText) (.fresh "text") noScripts).1.map (·.span))) =
      some (some [⟨6, 10⟩], []) := by
    decide +kernel
  obtain ⟨a, ha, hruns⟩ := Option.bind_eq_some_iff.1 hruns
  obtain ⟨c, hc, hruns⟩ := Option.map_eq_some_iff.1 hruns
  obtain ⟨hacompiled, haname, -⟩ := compiled_of_spellingCheck? ha
  obtain ⟨hccompiled, hcname, hckind⟩ := compiled_of_spellingCheck? hc
  have hne : a.name.full ≠ c.name.full := by
    rw [haname, hcname]
    decide +kernel
  refine ⟨ofTwo a c hne, a, c, fun b hb => ?_, rfl, hckind, fun hsame => ?_⟩
  · rcases List.mem_cons.1 hb with rfl | hb
    · exact hacompiled
    · exact List.mem_singleton.1 hb ▸ hccompiled
  · obtain ⟨hboth, halone⟩ := Prod.mk.inj hruns
    have hchecks : (ofTwo a c hne).registry.checks = [a] ++ c :: [] := rfl
    have honly := checkWith_only hchecks ⟨colorText, "text"⟩
    have hmask : (ofTwo a c hne).masker.mask colorText "text" = .unmasked colorText := mask_colorText
    simp only [hmask] at hsame honly
    have hfound : (runChecks noScripts (.unmasked colorText) (.fresh "text") [a, c]).1[1]? =
        some (c.run (.unmasked colorText) (.fresh "text") noScripts).1 := hsame.trans (congrArg some honly)
    rw [hfound] at hboth
    simp [halone] at hboth

end Engine

end ProseLint
