/-
More checks among the active ones. What a check contributes to the alerts on a document is what it finds
after the active checks before it (`Engine.contributed_eq`), and these only add to the context. A
conditional check knows what the context holds, so with more of it fewer matches are flagged: those whose
text was added are left out, and nothing else changes (`Check.conditional_filter`). So a conditional check
never finds more when more checks are active (`Engine.conditional_antitone`).
-/
import ProseLint.Proofs.Check.Findings
import ProseLint.Proofs.Check.Isolation

namespace ProseLint

open Text (Span)
open Pattern (Match)

namespace Check

def IsConditional (c : Check) : Prop :=
  ∃ antecedent consequent exceptions, c.matcher = .conditional antecedent consequent exceptions

/-- A check pushes a text when it is run, whatever the context holds. -/
def Pushes (t : Masked) (host : ScriptHost) (c : Check) (text : List Char) : Prop :=
  ∀ ctx, ∃ pushed, (c.run t ctx host).2.notes = ctx.notes ++ pushed ∧ String.ofList text ∈ pushed

variable {text : List Char} {ranges : List Span}

theorem pushes_iff {t : Masked} {host : ScriptHost} {c : Check} {said : List Char} :
    Pushes t host c said ↔ String.ofList said ∈ c.noted t := by
  constructor
  · intro h
    obtain ⟨pushed, hnotes, hmem⟩ := h (.fresh "")
    rw [notes_run] at hnotes
    exact (List.append_cancel_left hnotes) ▸ hmem
  · exact fun hmem ctx => ⟨c.noted t, notes_run c t ctx host, hmem⟩

def flags (text : List Char) (notes : List String) (a : Alert) : Bool :=
  (Text.slice? text a.span).any fun said => notes.contains (String.ofList said)

theorem flags_iff {notes : List String} {a : Alert} :
    flags text notes a = true ↔ ∃ said, Text.slice? text a.span = some said ∧ String.ofList said ∈ notes := by
  unfold flags
  cases Text.slice? text a.span <;> simp

/-- What a conditional check flags: the matches whose text is neither in the context, nor defined in the
text, nor an exception. -/
theorem conditional_alerts (c : Check) (antecedent consequent : Pattern) (exceptions : List String) (t : Masked)
    (ctx : Context) :
    (c.conditional antecedent consequent exceptions t ctx).1 =
      ((consequent.findAll t.copy).filter fun m => !t.isMasked m.span && !(ctx.contains (String.ofList m.text) ||
        ((antecedent.findAll t.copy).filterMap (defined? t)).contains (String.ofList m.text) ||
          exceptions.contains (String.ofList m.text))).map fun m => c.alert m.span [t.slice m.span] := by
  simp only [conditional, Std.HashSet.contains_ofList, Context.contains_foldl_push, Bool.not_or]

/-- **More notes leave out the alerts at what was noted**, and nothing else. -/
theorem conditional_filter (h : RangedIn text ranges) (c : Check) (antecedent consequent : Pattern)
    (exceptions more : List String) {ctx ctx' : Context}
    (hctx : ∀ n, ctx'.contains n = (ctx.contains n || more.contains n)) :
    (c.conditional antecedent consequent exceptions (.ofRanges text ranges) ctx').1 =
      (c.conditional antecedent consequent exceptions (.ofRanges text ranges) ctx).1.filter
        fun a => !flags text more a := by
  rw [conditional_alerts, conditional_alerts, List.filter_map, List.filter_filter]
  refine congrArg (List.map _) (List.filter_congr fun m hm => ?_)
  cases hu : (Masked.ofRanges text ranges).isMasked m.span with
  | true => simp
  | false =>
    have hslice := slice_of_unmasked h (Pattern.Program.within_of_mem_findAll hm) hu
    have hflags : ∀ args, flags text more (c.alert m.span args) = more.contains (String.ofList m.text) := by
      intro args
      rw [flags, span_alert, hslice]
      rfl
    rw [Function.comp_apply, hflags, hctx]
    cases more.contains (String.ofList m.text) <;> simp

end Check

namespace Engine

variable {host : ScriptHost} {t : Masked}

/-- What a check contributes to the alerts on a document when some of the checks are active. -/
def contributed (e : Engine) (active : Check → Bool) (d : Document) (c : Check) : List Alert :=
  let checks := e.registry.checks.filter active
  let found := (runChecks e.host (e.masker.mask d.text d.format) (.fresh d.format) checks).1
  ((checks.zip found).lookup c).getD []

theorem lookup_runChecks (ctx : Context) {before : List Check} {c : Check} (after : List Check) (h : c ∉ before) :
    ((before ++ c :: after).zip (runChecks host t ctx (before ++ c :: after)).1).lookup c =
      some (c.run t (runChecks host t ctx before).2 host).1 := by
  induction before generalizing ctx with
  | nil => simp [runChecks]
  | cons b bs ih =>
    rw [List.mem_cons, not_or] at h
    simp only [List.cons_append, runChecks, List.zip_cons_cons, List.lookup_cons, beq_false_of_ne h.1]
    exact ih _ h.2

theorem nodup_checks (r : Registry) : r.checks.Nodup :=
  (List.pairwise_map.1 r.distinct).imp fun hne heq => hne (congrArg (·.name.full) heq)

/-- **A check contributes what it finds after the active checks before it.** -/
theorem contributed_eq {e : Engine} {before after : List Check} {c : Check}
    (hchecks : e.registry.checks = before ++ c :: after) {active : Check → Bool} (hactive : active c = true)
    (d : Document) :
    e.contributed active d c = (c.run (e.masker.mask d.text d.format)
      (runChecks e.host (e.masker.mask d.text d.format) (.fresh d.format) (before.filter active)).2 e.host).1 := by
  have hnodup := nodup_checks e.registry
  rw [hchecks] at hnodup
  have hbefore : c ∉ before.filter active := fun hmem =>
    (List.nodup_append.1 hnodup).2.2 c (List.mem_filter.1 hmem).1 c List.mem_cons_self rfl
  simp only [contributed, hchecks, List.filter_append, List.filter_cons_of_pos hactive]
  rw [lookup_runChecks _ _ hbefore]
  rfl

theorem flatten_runChecks (ctx : Context) {cs : List Check} (h : cs.Nodup) :
    (runChecks host t ctx cs).1.flatten =
      cs.flatMap fun c => ((cs.zip (runChecks host t ctx cs).1).lookup c).getD [] := by
  induction cs generalizing ctx with
  | nil => rfl
  | cons b bs ih =>
    obtain ⟨hb, hbs⟩ := List.nodup_cons.1 h
    simp only [runChecks, List.flatten_cons, List.zip_cons_cons, List.flatMap_cons, List.lookup_cons, beq_self_eq_true,
      Option.getD_some, ih _ hbs]
    congr 1
    rw [List.flatMap_def, List.flatMap_def]
    refine congrArg List.flatten (List.map_congr_left fun c hc => ?_)
    have hne : c ≠ b := fun heq => hb (heq ▸ hc)
    rw [beq_false_of_ne hne]

theorem checkWith_eq_contributed (e : Engine) (active : Check → Bool) (d : Document) :
    e.checkWith active d = (e.registry.checks.filter active).flatMap (e.contributed active d) :=
  flatten_runChecks _ ((nodup_checks e.registry).filter active)

/-- The texts that checks push which are active under `q` and not under `p`. -/
def added (t : Masked) (p q : Check → Bool) (cs : List Check) : List String :=
  (cs.filter fun b => q b && !p b).flatMap (·.noted t)

/-- More active checks leave more in the context: what they push. -/
theorem contains_added {p q : Check → Bool} {cs : List Check} (hpq : ∀ b ∈ cs, p b = true → q b = true)
    (ctx : Context) (n : String) :
    (runChecks host t ctx (cs.filter q)).2.contains n =
      ((runChecks host t ctx (cs.filter p)).2.contains n || (added t p q cs).contains n) := by
  rw [Bool.eq_iff_iff, Bool.or_eq_true, contains_runChecks, contains_runChecks, List.contains_iff_mem, added,
    List.mem_flatMap, or_assoc]
  refine or_congr_right ?_
  simp only [List.mem_filter, Bool.and_eq_true, Bool.not_eq_true']
  constructor
  · rintro ⟨b, ⟨hb, hqb⟩, hn⟩
    cases hpb : p b with
    | true => exact .inl ⟨b, ⟨hb, hpb⟩, hn⟩
    | false => exact .inr ⟨b, ⟨hb, hqb, hpb⟩, hn⟩
  · rintro (⟨b, ⟨hb, hpb⟩, hn⟩ | ⟨b, ⟨hb, hqb, -⟩, hn⟩)
    · exact ⟨b, ⟨hb, hpq b hb hpb⟩, hn⟩
    · exact ⟨b, ⟨hb, hqb⟩, hn⟩

theorem flags_added {p q : Check → Bool} {cs : List Check} {text : List Char} {a : Alert} :
    Check.flags text (added t p q cs) a = true ↔ ∃ b ∈ cs, q b = true ∧ p b = false ∧
      ∃ said, Text.slice? text a.span = some said ∧ b.Pushes t host said := by
  simp only [Check.flags_iff, added, List.mem_flatMap, List.mem_filter, Bool.and_eq_true, Bool.not_eq_true',
    Check.pushes_iff]
  constructor
  · rintro ⟨said, hsaid, b, ⟨hb, hq, hp⟩, hn⟩
    exact ⟨b, hb, hq, hp, said, hsaid, hn⟩
  · rintro ⟨b, hb, hq, hp, said, hsaid, hn⟩
    exact ⟨said, hsaid, b, ⟨hb, hq, hp⟩, hn⟩

/-- **A conditional check never finds more when more checks are active.** An alert is missing then exactly
when a check before it that is active now, and was not, pushes the text that the alert flags. -/
theorem conditional_antitone (e : Engine) {before after : List Check} {c : Check}
    (hchecks : e.registry.checks = before ++ c :: after) (hc : c.IsConditional) {p q : Check → Bool}
    (hpq : ∀ b ∈ e.registry.checks, p b = true → q b = true) (hp : p c = true) (d : Document) :
    (e.contributed q d c).Sublist (e.contributed p d c) ∧
      ∀ a ∈ e.contributed p d c, a ∉ e.contributed q d c ↔
        ∃ b ∈ before, q b = true ∧ p b = false ∧ ∃ said, Text.slice? d.text a.span = some said ∧
          b.Pushes (e.masker.mask d.text d.format) e.host said := by
  obtain ⟨antecedent, consequent, exceptions, hmatcher⟩ := hc
  have hbefore : ∀ b ∈ before, p b = true → q b = true := fun b hb => hpq b (by simp [hchecks, hb])
  have hq : q c = true := hpq c (by simp [hchecks]) hp
  have hfilter : e.contributed q d c = (e.contributed p d c).filter fun a =>
      !Check.flags d.text (added (e.masker.mask d.text d.format) p q before) a := by
    rw [contributed_eq hchecks hp, contributed_eq hchecks hq]
    simp only [Check.run, hmatcher]
    exact Check.conditional_filter (e.masker.rangedIn_ranges d.text d.format) c antecedent consequent exceptions _
      (contains_added hbefore _)
  rw [hfilter]
  refine ⟨List.filter_sublist, fun a ha => ?_⟩
  rw [List.mem_filter, ← flags_added]
  simp [ha]

/-! ## Two checks of definitions -/

/-- A check that flags what a pattern matches, unless another one defines it. -/
def definedCheck (name : CheckName) (antecedent consequent : Pattern) : Check where
  name := name
  severity := .suggestion
  scope := "text"
  message := ""
  description := ""
  link := none
  matcher := .conditional antecedent consequent []

/-- A check that defines `grey` leaves one after it nothing to flag that would flag it alone. -/
theorem conditional_antitone_defined :
    ∃ (e : Engine) (a c : Check), e.registry.checks = [a] ++ c :: [] ∧ c.IsConditional ∧
      (∀ b ∈ e.registry.checks, (b = c : Bool) = true → true = true) ∧ (c = c : Bool) = true ∧
      (e.contributed (· = c) ⟨colorText, "text"⟩ c).map (·.span) = [⟨6, 10⟩] ∧
      e.contributed (fun _ => true) ⟨colorText, "text"⟩ c = [] ∧
      (e.contributed (fun _ => true) ⟨colorText, "text"⟩ c).Sublist (e.contributed (· = c) ⟨colorText, "text"⟩ c) ∧
      ∀ x ∈ e.contributed (· = c) ⟨colorText, "text"⟩ c, x ∉ e.contributed (fun _ => true) ⟨colorText, "text"⟩ c ↔
        ∃ b ∈ [a], true = true ∧ (b = c : Bool) = false ∧ ∃ said, Text.slice? colorText x.span = some said ∧
          b.Pushes (e.masker.mask colorText "text") e.host said := by
  let t : Masked := .unmasked colorText
  have hgrey : (Pattern.ofText? "(grey)").map (fun p => ((p.findAll colorText).filterMap (Check.defined? t),
      (p.findAll colorText).map fun m => (m.span, m.text))) = some (["grey"], [(⟨6, 10⟩, "grey".toList)]) := by
    decide +kernel
  have hgray : (Pattern.ofText? "(gray)").map (fun p => (p.findAll colorText).filterMap (Check.defined? t)) =
      some [] := by
    decide +kernel
  obtain ⟨grey, -, hgrey⟩ := Option.map_eq_some_iff.1 hgrey
  obtain ⟨gray, -, hgray⟩ := Option.map_eq_some_iff.1 hgray
  obtain ⟨hdefined, hfound⟩ := Prod.mk.inj hgrey
  obtain ⟨m, hm, hmatch⟩ := List.map_eq_singleton_iff.1 hfound
  obtain ⟨hspan, htext⟩ := Prod.mk.inj hmatch
  let a := definedCheck colorName grey gray
  let c := definedCheck grayName gray grey
  have hne : a.name.full ≠ c.name.full := (by decide +kernel : colorName.full ≠ grayName.full)
  have hac : a ≠ c := fun heq => hne (heq ▸ rfl)
  have hchecks : (ofTwo a c hne).registry.checks = [a] ++ c :: [] := rfl
  have hmask : (ofTwo a c hne).masker.mask colorText "text" = t := mask_colorText
  have hrun (ctx : Context) : (c.run t ctx noScripts).1 =
      if ctx.contains "grey" then [] else [c.alert ⟨6, 10⟩ [t.slice ⟨6, 10⟩]] := by
    have hmasked : t.isMasked ⟨6, 10⟩ = false := by decide +kernel
    have hcopy : t.copy = colorText := rfl
    rw [Check.run]
    simp only [c, definedCheck, Check.conditional_alerts, hcopy, hm, hgray]
    cases hctx : ctx.contains "grey" <;> simp [hspan, htext, hmasked, hctx]
  refine ⟨ofTwo a c hne, a, c, hchecks, ⟨_, _, _, rfl⟩, fun _ _ _ => rfl, by simp, ?_, ?_,
    conditional_antitone (ofTwo a c hne) hchecks ⟨_, _, _, rfl⟩ (p := (· = c)) (q := fun _ => true) (fun _ _ _ => rfl)
      (by simp) ⟨colorText, "text"⟩⟩
  · rw [contributed_eq hchecks (by simp), hmask, List.filter_cons_of_neg (by simp [hac])]
    exact congrArg (List.map (·.span)) (hrun (.fresh "text"))
  · have hnoted : a.noted t = ["grey"] := hdefined
    rw [contributed_eq hchecks rfl, hmask]
    refine (hrun _).trans (if_pos ((contains_runChecks _ _ _).2 (.inr ⟨a, by simp, ?_⟩)))
    rw [hnoted, List.mem_singleton]

end Engine

end ProseLint
