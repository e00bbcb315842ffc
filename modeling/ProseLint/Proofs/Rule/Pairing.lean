/-
The pairs of groups and replacements of a substitution rule. Where each entry that is kept makes a rule of its
own, the pattern has as many groups as there are replacements exactly if no entry but the last opens a group,
and then each alert recommends the replacement of an entry that alone finds what is flagged
(`Definition.substitution_recommends`).
-/
import ProseLint.Proofs.Check.Dictionary
import ProseLint.Proofs.Pattern.Bars
import ProseLint.Proofs.Pattern.Numbered
import ProseLint.Proofs.Rule.Usable

namespace ProseLint

open Text (Span)
open Pattern (Expr Flags Match Program Reader edge? joined)
open Rule

/-! ## Entries -/

namespace Rule

/-- Whether a pattern opens no group, not even one that is repeated no times. -/
def opensNoGroup (pattern : String) : Bool :=
  (Reader.initial.read? pattern.length pattern.toList).any (·.groups = 0)

variable {f : Flags} {pattern : String} {r : Reader}

/-- A pattern that is usable keeps no group. -/
theorem noGroups_of_isUsable (hf : f.plain = .initial) (h : isUsable pattern = true)
    (hr : Reader.Fits f pattern.toList r) : r.body.expr.NoGroups := by
  obtain ⟨p, hp, hcount⟩ := (Option.any_eq_true _ _).1 h
  have hcount : p.groupCount = 0 := of_decide_eq_true hcount
  obtain ⟨q, hq, -, hindices⟩ := Reader.exists_read?_initial hf hr.read
  rw [String.length_toList] at hq
  obtain ⟨-, hpos⟩ := (Reader.ordered_initial.read? hq).body (Reader.opened_of_read? hq)
  rw [Pattern.groupCount_eq hp hq, hindices] at hcount
  rw [hindices] at hpos
  rw [Expr.NoGroups]
  cases hgroups : r.body.expr.groupIndices [] with
  | nil => rfl
  | cons i is =>
    rw [hgroups] at hcount hpos
    have hi := hpos i List.mem_cons_self
    simp only [List.head?_cons, Option.getD_some] at hcount
    omega

theorem opensNoGroup_iff (hf : f.plain = .initial) (hr : Reader.Fits f pattern.toList r) :
    opensNoGroup pattern = true ↔ r.groups = 0 := by
  obtain ⟨q, hq, hgroups, -⟩ := Reader.exists_read?_initial hf hr.read
  rw [String.length_toList] at hq
  rw [opensNoGroup, hq, Option.any_some, decide_eq_true_iff, hgroups]

end Rule

theorem Check.eq_of_takenGroup? {p : Pattern} {m : Match} {i j : Nat} {s s' : Span} (hgroups : m.groups = [(j, s')])
    (h : takenGroup? p m = some (i, s)) : i = j ∧ s = s' := by
  obtain ⟨k, hk, htook⟩ := List.exists_of_findSome?_eq_some h
  obtain ⟨s₀, hs₀, heq⟩ := Option.map_eq_some_iff.1 htook
  obtain ⟨rfl, rfl⟩ := Prod.mk.inj heq
  have hpos : k ≠ 0 := by
    have := (List.mem_range'_1.1 hk).1
    omega
  have hgroup := (Option.filter_eq_some_iff.1 hs₀).1
  rw [Match.group?, if_neg hpos, hgroups, List.lookup_cons] at hgroup
  by_cases hkj : k = j
  · subst hkj
    simp only [beq_self_eq_true] at hgroup
    exact ⟨rfl, (Option.some.inj hgroup).symm⟩
  · have hne : (k == j) = false := by simpa using hkj
    simp [hne] at hgroup

namespace Definition

variable {d : Definition} {swap : List (String × String)} {nonword : Bool} {p : Pattern} {rs : List Reader}

theorem toList_groups (swap : List (String × String)) :
    (alternatives (swap.map fun e => "(" ++ e.1 ++ ")")).toList = joined (swap.map fun e => (none, e.1.toList)) := by
  have hopen : "(".toList = ['('] := by decide
  have hclose : ")".toList = [')'] := by decide
  rw [Pattern.toList_alternatives]
  simp [joined, Pattern.enclosed, hopen, hclose, Function.comp_def]

/-- **An entry that is usable and makes a rule of its own fits into a group.** -/
theorem exists_fits_entry {e : String × String} (husable : isUsable e.1 = true)
    (h : (d.entryPattern? nonword e).isSome) : ∃ r, Reader.Fits d.flags e.1.toList r := by
  obtain ⟨p, hp, -⟩ := (Option.any_eq_true _ _).1 husable
  obtain ⟨q, hq⟩ := Option.isSome_iff_exists.1 h
  obtain ⟨r₀, hr₀, -⟩ := Pattern.exists_of_ofText? hp
  rw [← String.length_toList] at hr₀
  obtain ⟨r, hr⟩ := Reader.exists_read?_under (f := d.flags) rfl hr₀
  obtain ⟨r₁, hr₁, -⟩ := Pattern.exists_of_ofText? hq
  rw [substitutionSource, String.toList_append] at hr₁
  obtain ⟨m, s, hs, -, hread⟩ := exists_bare hr₁
  obtain ⟨m, s, hs, -, hread⟩ := Reader.exists_of_wrap rfl hs hread
  have hverbose : s.flags.verbose = false := by rw [hs.flags]; rfl
  rw [toList_groups, joined, List.map_singleton, List.map_singleton, List.intercalate_singleton] at hread
  obtain ⟨m, x, hx, hread⟩ := Reader.exists_of_read?_next hverbose hread
  obtain rfl := Option.some.inj (hx.symm.trans (Reader.step?_plainGroup hverbose _))
  have hflags : (s.openGroup s.flags none).flags = d.flags := hs.flags
  have hend : '\n' ∉ ')' :: Pattern.edgeText nonword := by cases nonword <;> decide
  rw [← hflags] at hr ⊢
  exact ⟨r, Reader.fits_of_read?_enclosed hr hverbose hend hread⟩

/-- **Entries are read to their groups**, which are tried one after the other. -/
theorem program_of_entries (hrs : List.Forall₂ (fun e r => Reader.Fits d.flags e.1.toList r) swap rs) (hne : swap ≠ [])
    (hp : Pattern.ofText? (d.substitutionSource swap nonword) = some p) :
    p.program = .ofChoices (edge? d.flags nonword) (Reader.numbered 0 rs) ∧
      ((∀ r ∈ rs, r.body.expr.NoGroups) → (p.groupCount = rs.length ↔ ∀ r ∈ rs.dropLast, r.groups = 0)) := by
  obtain ⟨r, hr, hprogram, -⟩ := Pattern.exists_of_ofText? hp
  have htext := hr
  rw [substitutionSource, String.toList_append] at htext
  obtain ⟨m, s, hbare, hempty, hread⟩ := exists_bare htext
  have hfits : List.Forall₂ (fun (e : Option (List Char) × List Char) r => Reader.Fits d.flags e.2 r)
      (swap.map fun e => (none, e.1.toList)) rs := List.forall₂_map_left_iff.2 hrs
  have hsome : (swap.map fun e => ((none, e.1.toList) : Option (List Char) × List Char)) ≠ [] := by simpa using hne
  have hrs' : rs ≠ [] := by
    rintro rfl
    exact hne (List.forall₂_nil_right_iff.1 hrs)
  have hnames : ∀ e ∈ swap.map fun e => ((none, e.1.toList) : Option (List Char) × List Char), ∀ n ∈ e.1, '>' ∉ n := by
    intro e he n hn
    obtain ⟨_, -, rfl⟩ := List.mem_map.1 he
    cases hn
  obtain ⟨hbody, -⟩ := Reader.body_of_joined rfl hbare hfits hnames hsome (toList_groups swap) hread
  obtain ⟨hchoice, -⟩ := Reader.choiceOf_wrap rfl hbare hfits hnames hsome (toList_groups swap) hread
  refine ⟨?_, fun hgroups => Reader.groupCount_eq_length_iff hp hr hchoice hgroups hrs'⟩
  rw [hprogram, hbody]
  refine Program.ofExpr_edges d.flags nonword ?_ _
  intro e he
  obtain ⟨x, hx, rfl⟩ := List.mem_map.1 he
  exact hempty x (List.mem_reverse.1 hx)

/-- The pattern of an entry that is alone in its rule tries the group of the entry. -/
theorem program_of_entry {e : String × String} {r : Reader} (hr : Reader.Fits d.flags e.1.toList r)
    (hgroups : r.body.expr.NoGroups) (hp : d.entryPattern? nonword e = some p) :
    p.program = .ofChoices (edge? d.flags nonword) [(1, r.body.expr)] := by
  have hsingle : Reader.numbered 0 [r] = [(1, r.body.expr)] := by
    rw [Reader.numbered, Reader.groupAfter, Expr.map_of_noGroups _ _ hgroups]
    rfl
  rw [← hsingle]
  exact (program_of_entries (.cons hr .nil) (List.cons_ne_nil _ _) hp).1

/-- Where no entry but the last opens a group, each group is that of the entry that has its number. -/
theorem exists_entry_of_mem_numbered (hrs : List.Forall₂ (fun e r => Reader.Fits d.flags e.1.toList r) swap rs)
    (hgroups : ∀ r ∈ rs, r.body.expr.NoGroups) (hnone : ∀ r ∈ rs.dropLast, r.groups = 0) {g : Nat × Expr}
    (hg : g ∈ Reader.numbered 0 rs) :
    ∃ e r, swap[g.1 - 1]? = some e ∧ Reader.Fits d.flags e.1.toList r ∧ r.body.expr.NoGroups ∧ g.2 = r.body.expr := by
  rw [Reader.numbered_eq_zipIdx 0 hnone] at hg
  obtain ⟨⟨r, i⟩, hr, rfl⟩ := List.mem_map.1 hg
  obtain ⟨-, hr⟩ := List.mk_mem_zipIdx_iff_le_and_getElem?_sub.1 hr
  obtain ⟨hlt, hget⟩ := List.getElem?_eq_some_iff.1 hr
  obtain ⟨hlength, hfits⟩ := List.forall₂_iff_get.1 hrs
  have hfit := hfits (i - 1) (by omega) hlt
  rw [List.get_eq_getElem, List.get_eq_getElem, hget] at hfit
  have hr := hgroups r (hget ▸ List.getElem_mem hlt)
  exact ⟨_, r, List.getElem?_eq_getElem (by omega), hfit, hr, Expr.map_of_noGroups _ _ hr⟩

/-- **A match takes the group of an entry that finds it alone.** -/
theorem exists_entry_of_mem_findAll (hrs : List.Forall₂ (fun e r => Reader.Fits d.flags e.1.toList r) swap rs)
    (hne : swap ≠ []) (hgroups : ∀ r ∈ rs, r.body.expr.NoGroups) (hnone : ∀ r ∈ rs.dropLast, r.groups = 0)
    (hown : ∀ e ∈ swap, (d.entryPattern? nonword e).isSome)
    (hp : Pattern.ofText? (d.substitutionSource swap nonword) = some p) {text : List Char} {m : Match}
    (hm : m ∈ p.findAll text) :
    ∃ i e q, m.groups = [(i, m.span)] ∧ swap[i - 1]? = some e ∧ d.entryPattern? nonword e = some q ∧
      q.Finds text m.span.start m.span := by
  rw [Pattern.findAll, (program_of_entries hrs hne hp).1] at hm
  obtain ⟨f, rfl, hf⟩ := Program.exists_finish_of_mem_findAll hm
  have hnumbered : Reader.numbered 0 rs ≠ [] := by
    cases hrs with
    | nil => exact absurd rfl hne
    | cons => simp [Reader.numbered]
  obtain ⟨g, hg, htook, f', hf', hspan⟩ :=
    Program.ofChoices_found hnumbered (Reader.noGroups_of_mem_numbered hgroups) hf
  obtain ⟨e, r, he, hr, hnoGroups, hbody⟩ := exists_entry_of_mem_numbered hrs hgroups hnone hg
  obtain ⟨q, hq⟩ := Option.isSome_iff_exists.1 (hown e (List.mem_of_getElem? he))
  rw [hbody, ← program_of_entry hr hnoGroups hq] at hf'
  have hfinds := Pattern.finds_of_finish? hf.within.start hf'
  rw [hspan] at hfinds
  exact ⟨g.1, e, q, htook, he, hq, hfinds⟩

/-- An alert recommends the replacement of the entry whose group took what is flagged. -/
theorem exists_recommends (hrs : List.Forall₂ (fun e r => Reader.Fits d.flags e.1.toList r) swap rs) (hne : swap ≠ [])
    (hgroups : ∀ r ∈ rs, r.body.expr.NoGroups) (hnone : ∀ r ∈ rs.dropLast, r.groups = 0)
    (hown : ∀ e ∈ swap, (d.entryPattern? nonword e).isSome)
    (hp : Pattern.ofText? (d.substitutionSource swap nonword) = some p) {c : Check} {t : Masked} {a : Alert}
    (ha : a ∈ c.substitution p (swap.map (·.2)) t) : ∃ e ∈ swap, d.Recommends nonword c t a e := by
  obtain ⟨m, hm, halert⟩ := List.mem_filterMap.1 ha
  obtain ⟨⟨i, s⟩, htaken, halert⟩ := Option.bind_eq_some_iff.1 halert
  obtain ⟨j, e, q, htook, he, hq, hfinds⟩ := exists_entry_of_mem_findAll hrs hne hgroups hnone hown hp hm
  obtain ⟨rfl, rfl⟩ := Check.eq_of_takenGroup? htook htaken
  simp only at halert
  split at halert
  · cases halert
  · rw [List.getElem?_map, he] at halert
    obtain rfl := Option.some.inj halert
    exact ⟨e, List.mem_of_getElem? he, ⟨q, hq, hfinds⟩, rfl⟩

/-- **Groups and replacements of a rule go together unless an entry opens a group that it loses.** Where each
entry that is kept makes a rule of its own, there are as many groups as replacements exactly if no entry but the
last opens a group; and then each alert recommends the replacement of an entry that alone in the rule finds what
is flagged. -/
theorem substitution_recommends (hkind : d.kind = .substitution swap nonword) {stylesPath : Option String} {fs : Files}
    {c : Check} (h : d.compile stylesPath fs = .ok c) (hown : ∀ e ∈ usable swap, (d.entryPattern? nonword e).isSome) :
    ∃ p replacements, c.matcher = .substitution p replacements ∧ replacements = (usable swap).map (·.2) ∧
      (p.groupCount = replacements.length ↔ ∀ e ∈ (usable swap).dropLast, opensNoGroup e.1 = true) ∧
      (p.groupCount = replacements.length → ∀ (t : Masked) (ctx : Context) (host : ScriptHost),
        ∀ a ∈ (c.run t ctx host).1, ∃ e ∈ usable swap, d.Recommends nonword c t a e) := by
  obtain ⟨p, hmatcher, -⟩ := (substitutes_compile hkind stylesPath fs).check c h
  have hmakes := (makes_of_compile h).2
  rw [hmatcher] at hmakes
  obtain ⟨swap', nonword', hkind', hne, hp, -⟩ := hmakes
  obtain ⟨rfl, rfl⟩ := RuleKind.substitution.inj (hkind.symm.trans hkind')
  have husable : ∀ e ∈ usable swap, isUsable e.1 = true := by
    intro e he
    exact (List.mem_filter.1 he).2
  obtain ⟨rs, hrs⟩ := Pattern.exists_forall₂ fun e he => exists_fits_entry (husable e he) (hown e he)
  have hgroups : ∀ r ∈ rs, r.body.expr.NoGroups := by
    intro r hr
    obtain ⟨e, he, hfits⟩ := (Pattern.exists_mem_of_forall₂ hrs).2 r hr
    exact noGroups_of_isUsable rfl (husable e he) hfits
  have hcount := (program_of_entries hrs hne hp).2 hgroups
  rw [← hrs.length_eq, ← List.length_map (·.2)] at hcount
  refine ⟨p, _, hmatcher, rfl, ?_, ?_⟩
  · obtain ⟨hleft, hright⟩ := Pattern.exists_mem_of_forall₂ (Pattern.forall₂_dropLast hrs)
    rw [hcount]
    constructor
    · intro hnone e he
      obtain ⟨r, hr, hfits⟩ := hleft e he
      exact (opensNoGroup_iff rfl hfits).2 (hnone r hr)
    · intro hnone r hr
      obtain ⟨e, he, hfits⟩ := hright r hr
      exact (opensNoGroup_iff rfl hfits).1 (hnone e he)
  · intro hall t ctx host a ha
    have hrun : (c.run t ctx host).1 = c.substitution p ((usable swap).map (·.2)) t := by
      rw [Check.run, hmatcher]
    rw [hrun] at ha
    exact exists_recommends hrs hne hgroups (hcount.1 hall) hown hp ha

/-- Entries of which the second is left out, the third switches a flag and the last loses a group. -/
def shadeSwap : List (String × String) :=
  [("colou?r|hue", "shade"), ("(gr)ay", "grey"), ("(?x) u s", "we"), ("(a)\x7b0\x7db", "c")]

/-- A text with something for each entry. -/
def shadeText : List Char := "hue gray us b".toList

theorem substitution_recommends_shade :
    (usable shadeSwap).map (·.1) = ["colou?r|hue", "(?x) u s", "(a)\x7b0\x7db"] ∧
    (∀ e ∈ usable shadeSwap, ((wordsRule shadeSwap).entryPattern? false e).isSome) ∧
    opensNoGroup "(a)\x7b0\x7db" = false ∧
    ∃ c p, (wordsRule shadeSwap).compile none .empty = .ok c ∧ c.matcher = .substitution p ["shade", "we", "c"] ∧
      p.groupCount = 3 ∧ ∀ ctx host,
        (c.run (Masker.plain.mask shadeText "text") ctx host).1.map (·.span) = [⟨0, 3⟩, ⟨9, 11⟩, ⟨12, 13⟩] ∧
        ∀ a ∈ (c.run (Masker.plain.mask shadeText "text") ctx host).1, ∃ e ∈ usable shadeSwap,
          (wordsRule shadeSwap).Recommends false c (Masker.plain.mask shadeText "text") a e := by
  have hkept : (usable shadeSwap).map (·.1) = ["colou?r|hue", "(?x) u s", "(a)\x7b0\x7db"] := by decide +kernel
  have hreplacements : (usable shadeSwap).map (·.2) = ["shade", "we", "c"] := by decide +kernel
  have hown : ∀ e ∈ usable shadeSwap, ((wordsRule shadeSwap).entryPattern? false e).isSome := by decide +kernel
  have hnone : ∀ e ∈ (usable shadeSwap).dropLast, opensNoGroup e.1 = true := by decide +kernel
  have hfound : ((wordsRule shadeSwap).compile none .empty).toOption.map (fun c =>
      (c.run (.unmasked shadeText) (.fresh "text") ⟨fun _ => .error .malformedOutput, 0⟩).1.map (·.span)) =
      some [⟨0, 3⟩, ⟨9, 11⟩, ⟨12, 13⟩] := by decide +kernel
  have hmask : Masker.plain.mask shadeText "text" = .unmasked shadeText :=
    Masker.mask_plain_of_not_mem (by decide) "text"
  obtain ⟨c, hcompile, hspans⟩ := exists_of_toOption_map hfound
  obtain ⟨p, replacements, hmatcher, rfl, hcount, hall⟩ := substitution_recommends rfl hcompile hown
  have hgroups := hcount.2 hnone
  refine ⟨hkept, hown, by decide +kernel, c, p, hcompile, hreplacements ▸ hmatcher, ?_, fun ctx host => ⟨?_, ?_⟩⟩
  · rw [hgroups, hreplacements]
    rfl
  · rw [Check.run, hmatcher] at hspans ⊢
    rw [hmask]
    exact hspans
  · exact hall hgroups _ ctx host

end Definition

end ProseLint
