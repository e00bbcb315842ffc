/-
Programs that try groups one after the other (`Program.ofChoices`). What such a program answers is what the
first group that can come to the end took, and the program of that group alone answers it as well
(`Program.ofChoices_found`).
-/
import Mathlib.Logic.Equiv.Basic
import ProseLint.Proofs.Pattern.Branches

namespace ProseLint.Pattern

open Text (Span)

namespace Program

variable {prog base : Program} {b : Expr}

/-! ## A group -/

/-- The step that closes a group, before which its body comes. -/
def closing (p : Program) (i : Nat) : Program := p.add (.closeGroup i p.start)

@[simp] theorem size_closing (p : Program) (i : Nat) : (p.closing i).steps.size = p.steps.size + 1 :=
  size_add _ _

@[simp] theorem start_closing (p : Program) (i : Nat) : (p.closing i).start = p.steps.size := rfl

theorem getElem?_closing (p : Program) (i n : Nat) : (p.closing i).steps[n]? =
    if n = p.steps.size then some (.closeGroup i p.start) else p.steps[n]? := getElem?_add _ _ _

theorem addExpr_group (p : Program) (i : Nat) (b : Expr) : addExpr p (.group i b) =
    (addExpr (p.closing i) b).add (.openGroup i (addExpr (p.closing i) b).start) := rfl

theorem succ_start_addGroup (p : Program) (i : Nat) (b : Expr) :
    (addExpr p (.group i b)).start + 1 = (addExpr p (.group i b)).steps.size := by
  rw [addExpr_group, size_add, start_add]

/-! ## What a group takes -/

/-- The steps of a group: the one that closes it, then its body, then the one that opens it. -/
structure GroupSteps (prog : Program) (first leave opening : Nat) : Prop where
  lt : first < opening
  closes : prog.steps[first]? = some (.closeGroup 1 leave)
  opens : ∃ m, prog.steps[opening]? = some (.openGroup 1 m) ∧ first ≤ m ∧ m < opening
  body : ∀ n, first < n → n < opening → ∃ s, prog.steps[n]? = some s ∧ s.isPlain = true ∧
    ∀ m ∈ s.nexts, first ≤ m ∧ m < opening

theorem groupSteps_of_extends (hb : b.NoGroups) (h : prog.Extends (addExpr base (.group 1 b))) :
    GroupSteps prog base.steps.size base.start (addExpr base (.group 1 b)).start := by
  have hapart : Apart id (base.closing 1) (base.closing 1) := ⟨rfl, fun _ => rfl⟩
  have hgrown : Grown id id (base.closing 1) (base.closing 1) (addExpr (base.closing 1) b)
      (addExpr (base.closing 1) (b.map id id)) := addExpr_grown b _ _ hapart
  have hplain : ∀ n, (base.closing 1).steps.size ≤ n → n < (addExpr (base.closing 1) b).steps.size → _ :=
    fun n => isPlain_of_noGroups hb
  rw [addExpr_group] at h ⊢
  generalize addExpr (base.closing 1) b = r at h hgrown hplain ⊢
  have hr := (Extends.refl r).add (.openGroup 1 r.start)
  have hsize := hgrown.size
  rw [size_closing] at hsize
  rw [start_add]
  refine ⟨hsize, ?_, ⟨r.start, ?_, ?_⟩, fun n h1 h2 => ?_⟩
  · rw [h.steps _ (by rw [size_add]; omega), hr.steps _ (by omega), hgrown.old _ (by rw [size_closing]; omega),
      getElem?_closing, if_pos rfl]
  · rw [h.steps _ (by rw [size_add]; omega), getElem?_add, if_pos rfl]
  · rcases hgrown.start with hs | ⟨h1, h2⟩
    · rw [hs, start_closing]
      omega
    · rw [size_closing] at h1
      omega
  · obtain ⟨s, hs, hplain, hnexts⟩ := hplain n (by rw [size_closing]; omega) h2
    refine ⟨s, ?_, hplain, fun m hm => ?_⟩
    · rw [h.steps _ (by rw [size_add]; omega), hr.steps _ h2, hs]
    · rcases hnexts m hm with rfl | ⟨h3, h4⟩
      · rw [start_closing]
        omega
      · rw [size_closing] at h3
        omega

end Program

/-- How far a thread has come with the only group of its program: not to it yet, into it, or past it, where
the group has taken everything. -/
inductive Thread.Stage (first opening : Nat) (p : Place) (t : Thread) : Prop
  | before (h : opening ≤ t.step) (ho : t.opened = []) (hg : t.groups = []) (hs : t.start.offset = p.offset)
  | within (h : first ≤ t.step) (h' : t.step < opening) (ho : t.opened = [(1, t.start.offset)])
      (hg : t.groups = [])
  | after (h : t.step < first) (hg : t.groups = [(1, ⟨t.start.offset, p.offset⟩)])

namespace Program

variable {prog base : Program} {p : Place} {t u : Thread} {us : List Thread} {s : Step}

theorem goTo_of_move_on (hs : prog.steps[t.step]? = some s) (hplain : s.isPlain = true)
    (hm : prog.move p t = .on us) (hu : u ∈ us) : ∃ m ∈ s.nexts, u = t.goTo m := by
  obtain ⟨s', hs', hbecomes⟩ := becomes_of_move_on hm hu
  obtain rfl := Option.some.inj (hs.symm.trans hs')
  cases hbecomes with
  | check => exact ⟨_, by simp [Step.nexts], rfl⟩
  | first => exact ⟨_, by simp [Step.nexts], rfl⟩
  | second => exact ⟨_, by simp [Step.nexts], rfl⟩
  | openGroup | closeGroup => cases hplain

/-- A program that does nothing but take a group, before which and after which it may check where it is. -/
structure OneGroup (prog base : Program) (opening : Nat) : Prop where
  ends : base.Ends
  steps : prog.Extends base
  group : GroupSteps prog base.steps.size base.start opening
  check : ∀ n, opening < n → ∀ s, prog.steps[n]? = some s → ∃ a, s = .check a opening

namespace OneGroup

variable {opening : Nat}

theorem cases_of_lt (h : OneGroup prog base opening) {n : Nat} (hn : n < base.steps.size) :
    prog.steps[n]? = some .done ∨ ∃ a m, prog.steps[n]? = some (.check a m) ∧ m < base.steps.size := by
  rw [h.steps.steps n hn]
  exact h.ends.step n hn

/-- The moves of a thread keep to the stages. -/
theorem keeps (h : OneGroup prog base opening) :
    prog.Keeps (Thread.Stage base.steps.size opening) where
  on {p t u us} hI hm hu := by
    obtain ⟨s, hs, hbecomes⟩ := becomes_of_move_on hm hu
    cases hI with
    | before hle ho hg hstart =>
      rcases Nat.eq_or_lt_of_le hle with heq | hlt
      · obtain ⟨m, hstep, hm1, hm2⟩ := h.group.opens
        rw [← heq, hstep] at hs
        obtain rfl := Option.some.inj hs
        cases hbecomes
        exact .within hm1 hm2 (by simp [Thread.openGroup, Thread.goTo, ho, hstart]) hg
      · obtain ⟨a, rfl⟩ := h.check _ hlt s hs
        cases hbecomes
        exact .before (Nat.le_refl _) ho hg hstart
    | within hle hlt ho hg =>
      rcases Nat.eq_or_lt_of_le hle with heq | hgt
      · rw [← heq, h.group.closes] at hs
        obtain rfl := Option.some.inj hs
        cases hbecomes
        exact .after h.ends.start (by simp [Thread.closeGroup, Thread.goTo, ho, hg])
      · obtain ⟨s', hstep, hplain, hnexts⟩ := h.group.body _ hgt hlt
        obtain ⟨m, hmem, rfl⟩ := goTo_of_move_on hstep hplain hm hu
        exact .within (hnexts m hmem).1 (hnexts m hmem).2 ho hg
    | after hlt hg =>
      rcases h.cases_of_lt hlt with hstep | ⟨a, m, hstep, hm'⟩
      all_goals
        obtain rfl := Option.some.inj (hs.symm.trans hstep)
        cases hbecomes
      exact .after hm' hg
  take {p t u c cs} hI hm hrest := by
    obtain ⟨S, next, hs, -, rfl⟩ := step_of_move_take hm
    cases hI with
    | before hle =>
      exfalso
      rcases Nat.eq_or_lt_of_le hle with heq | hlt
      · obtain ⟨m, hstep, -⟩ := h.group.opens
        rw [← heq, hstep] at hs
        cases hs
      · obtain ⟨a, ha⟩ := h.check _ hlt _ hs
        cases ha
    | within hle hlt ho hg =>
      rcases Nat.eq_or_lt_of_le hle with heq | hgt
      · rw [← heq, h.group.closes] at hs
        cases hs
      · obtain ⟨s, hstep, -, hnexts⟩ := h.group.body _ hgt hlt
        obtain rfl := Option.some.inj (hs.symm.trans hstep)
        have hnext := hnexts next (List.mem_singleton.2 rfl)
        exact .within hnext.1 hnext.2 ho hg
    | after hlt =>
      exfalso
      rcases h.cases_of_lt hlt with hstep | ⟨a, m, hstep, -⟩
      all_goals cases hs.symm.trans hstep

/-- **What the program answers is what its group took.** -/
theorem groups_of_finish? (h : OneGroup prog base opening) (hstart : opening ≤ prog.start) {f : Finish}
    (hf : prog.finish? p = some f) : f.thread.groups = [(1, f.span)] := by
  have hI : ∀ q, p.Leads q → Thread.Stage base.steps.size opening q (.ofPlace prog.start q) :=
    fun q _ => .before hstart rfl rfl rfl
  obtain ⟨hstage, hdone⟩ := finish?_keeps h.keeps hI hf
  cases hstage with
  | before hle =>
    exfalso
    rcases Nat.eq_or_lt_of_le hle with heq | hlt
    · obtain ⟨m, hstep, -⟩ := h.group.opens
      rw [← heq, hstep] at hdone
      cases hdone
    · obtain ⟨a, hs⟩ := h.check _ hlt _ hdone
      cases hs
  | within hle hlt =>
    exfalso
    rcases Nat.eq_or_lt_of_le hle with heq | hgt
    · rw [← heq, h.group.closes] at hdone
      cases hdone
    · obtain ⟨s, hstep, hplain, -⟩ := h.group.body _ hgt hlt
      rw [hstep] at hdone
      cases hdone
      cases hplain
  | after _ hg => exact hg

end OneGroup

/-! ## Several groups -/

/-- Groups, each with its index. -/
def groupsOf (gs : List (Nat × Expr)) : List Expr := gs.map fun g => .group g.1 g.2

/-- A program that tries groups one after the other; an assertion has to hold on both sides. -/
def ofChoices (a : Option Assertion) (gs : List (Nat × Expr)) : Program := ofBranches a (groupsOf gs)

theorem le_start_addCheck (a : Option Assertion) {p : Program} (h : p.start < p.steps.size) :
    p.start ≤ (addCheck a p).start := by
  cases a with
  | none => exact Nat.le_refl _
  | some a => exact Nat.le_of_lt h

variable {a : Option Assertion}

/-- The program of one group takes that group and checks where it is. -/
theorem oneGroup_ofChoices (a : Option Assertion) (hb : b.NoGroups) :
    OneGroup (ofChoices a [(1, b)]) (ending a) (addExpr (ending a) (.group 1 b)).start := by
  have hext := addCheck_extends a (addExpr (ending a) (.group 1 b))
  have hstart := succ_start_addGroup (ending a) 1 b
  refine ⟨ends_ending a, hext.trans (addExpr_extends _ _), groupSteps_of_extends hb hext, fun n hn s hs => ?_⟩
  change (addCheck a (addExpr (ending a) (.group 1 b))).steps[n]? = some s at hs
  generalize addExpr (ending a) (.group 1 b) = r at hs hn hstart ⊢
  cases a with
  | none =>
    rw [addCheck, Array.getElem?_eq_none (by omega)] at hs
    cases hs
  | some c =>
    rw [addCheck, getElem?_add] at hs
    split at hs
    · exact ⟨c, (Option.some.inj hs).symm⟩
    · rw [Array.getElem?_eq_none (by omega)] at hs
      cases hs

/-- A group under an index is the group under another one with its index changed. -/
theorem map_swap (hb : b.NoGroups) (i : Nat) : (Expr.group 1 b).map id (Equiv.swap 1 i) = .group i b := by
  rw [Expr.map, Equiv.swap_apply_left, Expr.map_of_noGroups _ b hb]

/-- **What a program that tries groups answers is what one of the groups took, and the program of that
group alone finds it as well.** -/
theorem ofChoices_found {gs : List (Nat × Expr)} (hne : gs ≠ []) (hgs : ∀ g ∈ gs, g.2.NoGroups)
    {text : List Char} {f : Finish} (hf : f.Found (ofChoices a gs) text) :
    ∃ g ∈ gs, f.thread.groups = [(g.1, f.span)] ∧
      ∃ f', (ofChoices a [(1, g.2)]).finish? f.thread.start = some f' ∧ f'.span = f.span := by
  have hagain := hf.again
  have hlive : (ofChoices a gs).LiveAt f.thread.start := (finish?_eq_some hagain).2.2.1
  generalize f.thread.start = P at hlive hagain ⊢
  have hnil : groupsOf gs ≠ [] := by simpa [groupsOf] using hne
  obtain ⟨pre, e, post, heq, -, he, f₁, f', hf₁, hf', hplace₁, hstart₁, hgroups₁⟩ := finish?_ofBranches hnil hlive
  obtain rfl : f = f' := Option.some.inj (hagain.symm.trans hf')
  have hmem : e ∈ groupsOf gs := by rw [heq]; simp
  obtain ⟨g, hg, rfl⟩ := List.mem_map.1 hmem
  -- The first group alone is the group with the index 1 with its index changed.
  have hswap := (map_swap (hgs g hg) g.1).symm
  rw [hswap] at he hf₁
  have hinj : ∀ {i j}, Equiv.swap 1 g.1 i = Equiv.swap 1 g.1 j → i = j := fun h => (Equiv.swap 1 g.1).injective h
  obtain ⟨f₂, f₁', hf₂, hf₁', hplace₂, hstart₂, hgroups₂⟩ := finish?_map hinj ((liveAt_map hinj).1 he)
  obtain rfl : f₁ = f₁' := Option.some.inj (hf₁.symm.trans hf₁')
  have hspan : f₂.span = f.span := by
    rw [Finish.span, Finish.span, hplace₁, hstart₁, hplace₂, hstart₂]
  have hstart := succ_start_addGroup (ending a) 1 g.2
  have htaken := (oneGroup_ofChoices a (hgs g hg)).groups_of_finish? (le_start_addCheck a (by omega)) hf₂
  refine ⟨g, hg, ?_, f₂, hf₂, hspan⟩
  rw [hgroups₁, hgroups₂, htaken, List.map_singleton, hspan, Prod.map, Equiv.swap_apply_left]
  rfl

end Program

end ProseLint.Pattern
