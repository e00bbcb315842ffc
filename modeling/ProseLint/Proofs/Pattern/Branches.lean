/-
Programs that try branches one after the other (`Program.ofBranches`). What such a program answers at a
place is what the first branch answers there that can come to the end, and the program of that branch alone
answers the same, whatever the indices of its groups are (`Program.spanAt?_ofBranches`).
-/
import ProseLint.Proofs.Pattern.Matches
import ProseLint.Proofs.Pattern.Relocation

namespace ProseLint.Pattern

open Text (Span)

namespace Program

/-- A program has the steps of another one, and perhaps more. -/
structure Extends (prog q : Program) : Prop where
  size : q.steps.size ≤ prog.steps.size
  steps : ∀ n < q.steps.size, prog.steps[n]? = q.steps[n]?

namespace Extends

variable {p q r : Program}

theorem refl (p : Program) : p.Extends p := ⟨Nat.le_refl _, fun _ _ => rfl⟩

theorem trans (h : r.Extends q) (h' : q.Extends p) : r.Extends p :=
  ⟨Nat.le_trans h'.size h.size, fun n hn => (h.steps n (Nat.lt_of_lt_of_le hn h'.size)).trans (h'.steps n hn)⟩

theorem add (h : q.Extends p) (s : Step) : (q.add s).Extends p := by
  have hsize := h.size
  refine ⟨by rw [size_add]; omega, fun n hn => ?_⟩
  rw [getElem?_add, if_neg (by omega), h.steps n hn]

end Extends

/-- An expression leaves the steps that are there. -/
theorem addExpr_extends (p : Program) (e : Expr) : (addExpr p e).Extends p := by
  have hgrown : GrowsAlike id id (addExpr · e) (addExpr · (e.map id id)) := addExpr_grown e
  have h := hgrown p p ⟨rfl, fun _ => rfl⟩
  exact ⟨h.size, h.old⟩

theorem addAlt_extends (p : Program) (es : List Expr) : (addAlt p p.start es).Extends p := by
  have hapart : Apart id p p := ⟨rfl, fun _ => rfl⟩
  have h : Grown id id p p _ _ := addAlt_grown es hapart
  exact ⟨h.size, h.old⟩

/-! ## Twins -/

/-- A numbering that leads from a branch that comes right after `base` to one that comes after `q`. -/
def across (base q : Program) (n : Nat) : Nat :=
  if n < base.steps.size then n else n - base.steps.size + q.steps.size

theorem across_injective {base q : Program} (hq : q.Extends base) {m n : Nat} (h : across base q m = across base q n) :
    m = n := by
  have hsize := hq.size
  unfold across at h
  split at h <;> split at h <;> omega

/-- The steps of two programs up to a number are the same but for their numbers and the indices of groups. -/
def Twin (prog prog' : Program) (φ ψ : Nat → Nat) (size : Nat) : Prop :=
  ∀ n < size, ∃ s : Step, prog.steps[n]? = some s ∧ prog'.steps[φ n]? = some (s.map ψ φ) ∧ ∀ m ∈ s.nexts, m < size

end Program

/-- Threads at the same step of two programs that are in the same groups and have taken the same, under
other indices. -/
structure Thread.Mirrors (φ ψ : Nat → Nat) (size : Nat) (t t' : Thread) : Prop where
  lt : t.step < size
  step : t'.step = φ t.step
  start : t'.start = t.start
  opened : t'.opened = t.opened.map (Prod.map ψ id)
  groups : t'.groups = t.groups.map (Prod.map ψ id)

namespace Thread.Mirrors

variable {φ ψ : Nat → Nat} {size : Nat} {t t' : Thread}

theorem goTo (h : Mirrors φ ψ size t t') {m : Nat} (hm : m < size) :
    Mirrors φ ψ size (t.goTo m) (t'.goTo (φ m)) :=
  ⟨hm, rfl, h.start, h.opened, h.groups⟩

theorem openGroup (h : Mirrors φ ψ size t t') (i n : Nat) {m : Nat} (hm : m < size) :
    Mirrors φ ψ size ((t.openGroup i n).goTo m) ((t'.openGroup (ψ i) n).goTo (φ m)) := by
  refine ⟨hm, rfl, h.start, ?_, h.groups⟩
  rw [Thread.goTo, Thread.openGroup, h.opened]
  rfl

theorem closeGroup (hψ : ∀ {i j}, ψ i = ψ j → i = j) (h : Mirrors φ ψ size t t') (i n : Nat) {m : Nat} (hm : m < size) :
    Mirrors φ ψ size ((t.closeGroup i n).goTo m) ((t'.closeGroup (ψ i) n).goTo (φ m)) := by
  have hopened := h.opened
  cases ho : t.opened with
  | nil =>
    have ht : t.closeGroup i n = t := by simp [Thread.closeGroup, ho]
    have ht' : t'.closeGroup (ψ i) n = t' := by simp [Thread.closeGroup, hopened, ho]
    rw [ht, ht']
    exact h.goTo hm
  | cons o os =>
    rw [ho, List.map_cons] at hopened
    have hother : ∀ l : List (Nat × Span), (l.map (Prod.map ψ id)).filter (·.1 ≠ ψ i) =
        (l.filter (·.1 ≠ i)).map (Prod.map ψ id) := by
      intro l
      rw [List.filter_map]
      refine congrArg _ (List.filter_congr fun g _ => ?_)
      have hiff : ψ g.1 = ψ i ↔ g.1 = i := ⟨hψ, congrArg ψ⟩
      simp [hiff]
    refine ⟨hm, rfl, ?_, ?_, ?_⟩
    · simpa using h.start
    · simp [Thread.closeGroup, Thread.goTo, ho, hopened]
    · simp only [Thread.closeGroup, Thread.goTo, ho, hopened, h.groups, hother]
      rfl

end Thread.Mirrors

namespace Program

variable {prog prog' : Program} {φ ψ : Nat → Nat} {size : Nat}

/-- Threads at twin steps move alike. -/
theorem Twin.alike (h : Twin prog prog' φ ψ size) (hφ : ∀ {m n}, φ m = φ n → m = n) (hψ : ∀ {i j}, ψ i = ψ j → i = j) :
    Alike prog prog' (Thread.Mirrors φ ψ size) where
  move {p t t'} hr := by
    obtain ⟨s, hs, hs', hnexts⟩ := h t.step hr.lt
    rw [← hr.step] at hs'
    unfold move
    rw [hs, hs']
    cases s with
    | take s next =>
      simp only [Step.map]
      split
      · exact .take (hr.goTo (hnexts next (by simp [Step.nexts])))
      · exact .on .nil
    | check a next =>
      simp only [Step.map]
      split
      · exact .on (.both (hr.goTo (hnexts next (by simp [Step.nexts]))) .nil)
      · exact .on .nil
    | fork first second =>
      have hfirst := hr.goTo (hnexts first (by simp [Step.nexts]))
      have hsecond := hr.goTo (hnexts second (by simp [Step.nexts]))
      exact .on (.both hfirst (.both hsecond .nil))
    | openGroup i next => exact .on (.both (hr.openGroup i p.offset (hnexts next (by simp [Step.nexts]))) .nil)
    | closeGroup i next => exact .on (.both (hr.closeGroup hψ i p.offset (hnexts next (by simp [Step.nexts]))) .nil)
    | done => exact .finish
  step {t t' u u'} hr hr' := by
    rw [hr.step, hr'.step]
    exact ⟨fun h => h ▸ rfl, hφ⟩

/-- A program that only checks where it is before it comes to the end. -/
structure Ends (base : Program) : Prop where
  start : base.start < base.steps.size
  step : ∀ n < base.steps.size, base.steps[n]? = some .done ∨
    ∃ a m, base.steps[n]? = some (.check a m) ∧ m < base.steps.size

/-- A branch that comes after `q` and goes on as `base` does. -/
def branch (q base : Program) (e : Expr) : Program := addExpr { q with start := base.start } e

/-- A program has a branch after `q`. -/
structure HasBranch (prog base q : Program) (e : Expr) : Prop where
  after : q.Extends base
  steps : prog.Extends (q.branch base e)

variable {base q : Program} {e : Expr}

theorem branch_extends (q base : Program) (e : Expr) : (q.branch base e).Extends q := by
  have h := addExpr_extends { q with start := base.start } e
  exact ⟨h.size, h.steps⟩

theorem apart_across (hbase : base.Ends) (q : Program) :
    Apart (across base q) base { q with start := base.start } where
  start := by simp [across, hbase.start]
  next k := by
    rw [across, if_neg (by omega)]
    simp only
    omega

theorem branch_grown (hbase : base.Ends) (q : Program) (ψ : Nat → Nat) (e : Expr) :
    Grown (across base q) ψ base { q with start := base.start } (addExpr base e) (q.branch base (e.map id ψ)) :=
  addExpr_grown e _ _ (apart_across hbase q)

theorem start_branch_lt (hbase : base.Ends) (e : Expr) : (addExpr base e).start < (addExpr base e).steps.size := by
  have hgrown := branch_grown hbase base id e
  have hstart := hbase.start
  have hsize := hgrown.size
  rcases hgrown.start with hs | ⟨-, hs⟩ <;> omega

/-- A branch in one program is the twin of the branch in another one. -/
theorem HasBranch.twin (h : HasBranch prog' base q (e.map id ψ)) (hbase : base.Ends)
    (hprog : prog.Extends (addExpr base e)) : Twin prog prog' (across base q) ψ (addExpr base e).steps.size := by
  have hgrown := branch_grown hbase q ψ e
  have hapart := apart_across hbase q
  have hsize := hgrown.size
  have hqsize := h.after.size
  have hsame : ∀ n < base.steps.size, across base q n = n := fun n hn => by simp [across, hn]
  intro n hn
  rw [hprog.steps n hn]
  rcases Nat.lt_or_ge n base.steps.size with hlt | hge
  · -- What comes after the branch is the same in both.
    have hold : prog'.steps[n]? = base.steps[n]? := by
      have hblock : n < (q.branch base (e.map id ψ)).steps.size :=
        Nat.lt_of_lt_of_le hlt (Nat.le_trans hqsize (branch_extends q base _).size)
      rw [h.steps.steps n hblock, (branch_extends q base _).steps n (by omega), h.after.steps n hlt]
    rw [hgrown.old n hlt, hsame n hlt, hold]
    rcases hbase.step n hlt with hs | ⟨a, m, hs, hm⟩
    · exact ⟨.done, hs, hs, by simp [Step.nexts]⟩
    · refine ⟨.check a m, hs, by rw [hs, Step.map, hsame m hm], fun k hk => ?_⟩
      obtain rfl := List.mem_singleton.1 hk
      omega
  · obtain ⟨s, hs, hs', -, hnexts⟩ := hgrown.new n hge hn
    obtain ⟨-, hlt'⟩ := hgrown.lt' hapart hge hn
    refine ⟨s, hs, by rw [h.steps.steps _ hlt', hs'], fun m hm => ?_⟩
    have hstart := hbase.start
    rcases hnexts m hm with rfl | ⟨-, hm⟩ <;> omega

/-! ## The first branch -/

/-- A wave in which no live step below a number has been reached, and whose threads are dead. -/
structure Untouched (prog : Program) (p : Place) (n : Nat) (w : Wave) : Prop where
  done : w.done = none
  size : w.reached.size = prog.steps.size
  seen : ∀ t, Live prog p t → t.step < n → ¬ w.Seen p t.step
  threads : ∀ u ∈ w.threads, ¬ LiveAfter prog p u

namespace Untouched

variable {p : Place} {m n k : Nat} {w v : Wave}

theorem mono (h : Untouched prog p n w) (hm : m ≤ n) : Untouched prog p m w :=
  ⟨h.done, h.size, fun t ht hlt => h.seen t ht (by omega), h.threads⟩

/-- Marking a step leaves what is below it. -/
theorem mark (h : Untouched prog p n w) (hk : n ≤ k) : Untouched prog p n (w.mark p k) := by
  refine ⟨h.done, (Wave.size_mark _ _ _).trans h.size, fun t ht hlt hseen => ?_, h.threads⟩
  rcases Wave.seen_mark.1 hseen with ⟨heq, -⟩ | hseen
  · omega
  · exact h.seen t ht hlt hseen

theorem sameLive (h : Untouched prog p n w) (hsame : w.SameLive prog p v) : Untouched prog p n v := by
  obtain ⟨ds, hds, hdead⟩ := hsame.threads
  refine ⟨hsame.done.trans h.done, hsame.size.trans h.size, fun t ht hlt => ?_, fun u hu => ?_⟩
  · rw [hsame.seen t ht]
    exact h.seen t ht hlt
  · rw [hds] at hu
    rcases List.mem_append.1 hu with hu | hu
    · exact hdead u hu
    · exact h.threads u hu

end Untouched

/-- A program has a branch after others, and then a fork between it and them. -/
structure HasFork (prog base others all : Program) (e : Expr) : Prop where
  rest : prog.Extends others
  branch : HasBranch prog base others e
  le : others.steps.size ≤ (others.branch base e).steps.size
  start : all.start = (others.branch base e).steps.size
  size : all.steps.size = (others.branch base e).steps.size + 1
  fork : prog.steps[(others.branch base e).steps.size]? = some (.fork (others.branch base e).start others.start)

theorem hasFork_of_extends {e e' : Expr} {es : List Expr}
    (h : prog.Extends (addAlt base base.start (e :: e' :: es))) :
    HasFork prog base (addAlt base base.start (e' :: es)) (addAlt base base.start (e :: e' :: es)) e := by
  have heq : addAlt base base.start (e :: e' :: es) = ((addAlt base base.start (e' :: es)).branch base e).add
      (.fork ((addAlt base base.start (e' :: es)).branch base e).start (addAlt base base.start (e' :: es)).start) := rfl
  have hext := addAlt_extends base (e' :: es)
  rw [heq] at h ⊢
  generalize addAlt base base.start (e' :: es) = others at h hext ⊢
  have hblock := branch_extends others base e
  have hprog : prog.Extends (others.branch base e) := h.trans ((Extends.refl _).add _)
  refine ⟨hprog.trans hblock, ⟨hext, hprog⟩, hblock.size, start_add _ _, size_add _ _, ?_⟩
  rw [h.steps _ (by simp), getElem?_add, if_pos rfl]

/-- A thread at a fork goes on to both steps. -/
theorem live_fork {p : Place} {t : Thread} {first second : Nat} (hs : prog.steps[t.step]? = some (.fork first second)) :
    Live prog p t ↔ Live prog p (t.goTo first) ∨ Live prog p (t.goTo second) := by
  have hm : prog.move p t = .on [t.goTo first, t.goTo second] := by rw [move, hs]
  constructor
  · intro hl
    cases hl with
    | finish hm' | take hm' => simp [hm] at hm'
    | on hm' hu hlu =>
      obtain rfl := Move.on.inj (hm.symm.trans hm')
      simp only [List.mem_cons, List.not_mem_nil, or_false] at hu
      rcases hu with rfl | rfl
      · exact .inl hlu
      · exact .inr hlu
  · rintro (hl | hl)
    · exact .on hm (by simp) hl
    · exact .on hm (by simp) hl

/-- A branch that can come to the end is come to. -/
theorem exists_branch {p : Place} {es : List Expr} (h : prog.Extends (addAlt base base.start es)) (he : e ∈ es) :
    ∃ q, HasBranch prog base q e ∧ ∀ t : Thread, t.step = (addAlt base base.start es).start →
      Live prog p (t.goTo (q.branch base e).start) → Live prog p t := by
  induction es with
  | nil => cases he
  | cons d es ih =>
    cases es with
    | nil =>
      obtain rfl := List.mem_singleton.1 he
      exact ⟨base, ⟨.refl base, h⟩, fun t hstep hl => hl.of_step hstep.symm⟩
    | cons d' es =>
      have hfork := hasFork_of_extends h
      have hs := hfork.fork
      rw [← hfork.start] at hs
      rcases List.mem_cons.1 he with rfl | he
      · exact ⟨_, hfork.branch, fun t hstep hl => (live_fork (hstep ▸ hs)).2 (.inl hl)⟩
      · obtain ⟨q, hq, hlive⟩ := ih hfork.rest he
        exact ⟨q, hq, fun t hstep hl => (live_fork (hstep ▸ hs)).2 (.inr (hlive _ rfl hl))⟩

/-- **The first branch that can come to the end is followed first**, after branches that lead to nothing. -/
theorem first_live {p : Place} {es : List Expr} (hne : es ≠ []) (h : prog.Extends (addAlt base base.start es)) :
    ∀ {t : Thread} {us : List Thread} {w v : Wave}, Explores prog p (t :: us) w v →
      t.step = (addAlt base base.start es).start → Live prog p t →
      Untouched prog p (addAlt base base.start es).steps.size w →
      ∃ pre e post q us' w', es = pre ++ e :: post ∧
        (∀ d ∈ pre, ∃ q, HasBranch prog base q d ∧ ¬ Live prog p (t.goTo (q.branch base d).start)) ∧
        HasBranch prog base q e ∧ Live prog p (t.goTo (q.branch base e).start) ∧
        Explores prog p (t.goTo (q.branch base e).start :: us') w' v ∧
        Untouched prog p (q.branch base e).steps.size w' := by
  induction es with
  | nil => exact absurd rfl hne
  | cons e es ih =>
    intro t us w v hex hstep hl hw
    cases es with
    | nil =>
      have hgo : t.goTo (base.branch base e).start = t := by
        rw [Thread.goTo, show (base.branch base e).start = t.step from hstep.symm]
      exact ⟨[], e, [], base, us, w, rfl, by simp, ⟨.refl base, h⟩, hgo.symm ▸ hl, hgo.symm ▸ hex, hw⟩
    | cons e' es =>
      obtain ⟨hothers, hbranch, hle, hstart, hsize, hs⟩ := hasFork_of_extends h
      rw [hstart] at hstep
      rw [hsize] at hw
      rw [← hstep] at hs
      generalize hb : (addAlt base base.start (e' :: es)).branch base e = block at *
      have hm : prog.move p t = .on [t.goTo block.start, t.goTo (addAlt base base.start (e' :: es)).start] := by
        rw [move, hs]
      have hns := hw.seen t hl (by omega)
      have hmarked : Untouched prog p block.steps.size (w.mark p t.step) :=
        (hw.mono (Nat.le_succ _)).mark (Nat.le_of_eq hstep.symm)
      cases hex with
      | seen hseen => exact absurd hseen hns
      | take _ hm' | finish _ hm' => simp [hm] at hm'
      | on _ hm' hex =>
        obtain rfl := Move.on.inj (hm.symm.trans hm')
        by_cases hfirst : Live prog p (t.goTo block.start)
        · exact ⟨[], e, e' :: es, _, _, w.mark p t.step, rfl, by simp, hbranch, hb ▸ hfirst, hb ▸ hex, hb ▸ hmarked⟩
        · have hsecond := ((live_fork hs).1 hl).resolve_left hfirst
          have hex' : Explores prog p ([t.goTo block.start] ++ _ :: us) _ _ := hex
          obtain ⟨x, hx, hsame⟩ := hex'.skip_dead (by simpa)
          obtain ⟨pre, k, post, q, us', w', heq, hpre, hrest⟩ :=
            ih (List.cons_ne_nil _ _) hothers hx rfl hsecond ((hmarked.sameLive hsame).mono hle)
          refine ⟨e :: pre, k, post, q, us', w', by rw [heq]; rfl, ?_, hrest⟩
          exact List.forall_mem_cons.2 ⟨⟨_, hbranch, hb ▸ hfirst⟩, hpre⟩

/-! ## The whole program -/

/-- A program that first checks where it is, if it is given an assertion. -/
def addCheck (a : Option Assertion) (p : Program) : Program :=
  match a with
  | none => p
  | some a => p.add (.check a p.start)

/-- What comes after the branches. -/
def ending (a : Option Assertion) : Program := addCheck a ⟨#[.done], 0⟩

/-- A program that tries branches one after the other; an assertion has to hold on both sides. -/
def ofBranches (a : Option Assertion) (es : List Expr) : Program :=
  addCheck a (addAlt (ending a) (ending a).start es)

theorem addCheck_extends (a : Option Assertion) (p : Program) : (addCheck a p).Extends p := by
  cases a with
  | none => exact .refl p
  | some a => exact (Extends.refl p).add _

theorem ends_ending (a : Option Assertion) : (ending a).Ends := by
  cases a with
  | none =>
    refine ⟨by decide, fun n hn => .inl ?_⟩
    obtain rfl : n = 0 := by simpa [ending, addCheck] using hn
    rfl
  | some a =>
    refine ⟨by simp [ending, addCheck, add], fun n hn => ?_⟩
    have hn : n < 2 := by simpa [ending, addCheck, add] using hn
    have hcases : n = 0 ∨ n = 1 := by omega
    rcases hcases with rfl | rfl
    · exact .inl rfl
    · exact .inr ⟨a, 0, rfl, by simp [ending, addCheck, add]⟩

variable {a : Option Assertion} {p : Place}

/-- A thread that starts is live when the check holds and what comes after it is live. -/
theorem live_addCheck {q : Program} {t : Thread} (hstep : t.step = (addCheck a q).start) :
    Live (addCheck a q) p t ↔
      (∀ c ∈ a, c.holds p.before p.rest.head? = true) ∧ Live (addCheck a q) p (t.goTo q.start) := by
  cases a with
  | none =>
    have hgo : t.goTo q.start = t := by
      rw [Thread.goTo, ← show t.step = q.start from hstep]
    simp [hgo]
  | some c =>
    have hs : (addCheck (some c) q).steps[t.step]? = some (.check c q.start) := by
      rw [hstep, addCheck, start_add, getElem?_add, if_pos rfl]
    have hm : (addCheck (some c) q).move p t =
        if c.holds p.before p.rest.head? then .on [t.goTo q.start] else .on [] := by
      rw [move, hs]
    constructor
    · intro hl
      cases hl with
      | finish hm' | take hm' => split at hm <;> simp [hm] at hm'
      | on hm' hu hlu =>
        have hus := hm.symm.trans hm'
        split at hus
        · rename_i hc
          obtain rfl := Move.on.inj hus
          refine ⟨fun c' hc' => (Option.some.inj hc' : c = c') ▸ hc, ?_⟩
          exact List.mem_singleton.1 hu ▸ hlu
        · obtain rfl := Move.on.inj hus
          cases hu
    · rintro ⟨hc, hl⟩
      rw [if_pos (hc c rfl)] at hm
      exact .on hm (List.mem_singleton_self _) hl

/-- Past the check a search follows the start of what comes after it. -/
theorem explores_addCheck {q : Program} {t : Thread} {reached : Array Nat} {v : Wave}
    (hstep : t.step = (addCheck a q).start) (ha : ∀ c ∈ a, c.holds p.before p.rest.head? = true)
    (hsize : reached.size = (addCheck a q).steps.size) (hun : (Wave.fresh reached).Unseen p)
    (hex : Explores (addCheck a q) p [t] (.fresh reached) v) :
    ∃ w, Explores (addCheck a q) p [t.goTo q.start] w v ∧ Untouched (addCheck a q) p q.steps.size w ∧
      w.Closed (addCheck a q) p [t.goTo q.start] := by
  have hfresh : Untouched (addCheck a q) p q.steps.size (.fresh reached) :=
    ⟨rfl, hsize, fun _ _ _ => hun _, by simp [Wave.fresh]⟩
  cases a with
  | none =>
    have hgo : t.goTo q.start = t := by
      rw [Thread.goTo, ← show t.step = q.start from hstep]
    exact ⟨_, hgo.symm ▸ hex, hfresh, hun.closed _⟩
  | some c =>
    have hs : (addCheck (some c) q).steps[t.step]? = some (.check c q.start) := by
      rw [hstep, addCheck, start_add, getElem?_add, if_pos rfl]
    have hm : (addCheck (some c) q).move p t = .on [t.goTo q.start] := by
      rw [move, hs]
      simp [ha c rfl]
    cases hex with
    | seen hseen => exact absurd hseen (hun _)
    | take _ hm' | finish _ hm' => simp [hm] at hm'
    | on _ hm' hex =>
      obtain rfl := Move.on.inj (hm.symm.trans hm')
      have hbelow : q.steps.size = t.step := (start_add _ _).symm.trans hstep.symm
      exact ⟨_, hex, hfresh.mark (Nat.le_of_eq hbelow), (hun.closed _).mark_on hsize hm⟩

theorem finish?_eq_goOn (prog : Program) (p : Place) :
    ∃ v, Explores prog p [.ofPlace prog.start p] (.fresh (Array.replicate prog.steps.size 0)) v ∧
      v.reached.size = prog.steps.size ∧ v.UpTo p ∧ prog.finish? p = prog.goOn none v p := by
  have hsize : (Array.replicate prog.steps.size 0).size = prog.steps.size := by simp
  have hex : Explores prog p [.ofPlace prog.start p] (.fresh (Array.replicate prog.steps.size 0)) _ :=
    followAll_explores hsize rfl
  refine ⟨_, hex, hex.size_eq.trans hsize, hex.upTo (upTo_replicate _ p), ?_⟩
  rw [finish?, searchFrom_eq]
  simp [threadsAt]

/-- The threads of a branch alone and of the branch in a program behave alike. -/
theorem HasBranch.alike (h : HasBranch prog (ending a) q (e.map id ψ)) (hψ : ∀ {i j}, ψ i = ψ j → i = j) :
    Alike (ofBranches a [e]) prog (Thread.Mirrors (across (ending a) q) ψ (addExpr (ending a) e).steps.size) :=
  (h.twin (ends_ending a) (addCheck_extends a (addExpr (ending a) e))).alike (across_injective h.after) hψ

/-- A thread that starts a branch alone mirrors one that starts the branch in a program. -/
theorem mirrors_branch (a : Option Assertion) (q : Program) (ψ : Nat → Nat) (e : Expr) (m n : Nat) (p : Place) :
    Thread.Mirrors (across (ending a) q) ψ (addExpr (ending a) e).steps.size
      ((Thread.ofPlace m p).goTo (addExpr (ending a) e).start)
      ((Thread.ofPlace n p).goTo (q.branch (ending a) (e.map id ψ)).start) :=
  ⟨start_branch_lt (ends_ending a) e, (branch_grown (ends_ending a) q ψ e).start'.symm, rfl, rfl, rfl⟩

/-- A branch can come to the end in a program where it can alone, if the check holds. -/
theorem HasBranch.live_iff (h : HasBranch prog (ending a) q (e.map id ψ)) (hψ : ∀ {i j}, ψ i = ψ j → i = j)
    (hcheck : ∀ c ∈ a, c.holds p.before p.rest.head? = true) (n : Nat) :
    Live prog p ((Thread.ofPlace n p).goTo (q.branch (ending a) (e.map id ψ)).start) ↔
      (ofBranches a [e]).LiveAt p := by
  rw [← (h.alike hψ).live_iff (mirrors_branch a q ψ e (ofBranches a [e]).start n p)]
  have hchecked : (ofBranches a [e]).LiveAt p ↔ _ ∧ _ := live_addCheck (q := addExpr (ending a) e) rfl
  exact ((and_iff_right hcheck).symm.trans hchecked.symm)

/-- The program of a branch answers what another program answers that follows this branch first, after what
leads to nothing. -/
theorem HasBranch.finish? (h : HasBranch prog (ending a) q (e.map id ψ)) (hψ : ∀ {i j}, ψ i = ψ j → i = j)
    (hcheck : ∀ c ∈ a, c.holds p.before p.rest.head? = true) {n : Nat} {us : List Thread} {w v : Wave}
    (hw : Untouched prog p (q.branch (ending a) (e.map id ψ)).steps.size w)
    (hl : Live prog p ((Thread.ofPlace n p).goTo (q.branch (ending a) (e.map id ψ)).start))
    (hex : Explores prog p ((Thread.ofPlace n p).goTo (q.branch (ending a) (e.map id ψ)).start :: us) w v)
    (hsize : v.reached.size = prog.steps.size) (hup : v.UpTo p) :
    AnswerAlike (Thread.Mirrors (across (ending a) q) ψ (addExpr (ending a) e).steps.size)
      ((ofBranches a [e]).finish? p) (prog.goOn none v p) := by
  obtain ⟨v', hex', hsize', hup', hfin'⟩ := finish?_eq_goOn (ofBranches a [e]) p
  obtain ⟨w', hexw', hw', hclosed⟩ := explores_addCheck (q := addExpr (ending a) e) rfl hcheck
    (by rw [Array.size_replicate]; rfl) (unseen_replicate _ p) hex'
  have hA := h.alike hψ
  have hr := mirrors_branch a q ψ e (ofBranches a [e]).start n p
  have hgrown := branch_grown (ends_ending a) q ψ e
  have hqsize := h.after.size
  have hsize₁ := hgrown.size
  have hsize₂ := hgrown.size'
  simp only at hsize₂
  generalize q.branch (ending a) (e.map id ψ) = block at *
  have hlike : w'.Like (ofBranches a [e]) prog
      (Thread.Mirrors (across (ending a) q) ψ (addExpr (ending a) e).steps.size) p w := by
    refine ⟨hw'.size, hw.size, fun t t' hrt hlt => ?_, ?_⟩
    · have hns := hw'.seen t hlt hrt.lt
      have hns' := hw.seen t' ((hA.live_iff hrt).1 hlt) ?_
      · exact ⟨fun h => absurd h hns, fun h => absurd h hns'⟩
      · have hlt := hrt.lt
        rw [hrt.step]
        unfold across
        split <;> omega
    · exact List.append_nil w'.threads ▸ (Paired.of_dead_left hw'.threads).append (.of_dead_right hw.threads)
  rw [hfin']
  refine goOn_alike hA p.rest p v' v none none rfl hsize' hsize hup' hup ?_
  have hexw'' : Explores _ p ([_] ++ []) w' v' := hexw'
  exact settled_of_explores hA hexw'' hex hw'.done hw.done hlike (.both hr .nil)
    fun u hu hd => hu.live_threads hd hw'.size hclosed (by simp) ((hA.live_iff hr).2 hl)

/-- The check of a program that starts a live thread holds. -/
theorem holds_of_liveAt {es : List Expr} (h : (ofBranches a es).LiveAt p) :
    (∀ c ∈ a, c.holds p.before p.rest.head? = true) ∧
      Live (ofBranches a es) p ((Thread.ofPlace (ofBranches a es).start p).goTo
        (addAlt (ending a) (ending a).start es).start) :=
  (live_addCheck (q := addAlt (ending a) (ending a).start es) rfl).1 h

/-- **What comes to the end is the first branch that can**, and it answers as it does alone. -/
theorem finish?_ofBranches {es : List Expr} (hne : es ≠ []) (h : (ofBranches a es).LiveAt p) :
    ∃ pre e post, es = pre ++ e :: post ∧ (∀ d ∈ pre, ¬ (ofBranches a [d]).LiveAt p) ∧ (ofBranches a [e]).LiveAt p ∧
      ∃ f f', (ofBranches a [e]).finish? p = some f ∧ (ofBranches a es).finish? p = some f' ∧
        f'.place = f.place ∧ f'.thread.start = f.thread.start ∧ f'.thread.groups = f.thread.groups := by
  have hsame : ∀ e : Expr, e = e.map id id := fun e => (Expr.map_id e).symm
  obtain ⟨hcheck, hl⟩ := holds_of_liveAt h
  obtain ⟨v, hex, hsize, hup, hfin⟩ := finish?_eq_goOn (ofBranches a es) p
  obtain ⟨w, hexw, hw, -⟩ := explores_addCheck rfl hcheck (by rw [Array.size_replicate]; rfl) (unseen_replicate _ p) hex
  obtain ⟨pre, e, post, q, us, w', heq, hpre, hbranch, hlive, hex', hw'⟩ :=
    first_live hne (addCheck_extends a (addAlt (ending a) (ending a).start es)) hexw rfl hl hw
  rw [hsame e] at hbranch hlive hex' hw'
  obtain ⟨f, f', hf, hf', hr, hplace⟩ := hbranch.finish? id hcheck hw' hlive hex' hsize hup
  refine ⟨pre, e, post, heq, fun d hd hld => ?_, (hbranch.live_iff id hcheck _).1 hlive, f, f', hf, hfin.trans hf',
    hplace.symm, hr.start, hr.groups.trans (by simp)⟩
  obtain ⟨q', hbranch', hdead⟩ := hpre d hd
  rw [hsame d] at hbranch' hdead
  exact hdead ((hbranch'.live_iff id hcheck _).2 hld)

/-- Branches can come to the end where one of them can. -/
theorem liveAt_ofBranches {es : List Expr} (hne : es ≠ []) :
    (ofBranches a es).LiveAt p ↔ ∃ e ∈ es, (ofBranches a [e]).LiveAt p := by
  constructor
  · intro h
    obtain ⟨pre, e, post, rfl, -, he, -⟩ := finish?_ofBranches hne h
    exact ⟨e, by simp, he⟩
  · rintro ⟨e, he, hl⟩
    obtain ⟨hcheck, -⟩ := holds_of_liveAt hl
    obtain ⟨q, hbranch, hlive⟩ :=
      exists_branch (p := p) (addCheck_extends a (addAlt (ending a) (ending a).start es)) he
    refine (live_addCheck (q := addAlt (ending a) (ending a).start es) rfl).2 ⟨hcheck, hlive _ rfl ?_⟩
    have hsame := (Expr.map_id e).symm
    rw [hsame] at hbranch ⊢
    exact (hbranch.live_iff id hcheck _).2 hl

/-- The indices of the groups of a branch do not matter. -/
theorem finish?_map (hψ : ∀ {i j}, ψ i = ψ j → i = j) (h : (ofBranches a [e]).LiveAt p) :
    ∃ f f', (ofBranches a [e]).finish? p = some f ∧ (ofBranches a [e.map id ψ]).finish? p = some f' ∧
      f'.place = f.place ∧ f'.thread.start = f.thread.start ∧
      f'.thread.groups = f.thread.groups.map (Prod.map ψ id) := by
  obtain ⟨hcheck, -⟩ := holds_of_liveAt h
  have hbranch : HasBranch (ofBranches a [e.map id ψ]) (ending a) (ending a) (e.map id ψ) :=
    ⟨.refl _, addCheck_extends a _⟩
  have hl := (hbranch.live_iff hψ hcheck (ofBranches a [e.map id ψ]).start).2 h
  obtain ⟨v, hex, hsize, hup, hfin⟩ := finish?_eq_goOn (ofBranches a [e.map id ψ]) p
  obtain ⟨w, hexw, hw, -⟩ := explores_addCheck rfl hcheck (by rw [Array.size_replicate]; rfl) (unseen_replicate _ p) hex
  obtain ⟨f, f', hf, hf', hr, hplace⟩ := hbranch.finish? hψ hcheck hw hl hexw hsize hup
  exact ⟨f, f', hf, hfin.trans hf', hplace.symm, hr.start, hr.groups⟩

theorem liveAt_map (hψ : ∀ {i j}, ψ i = ψ j → i = j) :
    (ofBranches a [e.map id ψ]).LiveAt p ↔ (ofBranches a [e]).LiveAt p := by
  have hbranch : HasBranch (ofBranches a [e.map id ψ]) (ending a) (ending a) (e.map id ψ) :=
    ⟨.refl _, addCheck_extends a _⟩
  constructor
  · intro h
    obtain ⟨hcheck, hl⟩ := holds_of_liveAt h
    exact (hbranch.live_iff hψ hcheck _).1 hl
  · intro h
    obtain ⟨hcheck, -⟩ := holds_of_liveAt h
    have hl := (hbranch.live_iff hψ hcheck (ofBranches a [e.map id ψ]).start).2 h
    exact (live_addCheck (q := addExpr (ending a) (e.map id ψ)) rfl).2 ⟨hcheck, hl⟩

/-! ## What is found at a place -/

/-- The span that a search from a place finds right there. -/
def spanAt? (prog : Program) (p : Place) : Option Span :=
  ((prog.finish? p).filter (·.thread.start = p)).map (·.span)

theorem spanAt?_of_finish? {f : Finish} (h : prog.finish? p = some f) (hstart : f.thread.start = p) :
    prog.spanAt? p = some f.span := by
  rw [spanAt?, h, Option.filter_some, if_pos (by simpa using hstart), Option.map_some]

theorem spanAt?_eq_some {s : Span} (h : prog.spanAt? p = some s) :
    ∃ f, prog.finish? p = some f ∧ f.thread.start = p ∧ f.span = s := by
  obtain ⟨f, hf, hs⟩ := Option.map_eq_some_iff.1 h
  obtain ⟨hf, hstart⟩ := Option.filter_eq_some_iff.1 hf
  exact ⟨f, hf, of_decide_eq_true hstart, hs⟩

theorem spanAt?_isSome : (prog.spanAt? p).isSome ↔ prog.LiveAt p := by
  constructor
  · intro h
    obtain ⟨s, hs⟩ := Option.isSome_iff_exists.1 h
    obtain ⟨f, hf, rfl, -⟩ := spanAt?_eq_some hs
    exact (finish?_eq_some hf).2.2.1
  · intro h
    obtain ⟨f, hf, hstart⟩ := finish?_of_liveAt h
    rw [spanAt?_of_finish? hf hstart]
    rfl

theorem spanAt?_eq_none : prog.spanAt? p = none ↔ ¬ prog.LiveAt p := by
  rw [← spanAt?_isSome, Option.not_isSome_iff_eq_none]

/-- **Of several branches the first one that finds something finds it.** -/
theorem spanAt?_ofBranches (a : Option Assertion) {es : List Expr} (hne : es ≠ []) (p : Place) :
    (ofBranches a es).spanAt? p = es.findSome? fun e => (ofBranches a [e]).spanAt? p := by
  by_cases hl : (ofBranches a es).LiveAt p
  · obtain ⟨pre, e, post, rfl, hpre, he, f, f', hf, hf', hplace, hstart, -⟩ := finish?_ofBranches hne hl
    have hnone : pre.findSome? (fun e => (ofBranches a [e]).spanAt? p) = none :=
      List.findSome?_eq_none_iff.2 fun d hd => spanAt?_eq_none.2 (hpre d hd)
    obtain ⟨g, hg, hgstart⟩ := finish?_of_liveAt he
    obtain rfl := Option.some.inj (hf.symm.trans hg)
    have hspan : f'.span = f.span := by rw [Finish.span, Finish.span, hplace, hstart]
    rw [spanAt?_of_finish? hf' (hstart.trans hgstart), List.findSome?_append, hnone, Option.none_or,
      List.findSome?_cons, spanAt?_of_finish? hf hgstart, hspan]
  · rw [spanAt?_eq_none.2 hl, eq_comm, List.findSome?_eq_none_iff]
    exact fun e he => spanAt?_eq_none.2 fun hle => hl ((liveAt_ofBranches hne).2 ⟨e, he, hle⟩)

/-- The indices of the groups of a branch do not matter for what it finds. -/
theorem spanAt?_map (a : Option Assertion) (hψ : ∀ {i j}, ψ i = ψ j → i = j) (e : Expr) (p : Place) :
    (ofBranches a [e.map id ψ]).spanAt? p = (ofBranches a [e]).spanAt? p := by
  by_cases hl : (ofBranches a [e]).LiveAt p
  · obtain ⟨f, f', hf, hf', hplace, hstart, -⟩ := finish?_map hψ hl
    obtain ⟨g, hg, hgstart⟩ := finish?_of_liveAt hl
    obtain rfl := Option.some.inj (hf.symm.trans hg)
    rw [spanAt?_of_finish? hf' (hstart.trans hgstart), spanAt?_of_finish? hf hgstart, Finish.span, Finish.span,
      hplace, hstart]
  · rw [spanAt?_eq_none.2 hl, spanAt?_eq_none.2 (mt (liveAt_map hψ).1 hl)]

end Program

end ProseLint.Pattern
