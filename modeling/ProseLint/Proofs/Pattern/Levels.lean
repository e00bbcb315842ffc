/-
How many of several groups take part in a match. Every step of a program is at a level: so many groups are
open there, and so many of the groups in question have been taken. Where the steps respect their levels, a
thread is at the level of its step, whatever way it has come there (`Program.Levelled.keeps`). A choice of
groups takes one of them on every way through it (`Program.takes_choice`), and then one of them takes part
in every match (`Program.Levelled.taken_of_mem_findAll`).
-/
import ProseLint.Proofs.Pattern.Alternatives

namespace ProseLint.Pattern

open Text (Span)

/-- Where a thread is with its groups: how many it has open, and how many of some groups it has taken. -/
structure Level where
  depth : Nat
  taken : Nat

/-- A step at a level leads to steps at the levels that its groups ask for. Of the groups `G` it closes one
where none has been taken, and the end comes where one has. -/
def Step.Respects (G : List Nat) (here : Level) (level : Nat → Level) : Step → Prop
  | take _ next => level next = here
  | check _ next => level next = here
  | fork first second => level first = here ∧ level second = here
  | openGroup _ next => level next = ⟨here.depth + 1, here.taken⟩
  | closeGroup i next => here.depth = (level next).depth + 1 ∧
      if i ∈ G then here.taken = 0 ∧ (level next).taken = 1 else (level next).taken = here.taken
  | done => here.taken = 1

theorem Step.Respects.congr {G : List Nat} {here : Level} {level level' : Nat → Level} {s : Step}
    (h : s.Respects G here level) (heq : ∀ m ∈ s.nexts, level' m = level m) : s.Respects G here level' := by
  cases s with
  | take S next => exact (heq next (by simp [nexts])).trans h
  | check a next => exact (heq next (by simp [nexts])).trans h
  | fork first second =>
    exact ⟨(heq first (by simp [nexts])).trans h.1, (heq second (by simp [nexts])).trans h.2⟩
  | openGroup i next => exact (heq next (by simp [nexts])).trans h
  | closeGroup i next =>
    have hnext : level' next = level next := heq next (by simp [nexts])
    rw [Respects, hnext]
    exact h
  | done => exact h

/-- A thread has so many groups open and has taken so many of the groups `G`. -/
structure Thread.AtLevel (G : List Nat) (here : Level) (t : Thread) : Prop where
  depth : t.opened.length = here.depth
  taken : (t.groups.filter (·.1 ∈ G)).length = here.taken

namespace Thread.AtLevel

variable {G : List Nat} {here : Level} {t : Thread}

theorem goTo (h : AtLevel G here t) (n : Nat) : AtLevel G here (t.goTo n) := ⟨h.depth, h.taken⟩

theorem openGroup (h : AtLevel G here t) (i offset : Nat) :
    AtLevel G ⟨here.depth + 1, here.taken⟩ (t.openGroup i offset) where
  depth := by simp [Thread.openGroup, h.depth]
  taken := h.taken

theorem closeGroup {after : Level} {i : Nat} (h : AtLevel G here t) (hdepth : here.depth = after.depth + 1)
    (htaken : if i ∈ G then here.taken = 0 ∧ after.taken = 1 else after.taken = here.taken) (offset : Nat) :
    AtLevel G after (t.closeGroup i offset) := by
  have hlength := h.depth
  have hcount := h.taken
  cases hopened : t.opened with
  | nil =>
    rw [hopened, List.length_nil] at hlength
    omega
  | cons o opened =>
    rw [hopened, List.length_cons] at hlength
    unfold Thread.closeGroup
    rw [hopened]
    refine ⟨?_, ?_⟩
    · show opened.length = after.depth
      omega
    · show (((i, (⟨o.2, offset⟩ : Span)) :: t.groups.filter (·.1 ≠ i)).filter (·.1 ∈ G)).length = after.taken
      by_cases hi : i ∈ G
      · rw [if_pos hi] at htaken
        have hnone : t.groups.filter (·.1 ∈ G) = [] := List.length_eq_zero_iff.1 (by omega)
        have hnone' : (t.groups.filter (·.1 ≠ i)).filter (·.1 ∈ G) = [] := by
          rw [List.filter_eq_nil_iff] at hnone ⊢
          intro g hg
          exact hnone g (List.mem_filter.1 hg).1
        rw [List.filter_cons_of_pos (by simpa using hi), hnone', List.length_singleton, htaken.2]
      · rw [if_neg hi] at htaken
        have hsame : (t.groups.filter (·.1 ≠ i)).filter (·.1 ∈ G) = t.groups.filter (·.1 ∈ G) := by
          rw [List.filter_filter]
          refine List.filter_congr fun g _ => ?_
          by_cases hg : g.1 ∈ G
          · have hne : g.1 ≠ i := fun heq => hi (heq ▸ hg)
            simp [hg, hne]
          · simp [hg]
        rw [List.filter_cons_of_neg (by simpa using hi), hsame, hcount, htaken]

end Thread.AtLevel

namespace Program

variable {G : List Nat} {prog p q r : Program} {level level' level'' : Nat → Level}

/-! ## Programs -/

/-- All steps of a program respect their levels, and it starts with no group open and none taken. -/
structure Levelled (G : List Nat) (prog : Program) (level : Nat → Level) : Prop where
  respects : ∀ (n : Nat) (s : Step), prog.steps[n]? = some s → s.Respects G (level n) level
  start : level prog.start = ⟨0, 0⟩

/-- **A thread is at the level of its step.** -/
theorem Levelled.keeps (h : Levelled G prog level) : prog.Keeps fun _ t => t.AtLevel G (level t.step) where
  on {p t u us} ht hm hu := by
    obtain ⟨s, hs, hbecomes⟩ := becomes_of_move_on hm hu
    have hstep := h.respects t.step s hs
    cases hbecomes with
    | @check a next =>
      have hnext : level next = level t.step := hstep
      show Thread.AtLevel G (level next) _
      rw [hnext]
      exact ht.goTo next
    | @first first second =>
      have hfirst : level first = level t.step := hstep.1
      show Thread.AtLevel G (level first) _
      rw [hfirst]
      exact ht.goTo first
    | @second first second =>
      have hsecond : level second = level t.step := hstep.2
      show Thread.AtLevel G (level second) _
      rw [hsecond]
      exact ht.goTo second
    | @openGroup i next =>
      have hnext : level next = ⟨(level t.step).depth + 1, (level t.step).taken⟩ := hstep
      show Thread.AtLevel G (level next) _
      rw [hnext]
      exact (ht.openGroup i p.offset).goTo next
    | @closeGroup i next =>
      obtain ⟨hdepth, htaken⟩ := hstep
      exact (ht.closeGroup hdepth htaken p.offset).goTo next
  take {p t u c cs} ht hm hrest := by
    obtain ⟨S, next, hs, -, rfl⟩ := step_of_move_take hm
    have hnext : level next = level t.step := h.respects t.step _ hs
    show Thread.AtLevel G (level next) _
    rw [hnext]
    exact ht.goTo next

/-- **One of the groups takes part in a match**, and takes part once. -/
theorem Levelled.taken_of_mem_findAll (h : Levelled G prog level) {text : List Char} {m : Match}
    (hm : m ∈ prog.findAll text) : (m.groups.filter (·.1 ∈ G)).length = 1 := by
  obtain ⟨f, rfl, hf⟩ := exists_finish_of_mem_findAll hm
  have hfresh : ∀ q, f.thread.start.Leads q →
      (Thread.ofPlace prog.start q).AtLevel G (level (Thread.ofPlace prog.start q).step) := by
    intro q _
    show Thread.AtLevel G (level prog.start) _
    rw [h.start]
    exact ⟨rfl, rfl⟩
  obtain ⟨hlevel, hdone⟩ := finish?_keeps h.keeps hfresh hf.again
  have htaken : (level f.thread.step).taken = 1 := h.respects _ _ hdone
  rw [Match.groups_ofFinish, hlevel.taken, htaken]

/-! ## Steps that are added -/

/-- The steps that a program has beyond another one respect levels, and for the steps of the other one
these are the levels from before. -/
structure Levels (G : List Nat) (p q : Program) (level level' : Nat → Level) : Prop where
  grows : q.Extends p
  start : q.start < q.steps.size
  old : ∀ n < p.steps.size, level' n = level n
  new : ∀ n, p.steps.size ≤ n → ∀ s : Step, q.steps[n]? = some s →
    s.Respects G (level' n) level' ∧ ∀ m ∈ s.nexts, m < q.steps.size

namespace Levels

theorem refl (h : p.start < p.steps.size) : Levels G p p level level where
  grows := .refl p
  start := h
  old := fun _ _ => rfl
  new := by
    intro n hn s hs
    rw [Array.getElem?_eq_none hn] at hs
    cases hs

theorem trans (h : Levels G p q level level') (h' : Levels G q r level' level'') :
    Levels G p r level level'' where
  grows := h'.grows.trans h.grows
  start := h'.start
  old := by
    intro n hn
    have hsize := h.grows.size
    rw [h'.old n (by omega), h.old n hn]
  new := by
    intro n hn s hs
    by_cases hlt : n < q.steps.size
    · rw [h'.grows.steps n hlt] at hs
      obtain ⟨hrespects, hnexts⟩ := h.new n hn s hs
      rw [h'.old n hlt]
      refine ⟨hrespects.congr fun m hm => h'.old m (hnexts m hm), fun m hm => ?_⟩
      exact Nat.lt_of_lt_of_le (hnexts m hm) h'.grows.size
    · exact h'.new n (by omega) s hs

/-- Another start among the steps that are there. -/
theorem restart (h : Levels G p q level level') {n : Nat} (hn : n < q.steps.size) :
    Levels G p { q with start := n } level level' :=
  ⟨⟨h.grows.size, h.grows.steps⟩, hn, h.old, h.new⟩

/-- One more step, at a level where it respects the levels of those after it. -/
theorem add (h : Levels G p q level level') (s : Step) {here : Level} (hs : s.Respects G here level')
    (hnexts : ∀ m ∈ s.nexts, m < q.steps.size) :
    ∃ level'', Levels G p (q.add s) level level'' ∧ level'' q.steps.size = here ∧
      ∀ n < q.steps.size, level'' n = level' n := by
  have hsize := h.grows.size
  let level'' : Nat → Level := fun n => if n = q.steps.size then here else level' n
  have hlast : level'' q.steps.size = here := if_pos rfl
  have hold : ∀ n < q.steps.size, level'' n = level' n := fun n hn => if_neg (by omega)
  refine ⟨level'', ⟨h.grows.add s, by simp, fun n hn => ?_, fun n hn st hst => ?_⟩, hlast, hold⟩
  · rw [hold n (by omega), h.old n hn]
  · rw [getElem?_add] at hst
    split at hst
    · rename_i heq
      subst heq
      obtain rfl := Option.some.inj hst
      rw [hlast, size_add]
      refine ⟨hs.congr fun m hm => hold m (hnexts m hm), fun m hm => ?_⟩
      have := hnexts m hm
      omega
    · obtain ⟨hlt, -⟩ := Array.getElem?_eq_some_iff.1 hst
      obtain ⟨hrespects, hnexts'⟩ := h.new n hn st hst
      rw [hold n hlt, size_add]
      refine ⟨hrespects.congr fun m hm => hold m (hnexts' m hm), fun m hm => ?_⟩
      have := hnexts' m hm
      omega

end Levels

/-- A fork between two steps at one level. -/
theorem Levels.fork (h : Levels G p q level level') {first second : Nat} {here : Level}
    (hfirst : first < q.steps.size) (hsecond : second < q.steps.size) (hlevel : level' first = here)
    (hlevel' : level' second = here) :
    ∃ level'', Levels G p (q.add (.fork first second)) level level'' ∧ level'' q.steps.size = here ∧
      ∀ n < q.steps.size, level'' n = level' n := by
  refine h.add (.fork first second) ⟨hlevel, hlevel'⟩ fun m hm => ?_
  simp only [Step.nexts, List.mem_cons, List.not_mem_nil, or_false] at hm
  rcases hm with rfl | rfl
  · exact hfirst
  · exact hsecond

theorem Levels.addFork (h : Levels G p q level level') {leave : Nat} (greedy : Bool)
    (hleave : leave < q.steps.size) (hlevel : level' leave = level' q.start) :
    ∃ level'', Levels G p (q.addFork greedy q.start leave) level level'' ∧
      level'' q.steps.size = level' q.start ∧ ∀ n < q.steps.size, level'' n = level' n := by
  cases greedy with
  | true => exact h.fork h.start hleave rfl hlevel
  | false => exact h.fork hleave h.start hlevel rfl

/-! ## Parts -/

/-- What a part adds can start at every level that a relation allows before the level where the program
goes on. -/
def Leads (G : List Nat) (R : Level → Level → Prop) (part : Program → Program) : Prop :=
  ∀ (p : Program) (level : Nat → Level) (here : Level), p.start < p.steps.size → R here (level p.start) →
    ∃ level', Levels G p (part p) level level' ∧ level' (part p).start = here

/-- None of the groups is taken: the level stays. -/
abbrev Steady (G : List Nat) (part : Program → Program) : Prop := Leads G Eq part

/-- One of the groups is taken, and none before it. -/
def OneTaken (here after : Level) : Prop := here = ⟨after.depth, 0⟩ ∧ after.taken = 1

variable {part part' : Program → Program} {R : Level → Level → Prop}

theorem steady_id : Steady G fun p => p := by
  intro p level here hstart hhere
  exact ⟨level, .refl hstart, hhere.symm⟩

theorem Leads.comp_steady (h : Leads G R part) (h' : Steady G part') : Leads G R fun p => part' (part p) := by
  intro p level here hstart hhere
  obtain ⟨level', hlevels, heq⟩ := h p level here hstart hhere
  obtain ⟨level'', hlevels', heq'⟩ := h' (part p) level' here hlevels.start heq.symm
  exact ⟨level'', hlevels.trans hlevels', heq'⟩

theorem Steady.comp_leads (h : Steady G part) (h' : Leads G R part') : Leads G R fun p => part' (part p) := by
  intro p level here hstart hhere
  obtain ⟨level', hlevels, heq⟩ := h p level (level p.start) hstart rfl
  obtain ⟨level'', hlevels', heq'⟩ := h' (part p) level' here hlevels.start (heq.symm ▸ hhere)
  exact ⟨level'', hlevels.trans hlevels', heq'⟩

theorem steady_take (S : CharSet) : Steady G fun p => p.add (.take S p.start) := by
  intro p level here hstart hhere
  have hbase : Levels G p p level level := .refl hstart
  have hrespects : (Step.take S p.start).Respects G here level := hhere.symm
  obtain ⟨level', hlevels, hlast, -⟩ := hbase.add _ hrespects (by simpa [Step.nexts] using hstart)
  exact ⟨level', hlevels, hlast⟩

theorem steady_check (a : Assertion) : Steady G fun p => p.add (.check a p.start) := by
  intro p level here hstart hhere
  have hbase : Levels G p p level level := .refl hstart
  have hrespects : (Step.check a p.start).Respects G here level := hhere.symm
  obtain ⟨level', hlevels, hlast, -⟩ := hbase.add _ hrespects (by simpa [Step.nexts] using hstart)
  exact ⟨level', hlevels, hlast⟩

/-- A group around a part. Whether it is one of the groups says what has been taken before it. -/
theorem Steady.group (h : Steady G part) {i : Nat} (hR : ∀ here after, R here after →
      here.depth = after.depth ∧
        if i ∈ G then here.taken = 0 ∧ after.taken = 1 else after.taken = here.taken) :
    Leads G R fun p => (part (p.closing i)).add (.openGroup i (part (p.closing i)).start) := by
  intro p level here hstart hhere
  obtain ⟨hdepth, htaken⟩ := hR _ _ hhere
  have hbase : Levels G p p level level := .refl hstart
  have hcloses : (Step.closeGroup i p.start).Respects G ⟨here.depth + 1, here.taken⟩ level :=
    ⟨congrArg (· + 1) hdepth, htaken⟩
  obtain ⟨level₁, hlevels₁, hlast₁, -⟩ := hbase.add _ hcloses (by simpa [Step.nexts] using hstart)
  obtain ⟨level₂, hlevels₂, hinside⟩ := h (p.closing i) level₁ _ hlevels₁.start hlast₁.symm
  have hlevels := hlevels₁.trans hlevels₂
  have hopens : (Step.openGroup i (part (p.closing i)).start).Respects G here level₂ := hinside
  obtain ⟨level₃, hlevels₃, hlast₃, -⟩ := hlevels.add _ hopens (by simpa [Step.nexts] using hlevels.start)
  exact ⟨level₃, hlevels₃, hlast₃⟩

theorem Steady.addTimes (h : Steady G part) (n : Nat) : Steady G (addTimes part n) := by
  induction n with
  | zero => exact steady_id
  | succ n ih => exact h.comp_steady ih

/-- Up to so many rounds before a step from which the program goes on. -/
theorem Levels.addUpTo (h : Levels G p q level level') (hpart : Steady G part) (greedy : Bool) {leave : Nat}
    (hleave : leave < q.steps.size) (hlevel : level' leave = level' q.start) (n : Nat) :
    ∃ level'', Levels G p (addUpTo part greedy leave n q) level level'' ∧
      level'' (addUpTo part greedy leave n q).start = level' q.start := by
  induction n generalizing q level' with
  | zero => exact ⟨level', h, rfl⟩
  | succ n ih =>
    obtain ⟨level₁, hlevels₁, hhere₁⟩ := hpart q level' _ h.start rfl
    have hsize := hlevels₁.grows.size
    have hleave₁ : level₁ leave = level₁ (part q).start := by rw [hlevels₁.old leave hleave, hlevel, hhere₁]
    obtain ⟨level₂, hlevels₂, hhere₂, hold₂⟩ :=
      (h.trans hlevels₁).addFork greedy (Nat.lt_of_lt_of_le hleave hsize) hleave₁
    have hstart₂ : ((part q).addFork greedy (part q).start leave).start = (part q).steps.size := rfl
    have hleave₂ : level₂ leave = level₂ (part q).steps.size := by
      rw [hold₂ leave (by omega), hleave₁, hhere₂]
    obtain ⟨level₃, hlevels₃, hhere₃⟩ := ih hlevels₂
      (by rw [Program.addFork, size_add]; omega) (hleave₂.trans (by rw [hstart₂]))
    refine ⟨level₃, hlevels₃, hhere₃.trans ?_⟩
    rw [hstart₂, hhere₂, hhere₁]

theorem Steady.addUpTo (h : Steady G part) (greedy : Bool) (n : Nat) :
    Steady G fun p => addUpTo part greedy p.start n p := by
  intro p level here hstart hhere
  rw [hhere]
  exact (Levels.refl hstart).addUpTo h greedy hstart rfl n

theorem Steady.addLoop (h : Steady G part) (greedy : Bool) : Steady G (addLoop part greedy) := by
  intro p level here hstart hhere
  -- The step that is kept free is at the level of the fork that takes its place.
  let held : Nat → Level := fun n => if n = p.steps.size then here else level n
  have hheld : ∀ n < p.steps.size, held n = level n := fun n hn => if_neg (by omega)
  have hagain : held p.steps.size = here := if_pos rfl
  obtain ⟨level', hlevels, hbody⟩ := h (p.add .done) held here (by simp) hagain.symm
  have hsize := hlevels.grows.size
  have hin := hlevels.start
  rw [size_add] at hsize
  have hleave : level' p.start = here := by
    rw [hlevels.old p.start (by rw [size_add]; omega), hheld p.start hstart, hhere]
  have hfree : level' p.steps.size = here := by
    rw [hlevels.old p.steps.size (by rw [size_add]; omega), hagain]
  refine ⟨level', ⟨⟨?_, fun n hn => ?_⟩, ?_, fun n hn => ?_, fun n hn s hs => ?_⟩, hbody⟩
  · simp only [Program.addLoop, Array.size_setIfInBounds]
    omega
  · simp only [Program.addLoop, Array.getElem?_setIfInBounds]
    rw [if_neg (by omega), hlevels.grows.steps n (by rw [size_add]; omega), getElem?_add, if_neg (by omega)]
  · simpa [Program.addLoop] using hin
  · rw [hlevels.old n (by rw [size_add]; omega), hheld n hn]
  · simp only [Program.addLoop, Array.getElem?_setIfInBounds, Array.size_setIfInBounds] at hs ⊢
    by_cases heq : n = p.steps.size
    · subst heq
      rw [if_pos rfl, if_pos (by omega)] at hs
      obtain rfl := Option.some.inj hs
      refine ⟨?_, fun m hm => ?_⟩
      · cases greedy with
        | true => exact ⟨hbody.trans hfree.symm, hleave.trans hfree.symm⟩
        | false => exact ⟨hleave.trans hfree.symm, hbody.trans hfree.symm⟩
      · rcases mem_nexts_fork hm with rfl | rfl
        · exact hin
        · omega
    · rw [if_neg (by omega)] at hs
      exact hlevels.new n (by rw [size_add]; omega) s hs

/-- A part that may be left out. -/
theorem Steady.addFork (h : Steady G part) (greedy : Bool) :
    Steady G fun p => (part p).addFork greedy (part p).start p.start := by
  intro p level here hstart hhere
  obtain ⟨level₁, hlevels₁, hhere₁⟩ := h p level here hstart hhere
  have hleave : level₁ p.start = level₁ (part p).start := by rw [hlevels₁.old p.start hstart, hhere₁, hhere]
  obtain ⟨level₂, hlevels₂, hhere₂, -⟩ :=
    hlevels₁.addFork greedy (Nat.lt_of_lt_of_le hstart hlevels₁.grows.size) hleave
  exact ⟨level₂, hlevels₂, hhere₂.trans hhere₁⟩

theorem Steady.addSeq {es : List Expr} (h : ∀ e ∈ es, Steady G (addExpr · e)) : Steady G (addSeq · es) := by
  induction es with
  | nil => exact steady_id
  | cons e es ih =>
    obtain ⟨he, hes⟩ := List.forall_mem_cons.1 h
    exact (ih hes).comp_steady he

theorem Leads.addAlt {es : List Expr} (hne : es ≠ []) (h : ∀ e ∈ es, Leads G R (addExpr · e)) :
    Leads G R fun p => addAlt p p.start es := by
  intro p level here hstart hhere
  induction es with
  | nil => exact absurd rfl hne
  | cons e es ih =>
    obtain ⟨he, hes⟩ := List.forall_mem_cons.1 h
    cases es with
    | nil => exact he p level here hstart hhere
    | cons e' es =>
      obtain ⟨level₁, hlevels₁, hhere₁⟩ := ih (List.cons_ne_nil _ _) hes
      have hstart₁ := Nat.lt_of_lt_of_le hstart hlevels₁.grows.size
      have hafter : R here (level₁ p.start) := (hlevels₁.old _ hstart).symm ▸ hhere
      obtain ⟨level₂, hlevels₂, hhere₂⟩ :=
        he { Program.addAlt p p.start (e' :: es) with start := p.start } level₁ here hstart₁ hafter
      have hothers := Nat.lt_of_lt_of_le hlevels₁.start hlevels₂.grows.size
      obtain ⟨level₃, hlevels₃, hhere₃, -⟩ := ((hlevels₁.restart hstart₁).trans hlevels₂).fork hlevels₂.start
        hothers hhere₂ ((hlevels₂.old _ hlevels₁.start).trans hhere₁)
      exact ⟨level₃, hlevels₃, hhere₃⟩

end Program

/-- None of the groups of an expression is one of these. -/
def Expr.Without (G : List Nat) (e : Expr) : Prop := ∀ i ∈ e.groupIndices [], i ∉ G

namespace Expr

variable {G : List Nat}

theorem without_group {i : Nat} {b : Expr} : (group i b).Without G ↔ i ∉ G ∧ b.Without G := by
  unfold Without
  rw [groupIndices, groupIndices_eq]
  simp [or_imp, forall_and, and_comm]

theorem without_cons {e : Expr} {es : List Expr} (h : ∀ i ∈ allGroupIndices [] (e :: es), i ∉ G) :
    e.Without G ∧ ∀ i ∈ allGroupIndices [] es, i ∉ G := by
  rw [allGroupIndices, allGroupIndices_eq] at h
  exact ⟨fun i hi => h i (List.mem_append_right _ hi), fun i hi => h i (List.mem_append_left _ hi)⟩

end Expr

namespace Program

variable {G : List Nat}

mutual

/-- **An expression without the groups keeps the level.** -/
theorem steady_addExpr (e : Expr) (he : e.Without G) : Steady G (addExpr · e) := by
  cases e with
  | empty => exact steady_id
  | one S => exact steady_take S
  | assert a => exact steady_check a
  | group i b =>
    obtain ⟨hi, hb⟩ := Expr.without_group.1 he
    refine (steady_addExpr b hb).group fun here after heq => ?_
    rw [heq, if_neg hi]
    exact ⟨rfl, rfl⟩
  | seq es => exact .addSeq (steady_each es he)
  | alt es =>
    by_cases hne : es = []
    · rw [hne]
      exact steady_id
    · exact .addAlt hne (steady_each es he)
  | rounds least most greedy b =>
    have hb : Steady G (addExpr · b) := steady_addExpr b he
    cases most with
    | some most => exact (hb.addUpTo greedy (most - least)).comp_steady (hb.addTimes least)
    | none =>
      have hloop := hb.addLoop greedy
      by_cases hleast : least = 0
      · have heq : (addExpr · (.rounds least none greedy b)) = fun p =>
            (addLoop (addExpr · b) greedy p).addFork greedy (addLoop (addExpr · b) greedy p).start p.start := by
          funext p
          simp only [addExpr, if_pos hleast]
        rw [heq]
        exact hloop.addFork greedy
      · have heq : (addExpr · (.rounds least none greedy b)) =
            fun p => addTimes (addExpr · b) (least - 1) (addLoop (addExpr · b) greedy p) := by
          funext p
          simp only [addExpr, if_neg hleast]
        rw [heq]
        exact hloop.comp_steady (hb.addTimes (least - 1))

theorem steady_each (es : List Expr) (hes : ∀ i ∈ Expr.allGroupIndices [] es, i ∉ G) :
    ∀ e ∈ es, Steady G (addExpr · e) := by
  cases es with
  | nil => simp
  | cons e es =>
    obtain ⟨he, hes⟩ := Expr.without_cons hes
    exact List.forall_mem_cons.2 ⟨steady_addExpr e he, steady_each es hes⟩

end

/-! ## Choices of groups -/

theorem oneTaken_group {i : Nat} {b : Expr} (hi : i ∈ G) (hb : b.Without G) :
    Leads G OneTaken (addExpr · (.group i b)) := by
  refine (steady_addExpr b hb).group fun here after h => ?_
  rw [h.1, if_pos hi]
  exact ⟨rfl, rfl, h.2⟩

/-- **A choice of groups takes one of them.** -/
theorem oneTaken_choice {gs : List (Nat × Expr)} (hne : gs ≠ []) (hgs : ∀ g ∈ gs, g.1 ∈ G ∧ g.2.Without G) :
    Leads G OneTaken (addExpr · (.choice (groupsOf gs))) := by
  have heach : ∀ e ∈ groupsOf gs, Leads G OneTaken (addExpr · e) := by
    intro e he
    obtain ⟨g, hg, rfl⟩ := List.mem_map.1 he
    exact oneTaken_group (hgs g hg).1 (hgs g hg).2
  cases gs with
  | nil => exact absurd rfl hne
  | cons g gs =>
    cases gs with
    | nil => exact heach _ (List.mem_singleton_self _)
    | cons g' gs => exact .addAlt (List.cons_ne_nil _ _) heach

/-- Around an expression there may be others that keep the level. -/
theorem Leads.sequence {R : Level → Level → Prop} {pre post : List Expr} {e : Expr} (he : Leads G R (addExpr · e))
    (hpre : ∀ d ∈ pre, d.Without G) (hpost : ∀ d ∈ post, d.Without G) :
    Leads G R (addExpr · (.sequence (pre ++ e :: post))) := by
  have hseq : Leads G R (addSeq · (pre ++ e :: post)) := by
    induction pre with
    | nil => exact (Steady.addSeq fun d hd => steady_addExpr d (hpost d hd)).comp_leads he
    | cons d pre ih =>
      obtain ⟨hd, hpre⟩ := List.forall_mem_cons.1 hpre
      exact (ih hpre).comp_steady (steady_addExpr d hd)
  cases hes : pre ++ e :: post with
  | nil => simp at hes
  | cons d es =>
    rw [hes] at hseq
    cases es with
    | nil => exact hseq
    | cons d' es => exact hseq

/-- **The steps of an expression that takes one of the groups respect levels.** -/
theorem exists_levelled {e : Expr} (he : Leads G OneTaken (addExpr · e)) :
    ∃ level, Levelled G (ofExpr e) level := by
  obtain ⟨level, hlevels, hstart⟩ := he ⟨#[.done], 0⟩ (fun _ => ⟨0, 1⟩) ⟨0, 0⟩ (by decide) ⟨rfl, rfl⟩
  refine ⟨level, fun n s hs => ?_, hstart⟩
  by_cases hn : n = 0
  · subst hn
    have hdone : (ofExpr e).steps[0]? = some .done := hlevels.grows.steps 0 (by decide)
    obtain rfl := Option.some.inj (hs.symm.trans hdone)
    show (level 0).taken = 1
    rw [hlevels.old 0 (by decide)]
  · exact (hlevels.new n (by show 1 ≤ n; omega) s hs).1

end Program

end ProseLint.Pattern
