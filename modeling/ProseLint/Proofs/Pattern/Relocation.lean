/-
Programs that grow. The steps that an expression adds to a program lead to one another until they lead to
where the program went on before; added to another program they are the same steps but for their numbers
and the indices of the groups (`Program.addExpr_grown`).
-/
import ProseLint.Proofs.Pattern.Mapping

namespace ProseLint.Pattern

namespace Step

/-- A step with other indices of groups and other numbers for the steps after it. -/
def map (ψ φ : Nat → Nat) : Step → Step
  | take s next => .take s (φ next)
  | check a next => .check a (φ next)
  | fork first second => .fork (φ first) (φ second)
  | openGroup i next => .openGroup (ψ i) (φ next)
  | closeGroup i next => .closeGroup (ψ i) (φ next)
  | done => .done

@[simp] theorem map_id (s : Step) : s.map id id = s := by cases s <;> rfl

/-- The steps that may come after a step. -/
def nexts : Step → List Nat
  | take _ next => [next]
  | check _ next => [next]
  | fork first second => [first, second]
  | openGroup _ next => [next]
  | closeGroup _ next => [next]
  | done => []

/-- Whether a step leaves groups alone and is not the last one. -/
def isPlain : Step → Bool
  | take .. => true
  | check .. => true
  | fork .. => true
  | openGroup .. => false
  | closeGroup .. => false
  | done => false

/-- A step that stays what it is when the indices of groups change is none of a group. -/
theorem isPlain_of_map_succ {s : Step} (h : s.map (· + 1) id = s) (hdone : s ≠ .done) : s.isPlain = true := by
  cases s with
  | take | check | fork => rfl
  | openGroup i next => exact absurd (openGroup.inj h).1 (Nat.succ_ne_self i)
  | closeGroup i next => exact absurd (closeGroup.inj h).1 (Nat.succ_ne_self i)
  | done => exact absurd rfl hdone

end Step

namespace Program

variable {φ ψ : Nat → Nat} {p p' q q' r r' : Program}

/-- A numbering leads from the start of a program to that of another, and from steps that are added to the
one to steps that are added to the other. -/
structure Apart (φ : Nat → Nat) (p p' : Program) : Prop where
  start : φ p.start = p'.start
  next : ∀ k, φ (p.steps.size + k) = p'.steps.size + k

/-- Two programs have grown by the same steps but for the indices of groups. The steps lead to one another
and to where the programs started. -/
structure Grown (φ ψ : Nat → Nat) (p p' q q' : Program) : Prop where
  size : p.steps.size ≤ q.steps.size
  size' : q'.steps.size = p'.steps.size + (q.steps.size - p.steps.size)
  old : ∀ n < p.steps.size, q.steps[n]? = p.steps[n]?
  old' : ∀ n < p'.steps.size, q'.steps[n]? = p'.steps[n]?
  start : q.start = p.start ∨ p.steps.size ≤ q.start ∧ q.start < q.steps.size
  start' : φ q.start = q'.start
  new : ∀ n, p.steps.size ≤ n → n < q.steps.size → ∃ s, q.steps[n]? = some s ∧
    q'.steps[φ n]? = some (s.map ψ φ) ∧ s ≠ .done ∧
    ∀ m ∈ s.nexts, m = p.start ∨ p.steps.size ≤ m ∧ m < q.steps.size

@[simp] theorem size_add (p : Program) (s : Step) : (p.add s).steps.size = p.steps.size + 1 := by simp [add]

@[simp] theorem start_add (p : Program) (s : Step) : (p.add s).start = p.steps.size := rfl

theorem getElem?_add (p : Program) (s : Step) (n : Nat) :
    (p.add s).steps[n]? = if n = p.steps.size then some s else p.steps[n]? := by
  simp [add, Array.getElem?_push]

theorem Apart.add (h : Apart φ p p') (s s' : Step) : Apart φ (p.add s) (p'.add s') where
  start := h.next 0
  next k := by
    have := h.next (1 + k)
    rw [size_add, size_add]
    rw [← Nat.add_assoc, ← Nat.add_assoc] at this
    exact this

namespace Grown

theorem refl (h : Apart φ p p') : Grown φ ψ p p' p p' where
  size := Nat.le_refl _
  size' := by omega
  old _ _ := rfl
  old' _ _ := rfl
  start := .inl rfl
  start' := h.start
  new n h1 h2 := by omega

theorem apart (h : Grown φ ψ p p' q q') (hp : Apart φ p p') : Apart φ q q' where
  start := h.start'
  next k := by
    have hsize := h.size
    have := hp.next (q.steps.size - p.steps.size + k)
    rw [← Nat.add_assoc, Nat.add_sub_cancel' hsize] at this
    rw [this, h.size']
    omega

/-- A numbering keeps the order of the steps that have been added. -/
theorem lt' (h : Grown φ ψ p p' q q') (hp : Apart φ p p') {n : Nat} (h1 : p.steps.size ≤ n)
    (h2 : n < q.steps.size) : p'.steps.size ≤ φ n ∧ φ n < q'.steps.size := by
  have := hp.next (n - p.steps.size)
  rw [Nat.add_sub_cancel' h1] at this
  rw [this, h.size']
  omega

theorem trans (hp : Apart φ p p') (h : Grown φ ψ p p' q q') (h' : Grown φ ψ q q' r r') : Grown φ ψ p p' r r' := by
  have hsize := h.size
  have hsize' := h'.size
  refine ⟨Nat.le_trans h.size h'.size, ?_, fun n hn => ?_, fun n hn => ?_, ?_, h'.start', fun n h1 h2 => ?_⟩
  · rw [h'.size', h.size']
    omega
  · rw [h'.old n (by omega), h.old n hn]
  · rw [h'.old' n (by rw [h.size']; omega), h.old' n hn]
  · rcases h'.start with hs | ⟨h1, h2⟩
    · rw [hs]
      rcases h.start with hs | ⟨h1, h2⟩
      · exact .inl hs
      · exact .inr ⟨h1, by omega⟩
    · exact .inr ⟨by omega, h2⟩
  · by_cases hn : n < q.steps.size
    · obtain ⟨s, hs, hs', hlast, hnexts⟩ := h.new n h1 hn
      obtain ⟨-, hlt⟩ := h.lt' hp h1 hn
      refine ⟨s, by rw [h'.old n hn, hs], by rw [h'.old' _ hlt, hs'], hlast, fun m hm => ?_⟩
      rcases hnexts m hm with hm | ⟨h3, h4⟩
      · exact .inl hm
      · exact .inr ⟨h3, by omega⟩
    · obtain ⟨s, hs, hs', hlast, hnexts⟩ := h'.new n (by omega) h2
      refine ⟨s, hs, hs', hlast, fun m hm => ?_⟩
      rcases hnexts m hm with rfl | ⟨h3, h4⟩
      · rcases h.start with hs | ⟨h3, h4⟩
        · exact .inl hs
        · exact .inr ⟨h3, by omega⟩
      · exact .inr ⟨by omega, h4⟩

/-- One more step. -/
theorem add (hp : Apart φ p p') (h : Grown φ ψ p p' q q') {s : Step} (hlast : s ≠ .done)
    (hnexts : ∀ m ∈ s.nexts, m = p.start ∨ p.steps.size ≤ m ∧ m < q.steps.size) :
    Grown φ ψ p p' (q.add s) (q'.add (s.map ψ φ)) := by
  have hsize := h.size
  have hsize' := h.size'
  have hnext : φ q.steps.size = q'.steps.size := (h.apart hp).next 0
  refine ⟨by rw [size_add]; omega, by rw [size_add, size_add]; omega, fun n hn => ?_, fun n hn => ?_,
    .inr ⟨hsize, by simp⟩, hnext, fun n h1 h2 => ?_⟩
  · rw [getElem?_add, if_neg (by omega), h.old n hn]
  · rw [getElem?_add, if_neg (by omega), h.old' n hn]
  · rw [size_add] at h2
    by_cases hn : n = q.steps.size
    · subst hn
      refine ⟨s, by rw [getElem?_add, if_pos rfl], by rw [hnext, getElem?_add, if_pos rfl], hlast,
        fun m hm => ?_⟩
      rcases hnexts m hm with hm | ⟨h3, h4⟩
      · exact .inl hm
      · exact .inr ⟨h3, by rw [size_add]; omega⟩
    · obtain ⟨t, ht, ht', htlast, htnexts⟩ := h.new n h1 (by omega)
      obtain ⟨-, hlt⟩ := h.lt' hp h1 (by omega)
      refine ⟨t, by rw [getElem?_add, if_neg hn, ht], by rw [getElem?_add, if_neg (by omega), ht'], htlast,
        fun m hm => ?_⟩
      rcases htnexts m hm with hm | ⟨h3, h4⟩
      · exact .inl hm
      · exact .inr ⟨h3, by rw [size_add]; omega⟩

/-- Another start, where the programs started. -/
theorem restart (hp : Apart φ p p') (h : Grown φ ψ p p' q q') :
    Grown φ ψ p p' { q with start := p.start } { q' with start := p'.start } :=
  ⟨h.size, h.size', h.old, h.old', .inl rfl, hp.start, h.new⟩

end Grown

/-! ## Expressions -/

/-- What two parts add to two programs makes them grow by the same steps. -/
def GrowsAlike (φ ψ : Nat → Nat) (part part' : Program → Program) : Prop :=
  ∀ p p', Apart φ p p' → Grown φ ψ p p' (part p) (part' p')

theorem map_fork (greedy : Bool) (again leave : Nat) :
    (if greedy then Step.fork again leave else Step.fork leave again).map ψ φ =
      if greedy then Step.fork (φ again) (φ leave) else Step.fork (φ leave) (φ again) := by
  cases greedy <;> rfl

theorem fork_ne_done (greedy : Bool) (again leave : Nat) :
    (if greedy then Step.fork again leave else Step.fork leave again) ≠ .done := by
  cases greedy <;> exact nofun

theorem mem_nexts_fork {greedy : Bool} {again leave m : Nat}
    (hm : m ∈ (if greedy then Step.fork again leave else Step.fork leave again).nexts) :
    m = again ∨ m = leave := by
  cases greedy
  · simpa [Step.nexts, or_comm] using hm
  · simpa [Step.nexts] using hm

theorem Grown.addFork (hp : Apart φ p p') (h : Grown φ ψ p p' q q') (greedy : Bool) :
    Grown φ ψ p p' (q.addFork greedy q.start p.start) (q'.addFork greedy q'.start p'.start) := by
  have hfork := h.add hp (fork_ne_done greedy q.start p.start) fun m hm => by
    rcases mem_nexts_fork hm with rfl | rfl
    · exact h.start
    · exact .inl rfl
  rw [map_fork, h.start', hp.start] at hfork
  exact hfork

theorem Grown.addTimes {part part' : Program → Program} (hpart : GrowsAlike φ ψ part part') (hp : Apart φ p p')
    (n : Nat) (h : Grown φ ψ p p' q q') : Grown φ ψ p p' (Program.addTimes part n q) (Program.addTimes part' n q') := by
  induction n generalizing q q' with
  | zero => exact h
  | succ n ih => exact ih (h.trans hp (hpart _ _ (h.apart hp)))

theorem Grown.addUpTo {part part' : Program → Program} (hpart : GrowsAlike φ ψ part part') (hp : Apart φ p p')
    (greedy : Bool) (n : Nat) (h : Grown φ ψ p p' q q') :
    Grown φ ψ p p' (Program.addUpTo part greedy p.start n q) (Program.addUpTo part' greedy p'.start n q') := by
  induction n generalizing q q' with
  | zero => exact h
  | succ n ih => exact ih ((h.trans hp (hpart _ _ (h.apart hp))).addFork hp greedy)

theorem grown_addLoop {part part' : Program → Program} (hpart : GrowsAlike φ ψ part part') (hp : Apart φ p p')
    (greedy : Bool) : Grown φ ψ p p' (addLoop part greedy p) (addLoop part' greedy p') := by
  have hdone : Apart φ (p.add .done) (p'.add .done) := hp.add _ _
  have h := hpart _ _ hdone
  have hagain : φ p.steps.size = p'.steps.size := hp.next 0
  have hsize := h.size
  have hsize' := h.size'
  rw [size_add] at hsize hsize'
  rw [size_add] at hsize'
  have hold := h.old
  have hold' := h.old'
  have hstart : p.steps.size ≤ (part (p.add .done)).start ∧
      (part (p.add .done)).start < (part (p.add .done)).steps.size := by
    rcases h.start with hs | ⟨h1, h2⟩
    · rw [hs, start_add]
      omega
    · rw [size_add] at h1
      omega
  refine ⟨by simp [addLoop]; omega, by simp [addLoop]; omega, fun n hn => ?_, fun n hn => ?_,
    .inr (by simpa [addLoop] using hstart), h.start', fun n h1 h2 => ?_⟩
  · simp only [addLoop, Array.getElem?_setIfInBounds]
    rw [if_neg (by omega), hold n (by simp; omega), getElem?_add, if_neg (by omega)]
  · simp only [addLoop, Array.getElem?_setIfInBounds]
    rw [if_neg (by omega), hold' n (by simp; omega), getElem?_add, if_neg (by omega)]
  · simp only [addLoop, Array.size_setIfInBounds] at h2 ⊢
    by_cases hn : n = p.steps.size
    · -- The step that was kept free is the fork.
      subst hn
      refine ⟨_, by rw [Array.getElem?_setIfInBounds, if_pos rfl, if_pos (by omega)], ?_, fork_ne_done _ _ _,
        fun m hm => ?_⟩
      · rw [Array.getElem?_setIfInBounds, if_pos hagain.symm, if_pos (by omega), map_fork, h.start', hp.start]
      · rcases mem_nexts_fork hm with rfl | rfl
        · exact .inr hstart
        · exact .inl rfl
    · obtain ⟨s, hs, hs', hlast, hnexts⟩ := h.new n (by rw [size_add]; omega) h2
      obtain ⟨hle, -⟩ := h.lt' hdone (n := n) (by rw [size_add]; omega) h2
      rw [size_add] at hle
      refine ⟨s, by rw [Array.getElem?_setIfInBounds, if_neg (by omega), hs],
        by rw [Array.getElem?_setIfInBounds, if_neg (by omega), hs'], hlast, fun m hm => ?_⟩
      rcases hnexts m hm with rfl | ⟨h3, h4⟩
      · exact .inr ⟨Nat.le_refl _, by rw [start_add]; omega⟩
      · rw [size_add] at h3
        exact .inr ⟨by omega, h4⟩

mutual

/-- **An expression adds the same steps to two programs**, but for the indices of its groups. -/
theorem addExpr_grown (e : Expr) : GrowsAlike φ ψ (addExpr · e) (addExpr · (e.map id ψ)) := by
  intro p p' hp
  have hnone : Grown φ ψ p p' p p' := .refl hp
  cases e with
  | empty => exact hnone
  | one s =>
    have h := hnone.add hp (s := .take s p.start) nofun (by simp [Step.nexts])
    rwa [Step.map, hp.start] at h
  | assert a =>
    have h := hnone.add hp (s := .check a p.start) nofun (by simp [Step.nexts])
    rwa [Step.map, hp.start] at h
  | group i b =>
    have hclose := hnone.add hp (s := .closeGroup i p.start) nofun (by simp [Step.nexts])
    rw [Step.map, hp.start] at hclose
    have hbody := hclose.trans hp (addExpr_grown b _ _ (hclose.apart hp))
    have h := hbody.add hp (s := .openGroup i (addExpr (p.add (.closeGroup i p.start)) b).start) nofun
      (by simpa [Step.nexts] using hbody.start)
    rwa [Step.map, hbody.start'] at h
  | seq es => exact addSeq_grown es p p' hp
  | alt es => exact addAlt_grown es hp
  | rounds least most greedy b =>
    have hpart : GrowsAlike φ ψ (addExpr · b) (addExpr · (b.map id ψ)) := addExpr_grown b
    cases most with
    | some most => exact (hnone.addUpTo hpart hp greedy (most - least)).addTimes hpart hp least
    | none =>
      have h := grown_addLoop hpart hp greedy
      simp only [Expr.map, addExpr]
      split
      · exact h.addFork hp greedy
      · exact h.addTimes hpart hp (least - 1)

theorem addSeq_grown (es : List Expr) : GrowsAlike φ ψ (addSeq · es) (addSeq · (Expr.mapAll id ψ es)) := by
  intro p p' hp
  cases es with
  | nil => exact .refl hp
  | cons e es =>
    have h := addSeq_grown es p p' hp
    exact h.trans hp (addExpr_grown e _ _ (h.apart hp))

theorem addAlt_grown (es : List Expr) {p p' : Program} (hp : Apart φ p p') :
    Grown φ ψ p p' (addAlt p p.start es) (addAlt p' p'.start (Expr.mapAll id ψ es)) := by
  cases es with
  | nil => exact .refl hp
  | cons e es =>
    cases es with
    | nil => exact addExpr_grown e p p' hp
    | cons e' es =>
      have hothers := addAlt_grown (e' :: es) hp
      have hrestart := hothers.restart hp
      have hlast := addExpr_grown e _ _ (hrestart.apart hp)
      have h := hrestart.trans hp hlast
      have hfork := h.add hp (s := .fork (addExpr { addAlt p p.start (e' :: es) with start := p.start } e).start
        (addAlt p p.start (e' :: es)).start) nofun fun m hm => ?_
      · rwa [Step.map, h.start', hothers.start'] at hfork
      · simp only [Step.nexts, List.mem_cons, List.not_mem_nil, or_false] at hm
        rcases hm with rfl | rfl
        · exact h.start
        · rcases hothers.start with hs | ⟨h1, h2⟩
          · exact .inl hs
          · exact .inr ⟨h1, Nat.lt_of_lt_of_le h2 hlast.size⟩

end

/-- The steps of an expression without groups leave groups alone. -/
theorem isPlain_of_noGroups {e : Expr} (he : e.NoGroups) {n : Nat} (h1 : p.steps.size ≤ n)
    (h2 : n < (addExpr p e).steps.size) : ∃ s, (addExpr p e).steps[n]? = some s ∧ s.isPlain = true ∧
      ∀ m ∈ s.nexts, m = p.start ∨ p.steps.size ≤ m ∧ m < (addExpr p e).steps.size := by
  have hgrown : Grown id (· + 1) p p (addExpr p e) (addExpr p (e.map id (· + 1))) :=
    addExpr_grown e p p ⟨rfl, fun _ => rfl⟩
  rw [Expr.map_of_noGroups _ e he] at hgrown
  obtain ⟨s, hs, hs', hdone, hnexts⟩ := hgrown.new n h1 h2
  exact ⟨s, hs, Step.isPlain_of_map_succ (Option.some.inj (hs'.symm.trans hs)) hdone, hnexts⟩

end Program

end ProseLint.Pattern
