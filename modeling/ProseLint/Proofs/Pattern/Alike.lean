/-
Threads that behave alike. A thread is live at a place when it can come to the end of its program from
there (`Live`). Two lists of threads pair up (`Paired`) when they are related in order but for threads
that are dead; related threads move alike (`Alike`). The two programs need not be the same.
-/
import ProseLint.Proofs.Pattern.Moves

namespace ProseLint.Pattern

/-- A thread can come to the end of the program from a place. -/
inductive Live (prog : Program) : Place → Thread → Prop
  | finish {p : Place} {t : Thread} (hm : prog.move p t = .finish) : Live prog p t
  | on {p : Place} {t u : Thread} {us : List Thread} (hm : prog.move p t = .on us) (hu : u ∈ us)
      (h : Live prog p u) : Live prog p t
  | take {p : Place} {t u : Thread} {c : Char} {cs : List Char} (hm : prog.move p t = .take u)
      (hrest : p.rest = c :: cs) (h : Live prog (p.past c cs) u) : Live prog p t

/-- A thread is live once the next character is taken. -/
def LiveAfter (prog : Program) (p : Place) (t : Thread) : Prop :=
  ∃ c cs, p.rest = c :: cs ∧ Live prog (p.past c cs) t

theorem Live.lt {prog : Program} {p : Place} {t : Thread} (h : Live prog p t) :
    t.step < prog.steps.size := by
  cases h with
  | finish hm => exact Program.lt_of_move_finish hm
  | on hm hu _ =>
    rcases Program.length_of_move_on hm with rfl | ⟨hlt, -⟩
    · cases hu
    · exact hlt
  | take hm _ _ => exact Program.lt_of_move_take hm

theorem Live.liveAfter {prog : Program} {p : Place} {t u : Thread} (h : Live prog p t)
    (hm : prog.move p t = .take u) : LiveAfter prog p u := by
  cases h with
  | finish hm' => simp [hm] at hm'
  | on hm' _ _ => simp [hm] at hm'
  | take hm' hrest h =>
    obtain rfl := Move.take.inj (hm.symm.trans hm')
    exact ⟨_, _, hrest, h⟩

theorem liveAfter_iff {prog : Program} {p : Place} {t : Thread} {c : Char} {cs : List Char}
    (hrest : p.rest = c :: cs) : LiveAfter prog p t ↔ Live prog (p.past c cs) t := by
  constructor
  · rintro ⟨d, ds, hrest', h⟩
    obtain ⟨rfl, rfl⟩ := List.cons.inj (hrest.symm.trans hrest')
    exact h
  · exact fun h => ⟨c, cs, hrest, h⟩

theorem LiveAfter.live {prog : Program} {p : Place} {t u : Thread} (h : LiveAfter prog p u)
    (hm : prog.move p t = .take u) : Live prog p t := by
  obtain ⟨c, cs, hrest, h⟩ := h
  exact .take hm hrest h

/-! ## Lists that pair up -/

/-- Two lists pair up in order, but for members that are dead. -/
inductive Paired (rel : Thread → Thread → Prop) (dead dead' : Thread → Prop) : List Thread → List Thread → Prop
  | nil : Paired rel dead dead' [] []
  | both {t t' : Thread} {ts ts' : List Thread} (hr : rel t t') (h : Paired rel dead dead' ts ts') :
      Paired rel dead dead' (t :: ts) (t' :: ts')
  | left {t : Thread} {ts ts' : List Thread} (hd : dead t) (h : Paired rel dead dead' ts ts') :
      Paired rel dead dead' (t :: ts) ts'
  | right {t' : Thread} {ts ts' : List Thread} (hd : dead' t') (h : Paired rel dead dead' ts ts') :
      Paired rel dead dead' ts (t' :: ts')

namespace Paired

variable {rel : Thread → Thread → Prop} {dead dead' : Thread → Prop} {as as' bs bs' ts ts' : List Thread}

theorem append (h : Paired rel dead dead' as as') (h' : Paired rel dead dead' bs bs') :
    Paired rel dead dead' (as ++ bs) (as' ++ bs') := by
  induction h with
  | nil => exact h'
  | both hr _ ih => exact .both hr ih
  | left hd _ ih => exact .left hd ih
  | right hd _ ih => exact .right hd ih

theorem of_dead_left (h : ∀ t ∈ as, dead t) : Paired rel dead dead' as [] := by
  induction as with
  | nil => exact .nil
  | cons t as ih => exact .left (h t (by simp)) (ih fun u hu => h u (List.mem_cons_of_mem _ hu))

theorem of_dead_right (h : ∀ t ∈ as', dead' t) : Paired rel dead dead' [] as' := by
  induction as' with
  | nil => exact .nil
  | cons t as ih => exact .right (h t (by simp)) (ih fun u hu => h u (List.mem_cons_of_mem _ hu))

theorem reverse (h : Paired rel dead dead' as as') : Paired rel dead dead' as.reverse as'.reverse := by
  induction h with
  | nil => exact .nil
  | both hr _ ih => simpa using ih.append (.both hr .nil)
  | left hd _ ih => simpa using ih.append (.left hd .nil)
  | right hd _ ih => simpa using ih.append (.right hd .nil)

/-- With nothing dead the lists pair up whatever counts as dead. -/
theorem of_all (h : Paired rel (fun _ => False) (fun _ => False) as as') : Paired rel dead dead' as as' := by
  induction h with
  | nil => exact .nil
  | both hr _ ih => exact .both hr ih
  | left hd | right hd => exact hd.elim

theorem imp {dead₂ dead₂' : Thread → Prop} (hd : ∀ t, dead t → dead₂ t) (hd' : ∀ t, dead' t → dead₂' t)
    (h : Paired rel dead dead' as as') : Paired rel dead₂ dead₂' as as' := by
  induction h with
  | nil => exact .nil
  | both hr _ ih => exact .both hr ih
  | left h _ ih => exact .left (hd _ h) ih
  | right h _ ih => exact .right (hd' _ h) ih

/-- The thread that one which is not dead is paired with. -/
theorem exists_right {t : Thread} (h : Paired rel dead dead' ts ts') (ht : t ∈ ts) (hd : ¬ dead t) :
    ∃ t' ∈ ts', rel t t' := by
  induction h with
  | nil => cases ht
  | both hr _ ih =>
    rcases List.mem_cons.1 ht with rfl | ht
    · exact ⟨_, by simp, hr⟩
    · obtain ⟨t', h1, h2⟩ := ih ht
      exact ⟨t', List.mem_cons_of_mem _ h1, h2⟩
  | left hdt _ ih =>
    rcases List.mem_cons.1 ht with rfl | ht
    · exact absurd hdt hd
    · exact ih ht
  | right _ _ ih =>
    obtain ⟨t', h1, h2⟩ := ih ht
    exact ⟨t', List.mem_cons_of_mem _ h1, h2⟩

theorem flip (h : Paired rel dead dead' ts ts') : Paired (fun t' t => rel t t') dead' dead ts' ts := by
  induction h with
  | nil => exact .nil
  | both hr _ ih => exact .both hr ih
  | left hd _ ih => exact .right hd ih
  | right hd _ ih => exact .left hd ih

theorem dead_of_nil (h : Paired rel dead dead' [] ts') : ∀ t ∈ ts', dead' t := by
  generalize hl : ([] : List Thread) = l at h
  induction h with
  | nil => simp
  | both | left => cases hl
  | right hd _ ih =>
    intro t ht
    rcases List.mem_cons.1 ht with rfl | ht
    · exact hd
    · exact ih hl t ht

/-- The first thread is dead, or it is paired with the first one that comes after dead ones. -/
theorem cons_cases {t : Thread} (h : Paired rel dead dead' (t :: ts) ts') :
    dead t ∧ Paired rel dead dead' ts ts' ∨
      ∃ js t' us', ts' = js ++ t' :: us' ∧ (∀ j ∈ js, dead' j) ∧ rel t t' ∧ Paired rel dead dead' ts us' := by
  generalize hl : t :: ts = l at h
  induction h with
  | nil => cases hl
  | both hr h _ =>
    obtain ⟨rfl, rfl⟩ := List.cons.inj hl
    exact .inr ⟨[], _, _, rfl, by simp, hr, h⟩
  | left hd h _ =>
    obtain ⟨rfl, rfl⟩ := List.cons.inj hl
    exact .inl ⟨hd, h⟩
  | @right t' _ _ hd _ ih =>
    rcases ih hl with ⟨ht, h⟩ | ⟨js, u, us', rfl, hjs, hr, h⟩
    · exact .inl ⟨ht, .right hd h⟩
    · refine .inr ⟨t' :: js, u, us', rfl, fun j hj => ?_, hr, h⟩
      rcases List.mem_cons.1 hj with rfl | hj
      · exact hd
      · exact hjs j hj

/-- A first thread that is dead may be dropped. -/
theorem tail_of_dead {t : Thread} (hrel : ∀ {t'}, rel t t' → dead' t')
    (h : Paired rel dead dead' (t :: ts) ts') : Paired rel dead dead' ts ts' := by
  rcases h.cons_cases with ⟨-, h⟩ | ⟨js, t', us', rfl, hjs, hr, h⟩
  · exact h
  · exact (of_dead_right hjs).append (.right (hrel hr) h)

end Paired

/-! ## Moves that are alike -/

/-- Two moves are alike when they lead to paired threads. -/
inductive MovesAlike (rel : Thread → Thread → Prop) : Move → Move → Prop
  | on {ts ts' : List Thread} (h : Paired rel (fun _ => False) (fun _ => False) ts ts') :
      MovesAlike rel (.on ts) (.on ts')
  | take {t t' : Thread} (h : rel t t') : MovesAlike rel (.take t) (.take t')
  | finish : MovesAlike rel .finish .finish

/-- Related threads of two programs move alike everywhere, and are at the same step in the one program
when they are in the other. -/
structure Alike (prog prog' : Program) (rel : Thread → Thread → Prop) : Prop where
  move {p : Place} {t t' : Thread} : rel t t' → MovesAlike rel (prog.move p t) (prog'.move p t')
  step {t t' u u' : Thread} : rel t t' → rel u u' → (t.step = u.step ↔ t'.step = u'.step)

namespace Alike

variable {prog prog' : Program} {rel : Thread → Thread → Prop}

theorem move_on (h : Alike prog prog' rel) {p : Place} {t t' : Thread} {us : List Thread} (hr : rel t t')
    (hm : prog.move p t = .on us) :
    ∃ us', prog'.move p t' = .on us' ∧ Paired rel (fun _ => False) (fun _ => False) us us' := by
  have ha := h.move (p := p) hr
  rw [hm] at ha
  generalize prog'.move p t' = m' at ha
  cases ha with
  | on hp => exact ⟨_, rfl, hp⟩

theorem move_take (h : Alike prog prog' rel) {p : Place} {t t' u : Thread} (hr : rel t t')
    (hm : prog.move p t = .take u) : ∃ u', prog'.move p t' = .take u' ∧ rel u u' := by
  have ha := h.move (p := p) hr
  rw [hm] at ha
  generalize prog'.move p t' = m' at ha
  cases ha with
  | take hr' => exact ⟨_, rfl, hr'⟩

theorem move_finish (h : Alike prog prog' rel) {p : Place} {t t' : Thread} (hr : rel t t')
    (hm : prog.move p t = .finish) : prog'.move p t' = .finish := by
  have ha := h.move (p := p) hr
  rw [hm] at ha
  generalize prog'.move p t' = m' at ha
  cases ha
  rfl

theorem symm (h : Alike prog prog' rel) : Alike prog' prog fun t' t => rel t t' where
  move {p t' t} hr := by
    cases hm : prog.move p t with
    | on us =>
      obtain ⟨us', hm', hp⟩ := h.move_on hr hm
      rw [hm']
      exact .on hp.flip
    | take u =>
      obtain ⟨u', hm', hr'⟩ := h.move_take hr hm
      rw [hm']
      exact .take hr'
    | finish =>
      rw [h.move_finish hr hm]
      exact .finish
  step hr hr' := (h.step hr hr').symm

theorem live_of_live (h : Alike prog prog' rel) {p : Place} {t : Thread} (hl : Live prog p t) :
    ∀ {t' : Thread}, rel t t' → Live prog' p t' := by
  induction hl with
  | finish hm => exact fun hr => .finish (h.move_finish hr hm)
  | on hm hu _ ih =>
    intro t' hr
    obtain ⟨us', hm', hp⟩ := h.move_on hr hm
    obtain ⟨u', hu', hr'⟩ := hp.exists_right hu id
    exact .on hm' hu' (ih hr')
  | take hm hrest _ ih =>
    intro t' hr
    obtain ⟨u', hm', hr'⟩ := h.move_take hr hm
    exact .take hm' hrest (ih hr')

theorem live_iff (h : Alike prog prog' rel) {p : Place} {t t' : Thread} (hr : rel t t') :
    Live prog p t ↔ Live prog' p t' :=
  ⟨fun hl => h.live_of_live hl hr, fun hl => h.symm.live_of_live hl hr⟩

/-- What a thread can do depends on its step only. -/
theorem of_step (prog : Program) : Alike prog prog fun t t' => t.step = t'.step where
  move {p t t'} hr := by
    unfold Program.move
    rw [hr]
    cases prog.steps[t'.step]? with
    | none => exact .on .nil
    | some s =>
      cases s with
      | take s next =>
        simp only
        split
        · exact .take rfl
        · exact .on .nil
      | check a next =>
        simp only
        split
        · exact .on (.both rfl .nil)
        · exact .on .nil
      | fork first second => exact .on (.both rfl (.both rfl .nil))
      | openGroup i next => exact .on (.both rfl .nil)
      | closeGroup i next => exact .on (.both rfl .nil)
      | done => exact .finish
  step hr hr' := by rw [hr, hr']

/-- A thread behaves like itself, and so it does with what its moves keep. -/
theorem refl_of_keeps {I : Thread → Prop} (hon : ∀ p t us, I t → prog.move p t = .on us → ∀ u ∈ us, I u)
    (htake : ∀ p t u, I t → prog.move p t = .take u → I u) :
    Alike prog prog fun t t' => t = t' ∧ I t where
  move {p t t'} := by
    rintro ⟨rfl, ht⟩
    cases hm : prog.move p t with
    | on us =>
      refine .on ?_
      have hus := hon p t us ht hm
      clear hm
      induction us with
      | nil => exact .nil
      | cons u us ih => exact .both ⟨rfl, hus u (by simp)⟩ (ih fun v hv => hus v (List.mem_cons_of_mem _ hv))
    | take u => exact .take ⟨rfl, htake p t u ht hm⟩
    | finish => exact .finish
  step := by
    rintro t _ u _ ⟨rfl, -⟩ ⟨rfl, -⟩
    exact Iff.rfl

end Alike

theorem Live.of_step {prog : Program} {p : Place} {t t' : Thread} (h : Live prog p t)
    (hs : t.step = t'.step) : Live prog p t' :=
  (Alike.of_step prog).live_of_live h hs

end ProseLint.Pattern
