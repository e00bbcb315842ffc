/-
Following paired threads. Dead threads lead to nothing that counts (`Explores.skip_dead`), live ones
to the end or to a live thread after the next character (`Explores.live_threads`), and paired threads
to paired threads (`Explores.alike`).
-/
import ProseLint.Proofs.Pattern.Alike

namespace ProseLint.Pattern

variable {prog prog' : Program} {rel : Thread → Thread → Prop}

/-- What counts in a wave is the same in another, and whatever was added to it is dead. -/
structure Wave.SameLive (prog : Program) (p : Place) (w v : Wave) : Prop where
  size : v.reached.size = w.reached.size
  done : v.done = w.done
  seen : ∀ t, Live prog p t → (v.Seen p t.step ↔ w.Seen p t.step)
  threads : ∃ ds, v.threads = ds ++ w.threads ∧ ∀ d ∈ ds, ¬ LiveAfter prog p d

/-- **Following dead threads changes nothing that counts.** -/
theorem Explores.skip_dead {p : Place} {js ts : List Thread} {w w' : Wave}
    (h : Explores prog p (js ++ ts) w w') (hjs : ∀ j ∈ js, ¬ Live prog p j) :
    ∃ v, Explores prog p ts v w' ∧ w.SameLive prog p v := by
  generalize hl : js ++ ts = l at h
  have stop {l : List Thread} {w w' : Wave} (h : Explores prog p l w w') :
      ∃ v, Explores prog p l v w' ∧ w.SameLive prog p v :=
    ⟨w, h, rfl, rfl, fun _ _ => Iff.rfl, [], rfl, by simp⟩
  have mark {j : Thread} {w v : Wave} (hj : ¬ Live prog p j) {t : Thread} (ht : Live prog p t)
      (h : v.Seen p t.step ↔ (w.mark p j.step).Seen p t.step) : v.Seen p t.step ↔ w.Seen p t.step := by
    rw [h, Wave.seen_mark]
    exact ⟨fun h => h.elim (fun h => absurd (ht.of_step h.1.symm) hj) id, .inr⟩
  induction h generalizing js with
  | nil =>
    obtain ⟨rfl, rfl⟩ := List.append_eq_nil_iff.1 hl
    exact stop .nil
  | seen hs h ih =>
    cases js with
    | nil =>
      obtain rfl : ts = _ := hl
      exact stop (.seen hs h)
    | cons j js =>
      obtain ⟨rfl, rfl⟩ := List.cons.inj hl
      exact ih (fun k hk => hjs k (List.mem_cons_of_mem _ hk)) rfl
  | @on t _ us _ _ hs hm h ih =>
    cases js with
    | nil =>
      obtain rfl : ts = _ := hl
      exact stop (.on hs hm h)
    | cons j js =>
      obtain ⟨rfl, rfl⟩ := List.cons.inj hl
      have hj := hjs j (by simp)
      have hus : ∀ k ∈ us ++ js, ¬ Live prog p k := by
        intro k hk
        rcases List.mem_append.1 hk with hk | hk
        · exact fun hlive => hj (.on hm hk hlive)
        · exact hjs k (List.mem_cons_of_mem _ hk)
      obtain ⟨v, hv, hsize, hdone, hseen, ds, hds, hdead⟩ := ih hus (List.append_assoc _ _ _)
      exact ⟨v, hv, by simpa using hsize, hdone, fun t ht => mark hj ht (hseen t ht), ds, hds, hdead⟩
  | @take t u _ _ _ hs hm h ih =>
    cases js with
    | nil =>
      obtain rfl : ts = _ := hl
      exact stop (.take hs hm h)
    | cons j js =>
      obtain ⟨rfl, rfl⟩ := List.cons.inj hl
      have hj := hjs j (by simp)
      obtain ⟨v, hv, hsize, hdone, hseen, ds, hds, hdead⟩ :=
        ih (fun k hk => hjs k (List.mem_cons_of_mem _ hk)) rfl
      refine ⟨v, hv, by simpa using hsize, hdone, fun t ht => mark hj ht (hseen t ht), ds ++ [u], ?_, ?_⟩
      · simpa using hds
      · intro d hd
        rcases List.mem_append.1 hd with hd | hd
        · exact hdead d hd
        · obtain rfl := List.mem_singleton.1 hd
          exact fun hlive => hj (hlive.live hm)
  | @finish t _ _ hs hm =>
    cases js with
    | nil =>
      obtain rfl : ts = _ := hl
      exact stop (.finish hs hm)
    | cons j js =>
      obtain ⟨rfl, rfl⟩ := List.cons.inj hl
      exact absurd (.finish hm) (hjs j (by simp))

/-! ## Paired threads -/

/-- Threads that take the next character pair up, but for those that are dead after it. -/
abbrev PairedAfter (prog prog' : Program) (rel : Thread → Thread → Prop) (p : Place) :
    List Thread → List Thread → Prop :=
  Paired rel (fun t => ¬ LiveAfter prog p t) (fun t => ¬ LiveAfter prog' p t)

/-- Threads at a place pair up, but for those that are dead there. -/
abbrev PairedAt (prog prog' : Program) (rel : Thread → Thread → Prop) (p : Place) :
    List Thread → List Thread → Prop :=
  Paired rel (fun t => ¬ Live prog p t) (fun t => ¬ Live prog' p t)

/-- Two waves have reached the same of the related steps that are live, and their threads pair up. -/
structure Wave.Like (prog prog' : Program) (rel : Thread → Thread → Prop) (p : Place) (w w' : Wave) : Prop where
  size : w.reached.size = prog.steps.size
  size' : w'.reached.size = prog'.steps.size
  seen : ∀ t t', rel t t' → Live prog p t → (w.Seen p t.step ↔ w'.Seen p t'.step)
  threads : PairedAfter prog prog' rel p w.threads w'.threads

namespace Wave.Like

variable {p : Place} {w w' v' : Wave}

/-- What does not count in the second wave does not matter. -/
theorem sameLive_right (hA : Alike prog prog' rel) (h : w.Like prog prog' rel p w')
    (hs : w'.SameLive prog' p v') : w.Like prog prog' rel p v' where
  size := h.size
  size' := hs.size.trans h.size'
  seen t t' hr hl := (h.seen t t' hr hl).trans (hs.seen t' ((hA.live_iff hr).1 hl)).symm
  threads := by
    obtain ⟨ds, hds, hdead⟩ := hs.threads
    rw [hds]
    exact (Paired.of_dead_right hdead).append h.threads

theorem mark_dead {t : Thread} (h : w.Like prog prog' rel p w') (ht : ¬ Live prog p t) :
    (w.mark p t.step).Like prog prog' rel p w' where
  size := by simpa using h.size
  size' := h.size'
  seen u u' hr hl := by
    rw [Wave.seen_mark, ← h.seen u u' hr hl]
    exact ⟨fun hs => hs.elim (fun hs => absurd (hl.of_step hs.1.symm) ht) id, .inr⟩
  threads := h.threads

theorem mark_both (hA : Alike prog prog' rel) {t t' : Thread} (hr : rel t t')
    (h : w.Like prog prog' rel p w') : (w.mark p t.step).Like prog prog' rel p (w'.mark p t'.step) where
  size := by simpa using h.size
  size' := by simpa using h.size'
  seen u u' hr' hl := by
    have hl' := (hA.live_iff hr').1 hl
    rw [Wave.seen_mark, Wave.seen_mark, h.seen u u' hr' hl, hA.step hr hr', h.size, h.size']
    simp [hl.lt, hl'.lt]
  threads := h.threads

theorem add_dead {t : Thread} (h : w.Like prog prog' rel p w') (ht : ¬ LiveAfter prog p t) :
    (w.add t).Like prog prog' rel p w' :=
  ⟨h.size, h.size', h.seen, .left ht h.threads⟩

theorem add_both {t t' : Thread} (hr : rel t t') (h : w.Like prog prog' rel p w') :
    (w.add t).Like prog prog' rel p (w'.add t') :=
  ⟨h.size, h.size', h.seen, .both hr h.threads⟩

end Wave.Like

/-- Two waves have come to the end with related threads, or neither has. -/
def Wave.DoneAlike (rel : Thread → Thread → Prop) (w w' : Wave) : Prop :=
  w.done = none ∧ w'.done = none ∨ ∃ t t', w.done = some t ∧ w'.done = some t' ∧ rel t t'

/-- **Following paired threads leads to paired threads.** -/
theorem Explores.alike (hA : Alike prog prog' rel) {p : Place} {ts : List Thread} {w v : Wave}
    (h : Explores prog p ts w v) :
    ∀ {ts' : List Thread} {w' v' : Wave}, Explores prog' p ts' w' v' → w.done = none → w'.done = none →
      w.Like prog prog' rel p w' → PairedAt prog prog' rel p ts ts' →
      v.Like prog prog' rel p v' ∧ v.DoneAlike rel v' := by
  have dead {t t' : Thread} (ht : ¬ Live prog p t) (hr : rel t t') : ¬ Live prog' p t' :=
    fun hl => ht ((hA.live_iff hr).2 hl)
  -- The first thread of a pair that is live meets its partner after dead ones.
  have partner {t : Thread} {ts ts' : List Thread} {w w' v' : Wave} (ht : Live prog p t)
      (h' : Explores prog' p ts' w' v') (hL : w.Like prog prog' rel p w')
      (hp : PairedAt prog prog' rel p (t :: ts) ts') (hw' : w'.done = none) :
      ∃ t' us' x, rel t t' ∧ Explores prog' p (t' :: us') x v' ∧ x.done = none ∧
        w.Like prog prog' rel p x ∧ PairedAt prog prog' rel p ts us' := by
    rcases hp.cons_cases with ⟨hd, -⟩ | ⟨js, t', us', rfl, hjs, hr, hp⟩
    · exact absurd ht hd
    · obtain ⟨x, hx, hs⟩ := h'.skip_dead hjs
      exact ⟨t', us', x, hr, hx, hs.done.trans hw', hL.sameLive_right hA hs, hp⟩
  induction h with
  | @nil w =>
    intro ts' w' v' h' hw hw' hL hp
    rw [← List.append_nil ts'] at h'
    obtain ⟨x, hx, hs⟩ := h'.skip_dead hp.dead_of_nil
    cases hx
    exact ⟨hL.sameLive_right hA hs, .inl ⟨hw, hs.done.trans hw'⟩⟩
  | @seen t ts w v hs h ih =>
    intro ts' w' v' h' hw hw' hL hp
    by_cases ht : Live prog p t
    · obtain ⟨t', us', x, hr, hx, hxd, hLx, hp⟩ := partner ht h' hL hp hw'
      have hs' := (hLx.seen t t' hr ht).1 hs
      cases hx with
      | seen _ hx => exact ih hx hw hxd hLx hp
      | on hn | take hn | finish hn => exact absurd hs' hn
    · exact ih h' hw hw' hL (hp.tail_of_dead (dead ht))
  | @on t ts us w v hs hm h ih =>
    intro ts' w' v' h' hw hw' hL hp
    by_cases ht : Live prog p t
    · obtain ⟨t', us', x, hr, hx, hxd, hLx, hp⟩ := partner ht h' hL hp hw'
      obtain ⟨vs, hm', hvs⟩ := hA.move_on hr hm
      have hs' := mt (hLx.seen t t' hr ht).2 hs
      cases hx with
      | seen hn => exact absurd hn hs'
      | on _ hmx hx =>
        obtain rfl := Move.on.inj (hm'.symm.trans hmx)
        exact ih hx hw hxd (hLx.mark_both hA hr) (hvs.of_all.append hp)
      | take _ hmx | finish _ hmx => simp [hm'] at hmx
    · have hus : ∀ u ∈ us, ¬ Live prog p u := fun u hu hl => ht (.on hm hu hl)
      exact ih h' hw hw' (hL.mark_dead ht)
        ((Paired.of_dead_left hus).append (hp.tail_of_dead (dead ht)))
  | @take t u ts w v hs hm h ih =>
    intro ts' w' v' h' hw hw' hL hp
    by_cases ht : Live prog p t
    · obtain ⟨t', us', x, hr, hx, hxd, hLx, hp⟩ := partner ht h' hL hp hw'
      obtain ⟨u', hm', hu⟩ := hA.move_take hr hm
      have hs' := mt (hLx.seen t t' hr ht).2 hs
      cases hx with
      | seen hn => exact absurd hn hs'
      | take _ hmx hx =>
        obtain rfl := Move.take.inj (hm'.symm.trans hmx)
        exact ih hx hw hxd ((hLx.mark_both hA hr).add_both hu) hp
      | on _ hmx | finish _ hmx => simp [hm'] at hmx
    · have hu : ¬ LiveAfter prog p u := fun hl => ht (hl.live hm)
      exact ih h' hw hw' ((hL.mark_dead ht).add_dead hu) (hp.tail_of_dead (dead ht))
  | @finish t ts w hs hm =>
    intro ts' w' v' h' hw hw' hL hp
    have ht : Live prog p t := .finish hm
    obtain ⟨t', us', x, hr, hx, hxd, hLx, hp⟩ := partner ht h' hL hp hw'
    have hm' := hA.move_finish hr hm
    have hs' := mt (hLx.seen t t' hr ht).2 hs
    cases hx with
    | seen hn => exact absurd hn hs'
    | finish _ _ =>
      have hL' := hLx.mark_both hA hr
      exact ⟨⟨hL'.size, hL'.size', hL'.seen, hL'.threads⟩, .inr ⟨t, t', rfl, rfl, hr⟩⟩
    | on _ hmx | take _ hmx => simp [hm'] at hmx

/-! ## Live threads -/

/-- Whatever can be done at the steps a wave has reached has been done, or some thread that is still to
be followed will do it. -/
structure Wave.Closed (prog : Program) (p : Place) (ts : List Thread) (w : Wave) : Prop where
  on : ∀ t us, w.Seen p t.step → prog.move p t = .on us → ∀ u ∈ us, Live prog p u →
    w.Seen p u.step ∨ ∃ v ∈ ts, v.step = u.step
  take : ∀ t u, w.Seen p t.step → prog.move p t = .take u → ∃ v ∈ w.threads, v.step = u.step
  finish : ∀ t, w.Seen p t.step → prog.move p t ≠ .finish

/-- Reaching the step of a thread that becomes others leaves those to be followed. -/
theorem Wave.Closed.mark_on {p : Place} {t : Thread} {ts us : List Thread} {w : Wave}
    (h : w.Closed prog p (t :: ts)) (hsize : w.reached.size = prog.steps.size)
    (hm : prog.move p t = .on us) : (w.mark p t.step).Closed prog p (us ++ ts) where
  on a as ha hma u hu hl := by
    rw [Wave.seen_mark] at ha
    rcases ha with ⟨hs, -⟩ | ha
    · obtain ⟨us', hm', hp⟩ := (Alike.of_step prog).move_on hs.symm hma
      obtain rfl := Move.on.inj (hm.symm.trans hm')
      obtain ⟨v, hv, hvs⟩ := hp.exists_right hu id
      exact .inr ⟨v, List.mem_append_left _ hv, hvs.symm⟩
    · rcases h.on a as ha hma u hu hl with hs | ⟨v, hv, hvs⟩
      · exact .inl (Wave.seen_mark.2 (.inr hs))
      · rcases List.mem_cons.1 hv with rfl | hv
        · exact .inl (Wave.seen_mark.2 (.inl ⟨hvs, hsize ▸ hl.lt⟩))
        · exact .inr ⟨v, List.mem_append_right _ hv, hvs⟩
  take a u ha hma := by
    rw [Wave.seen_mark] at ha
    rcases ha with ⟨hs, -⟩ | ha
    · obtain ⟨_, hm', -⟩ := (Alike.of_step prog).move_on hs hm
      simp [hma] at hm'
    · exact h.take a u ha hma
  finish a ha hma := by
    rw [Wave.seen_mark] at ha
    rcases ha with ⟨hs, -⟩ | ha
    · obtain ⟨_, hm', -⟩ := (Alike.of_step prog).move_on hs hm
      simp [hma] at hm'
    · exact h.finish a ha hma

/-- Reaching the step of a thread that takes the next character keeps that thread. -/
theorem Wave.Closed.mark_take {p : Place} {t u : Thread} {ts : List Thread} {w : Wave}
    (h : w.Closed prog p (t :: ts)) (hsize : w.reached.size = prog.steps.size)
    (hm : prog.move p t = .take u) : ((w.mark p t.step).add u).Closed prog p ts where
  on a as ha hma u' hu hl := by
    rw [Wave.seen_add, Wave.seen_mark] at ha
    rcases ha with ⟨hs, -⟩ | ha
    · obtain ⟨_, hm', -⟩ := (Alike.of_step prog).move_take hs hm
      simp [hma] at hm'
    · rcases h.on a as ha hma u' hu hl with hs | ⟨v, hv, hvs⟩
      · exact .inl (Wave.seen_mark.2 (.inr hs))
      · rcases List.mem_cons.1 hv with rfl | hv
        · exact .inl (Wave.seen_mark.2 (.inl ⟨hvs, hsize ▸ hl.lt⟩))
        · exact .inr ⟨v, hv, hvs⟩
  take a b ha hma := by
    rw [Wave.seen_add, Wave.seen_mark] at ha
    rcases ha with ⟨hs, -⟩ | ha
    · obtain ⟨b', hm', hb⟩ := (Alike.of_step prog).move_take hs hm
      obtain rfl := Move.take.inj (hma.symm.trans hm')
      exact ⟨u, by simp, hb⟩
    · obtain ⟨v, hv, hvs⟩ := h.take a b ha hma
      exact ⟨v, List.mem_cons_of_mem _ hv, hvs⟩
  finish a ha hma := by
    rw [Wave.seen_add, Wave.seen_mark] at ha
    rcases ha with ⟨hs, -⟩ | ha
    · obtain ⟨_, hm', -⟩ := (Alike.of_step prog).move_take hs hm
      simp [hma] at hm'
    · exact h.finish a ha hma

/-- Following threads without coming to the end leaves nothing open. -/
theorem Explores.closed {p : Place} {ts : List Thread} {w v : Wave} (h : Explores prog p ts w v)
    (hd : v.done = none) (hsize : w.reached.size = prog.steps.size) (hc : w.Closed prog p ts) :
    v.Closed prog p [] ∧ (∀ s, w.Seen p s → v.Seen p s) ∧ ∀ t ∈ ts, Live prog p t → v.Seen p t.step := by
  induction h with
  | nil => exact ⟨hc, fun _ hs => hs, by simp⟩
  | @seen t ts w v hs _ ih =>
    have hc' : w.Closed prog p ts := by
      refine ⟨fun a as ha hma u hu hl => ?_, hc.take, hc.finish⟩
      rcases hc.on a as ha hma u hu hl with hs' | ⟨b, hb, hbs⟩
      · exact .inl hs'
      · rcases List.mem_cons.1 hb with rfl | hb
        · exact .inl (hbs ▸ hs)
        · exact .inr ⟨b, hb, hbs⟩
    obtain ⟨h1, h2, h3⟩ := ih hd hsize hc'
    refine ⟨h1, h2, fun a ha hl => ?_⟩
    rcases List.mem_cons.1 ha with rfl | ha
    · exact h2 _ hs
    · exact h3 a ha hl
  | @on t ts us w v _ hm _ ih =>
    obtain ⟨h1, h2, h3⟩ := ih hd (by simpa using hsize) (hc.mark_on hsize hm)
    refine ⟨h1, fun s hs => h2 s (Wave.seen_mark.2 (.inr hs)), fun a ha hl => ?_⟩
    rcases List.mem_cons.1 ha with rfl | ha
    · exact h2 _ (Wave.seen_mark.2 (.inl ⟨rfl, hsize ▸ hl.lt⟩))
    · exact h3 a (List.mem_append_right _ ha) hl
  | @take t u ts w v _ hm _ ih =>
    obtain ⟨h1, h2, h3⟩ := ih hd (by simpa using hsize) (hc.mark_take hsize hm)
    refine ⟨h1, fun s hs => h2 s (Wave.seen_mark.2 (.inr hs)), fun a ha hl => ?_⟩
    rcases List.mem_cons.1 ha with rfl | ha
    · exact h2 _ (Wave.seen_mark.2 (.inl ⟨rfl, hsize ▸ hl.lt⟩))
    · exact h3 a ha hl
  | finish => simp [Wave.finish] at hd

/-- A live thread at a step that has been reached has led to a thread that is live after the next
character. -/
theorem Wave.Closed.liveAfter {p : Place} {t : Thread} {v : Wave} (hl : Live prog p t)
    (hc : v.Closed prog p []) (hs : v.Seen p t.step) : ∃ u ∈ v.threads, LiveAfter prog p u := by
  induction hl with
  | finish hm => exact absurd hm (hc.finish _ hs)
  | on hm hu hl ih =>
    rcases hc.on _ _ hs hm _ hu hl with hs' | ⟨_, hv, -⟩
    · exact ih hc hs'
    · cases hv
  | take hm hrest hl =>
    obtain ⟨u', hu', hstep⟩ := hc.take _ _ hs hm
    exact ⟨u', hu', _, _, hrest, hl.of_step hstep.symm⟩

/-- Nothing has been reached at a place. -/
def Wave.Unseen (p : Place) (w : Wave) : Prop := ∀ s, ¬ w.Seen p s

theorem Wave.Unseen.closed {p : Place} {w : Wave} (h : w.Unseen p) (ts : List Thread) : w.Closed prog p ts :=
  ⟨fun _ _ hs => absurd hs (h _), fun _ _ hs => absurd hs (h _), fun _ hs => absurd hs (h _)⟩

/-- **A live thread comes to the end, or takes the next character and is live after it.** -/
theorem Explores.live_threads {p : Place} {ts : List Thread} {w v : Wave} (h : Explores prog p ts w v)
    (hd : v.done = none) (hsize : w.reached.size = prog.steps.size) (hc : w.Closed prog p ts)
    {t : Thread} (ht : t ∈ ts) (hl : Live prog p t) : ∃ u ∈ v.threads, LiveAfter prog p u := by
  obtain ⟨h1, -, h3⟩ := h.closed hd hsize hc
  exact h1.liveAfter hl (h3 t ht hl)

end ProseLint.Pattern
