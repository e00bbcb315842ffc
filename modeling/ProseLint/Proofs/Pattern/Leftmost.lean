/-
Which match a search answers. Searches that have come to paired threads, one of them live, answer alike
(`goOn_alike`). So what a search answers starts at the first place where a thread can start that comes
to the end, and a search from that place answers the same (`finish?_eq_some`).
-/
import ProseLint.Proofs.Pattern.Following

namespace ProseLint.Pattern

variable {prog prog' : Program} {rel : Thread → Thread → Prop}

/-- No step has been reached after a place. -/
def Wave.UpTo (w : Wave) (p : Place) : Prop :=
  ∀ s m : Nat, w.reached[s]? = some m → m ≤ p.offset + 1

theorem Wave.UpTo.mark {w : Wave} {p : Place} (h : w.UpTo p) (step : Nat) : (w.mark p step).UpTo p := by
  intro s m hm
  simp only [Wave.mark, Array.getElem?_setIfInBounds] at hm
  split at hm
  · split at hm
    · exact Nat.le_of_eq (Option.some.inj hm).symm
    · cases hm
  · exact h s m hm

theorem Explores.upTo {p : Place} {ts : List Thread} {w v : Wave} (h : Explores prog p ts w v)
    (hw : w.UpTo p) : v.UpTo p := by
  induction h with
  | nil => exact hw
  | seen _ _ ih => exact ih hw
  | on _ _ _ ih => exact ih (hw.mark _)
  | take _ _ _ ih => exact ih (hw.mark _ :)
  | finish => exact (hw.mark _ :)

/-- At the next place nothing has been reached. -/
theorem Wave.UpTo.past {w : Wave} {p : Place} (h : w.UpTo p) (c : Char) (cs : List Char) :
    (Wave.fresh w.reached).Unseen (p.past c cs) ∧ (Wave.fresh w.reached).UpTo (p.past c cs) := by
  have hc := c.utf8Size_pos
  constructor
  · intro s hs
    have := h s _ hs
    simp only [Place.past] at this
    omega
  · intro s m hm
    have := h s m hm
    simp only [Place.past]
    omega

namespace Program

/-- What counts for the answer of two searches at waves with paired threads: both have just come to the
end, or one of the threads they share is live. What else the waves hold comes after it. -/
inductive Settled (prog prog' : Program) (rel : Thread → Thread → Prop) (p : Place) (v v' : Wave) : Prop
  | done {t t' : Thread} (hd : v.done = some t) (hd' : v'.done = some t') (hr : rel t t')
      (hp : PairedAfter prog prog' rel p v.threads v'.threads)
  | live {xs as xs' as' : List Thread} (hv : v.threads = xs ++ as) (hv' : v'.threads = xs' ++ as')
      (hp : PairedAfter prog prog' rel p as as') (hl : ∃ u ∈ as, LiveAfter prog p u)

/-- Two searches answer with related threads at one place. -/
def AnswerAlike (rel : Thread → Thread → Prop) (x x' : Option Finish) : Prop :=
  ∃ f f', x = some f ∧ x' = some f' ∧ rel f.thread f'.thread ∧ f.place = f'.place

/-- Following paired threads, one of them live, settles the answer of both searches, whatever threads
come after them. -/
theorem settled_of_explores (hA : Alike prog prog' rel) {p : Place} {as as' us us' : List Thread}
    {w w' v v' : Wave} (h : Explores prog p (as ++ us) w v) (h' : Explores prog' p (as' ++ us') w' v')
    (hd : w.done = none) (hd' : w'.done = none) (hL : w.Like prog prog' rel p w') (hp : PairedAt prog prog' rel p as as')
    (hlive : ∀ a, Explores prog p as w a → a.done = none → ∃ u ∈ a.threads, LiveAfter prog p u) :
    Settled prog prog' rel p v v' := by
  -- Threads that come later are put before those that are there.
  have later {prog : Program} {us : List Thread} {a v : Wave} (h : Explores prog p us a v) :
      ∃ xs, v.threads = xs ++ a.threads := by
    induction h with
    | nil => exact ⟨[], rfl⟩
    | seen _ _ ih | on _ _ _ ih => exact ih
    | take _ _ _ ih =>
      obtain ⟨xs, hxs⟩ := ih
      exact ⟨xs ++ [_], by simpa using hxs⟩
    | finish => exact ⟨[], rfl⟩
  rcases h.split hd with ⟨h, hsome⟩ | ⟨a, h, hnone, hu⟩ <;>
    rcases h'.split hd' with ⟨h', hsome'⟩ | ⟨a', h', hnone', hu'⟩ <;>
    obtain ⟨hL', hD⟩ := h.alike hA h' hd hd' hL hp
  · rcases hD with ⟨hn, -⟩ | ⟨t, t', ht, ht', hr⟩
    · simp [hn] at hsome
    · exact .done ht ht' hr hL'.threads
  · rcases hD with ⟨hn, -⟩ | ⟨t, t', ht, ht', hr⟩
    · simp [hn] at hsome
    · simp [ht'] at hnone'
  · rcases hD with ⟨-, hn⟩ | ⟨t, t', ht, ht', hr⟩
    · simp [hn] at hsome'
    · simp [ht] at hnone
  · obtain ⟨xs, hxs⟩ := later hu
    obtain ⟨xs', hxs'⟩ := later hu'
    exact .live hxs hxs' hL'.threads (hlive a h hnone)

/-- With dead threads only, nothing comes to the end and no thread is live after the next character. -/
theorem followAll_dead {p : Place} {reached : Array Nat} {ts : List Thread} {v : Wave}
    (hv : prog.followAll p ts (.fresh reached) = v) (hsize : reached.size = prog.steps.size)
    (hts : ∀ t ∈ ts, ¬ Live prog p t) :
    v.done = none ∧ v.reached.size = prog.steps.size ∧ ∀ u ∈ v.threads, ¬ LiveAfter prog p u := by
  have hex : Explores prog p (ts ++ []) (.fresh reached) v := by
    rw [List.append_nil]
    exact hv ▸ followAll_explores hsize rfl
  obtain ⟨x, hx, hs⟩ := hex.skip_dead hts
  cases hx
  obtain ⟨ds, hds, hdead⟩ := hs.threads
  refine ⟨hs.done, hs.size.trans hsize, fun u hu => hdead u ?_⟩
  simpa [hds, Wave.fresh] using hu

/-- With dead threads only, a search answers the best match it knows. -/
theorem searchFrom_dead {f : Finish} :
    ∀ (rest : List Char) (p : Place) (reached : Array Nat) (ts : List Thread), p.rest = rest →
      reached.size = prog.steps.size → (∀ t ∈ ts, ¬ Live prog p t) →
      prog.searchFrom (some f) reached ts p.before p.offset p.rest = some f := by
  intro rest
  induction rest with
  | nil =>
    intro p reached ts hrest hsize hts
    obtain ⟨hd, -, -⟩ := followAll_dead rfl hsize hts
    rw [searchFrom_eq]
    simp [goOn, threadsAt, hrest, hd]
  | cons c cs ih =>
    intro p reached ts hrest hsize hts
    obtain ⟨hd, hsize', hdead⟩ := followAll_dead rfl hsize hts
    rw [searchFrom_eq]
    simp only [goOn, threadsAt, hrest, Option.isSome_some, if_true, hd, Option.map_none, Option.none_or]
    split
    · rfl
    · refine ih (p.past c cs) _ _ rfl hsize' fun t ht hl => ?_
      exact hdead t (List.mem_reverse.1 ht) ⟨c, cs, hrest, hl⟩

/-- What a search answers at a wave that has come to the end and whose threads are dead. -/
theorem goOn_dead {p : Place} {v : Wave} {t : Thread} (best : Option Finish) (hd : v.done = some t)
    (hsize : v.reached.size = prog.steps.size) (hts : ∀ u ∈ v.threads, ¬ LiveAfter prog p u) :
    prog.goOn best v p = some ⟨t, p⟩ := by
  simp only [goOn, hd, Option.map_some, Option.some_or]
  split
  · rfl
  · rename_i c cs hrest
    split
    · rfl
    · refine searchFrom_dead cs (p.past c cs) _ _ rfl hsize fun u hu hl => ?_
      exact hts u (List.mem_reverse.1 hu) ⟨c, cs, hrest, hl⟩

theorem goOn_cons {p : Place} {v : Wave} {c : Char} {cs : List Char} (hrest : p.rest = c :: cs)
    (best : Option Finish) {t : Thread} (ht : t ∈ v.threads) :
    ∃ best', prog.goOn best v p =
      prog.goOn best' (prog.followAll (p.past c cs) (prog.threadsAt best' v.threads.reverse (p.past c cs))
        (.fresh v.reached)) (p.past c cs) := by
  refine ⟨(v.done.map (⟨·, p⟩)).or best, ?_⟩
  rw [← searchFrom_eq, goOn]
  simp only [hrest]
  have hne : v.threads.isEmpty = false := by
    rw [List.isEmpty_eq_false_iff]
    exact List.ne_nil_of_mem ht
  rw [hne, Bool.false_and, if_neg (by simp)]
  rfl

theorem threadsAt_eq (prog : Program) (best : Option Finish) (ts : List Thread) (p : Place) :
    ∃ us, prog.threadsAt best ts p = ts ++ us := by
  unfold threadsAt
  split
  · exact ⟨[], by simp⟩
  · exact ⟨_, rfl⟩

/-- Two waves that have just come to a place are alike. -/
theorem like_fresh {p : Place} {reached reached' : Array Nat} (hsize : reached.size = prog.steps.size)
    (hsize' : reached'.size = prog'.steps.size) (hu : (Wave.fresh reached).Unseen p)
    (hu' : (Wave.fresh reached').Unseen p) :
    (Wave.fresh reached).Like prog prog' rel p (.fresh reached') :=
  ⟨hsize, hsize', fun _ _ _ _ => ⟨fun h => absurd h (hu _), fun h => absurd h (hu' _)⟩, .nil⟩

/-- **Searches that are settled alike answer alike.** -/
theorem goOn_alike (hA : Alike prog prog' rel) :
    ∀ (rest : List Char) (p : Place) (v v' : Wave) (best best' : Option Finish), p.rest = rest →
      v.reached.size = prog.steps.size → v'.reached.size = prog'.steps.size → v.UpTo p → v'.UpTo p →
      Settled prog prog' rel p v v' → AnswerAlike rel (prog.goOn best v p) (prog'.goOn best' v' p) := by
  intro rest
  induction rest with
  | nil =>
    intro p v v' best best' hrest hsize hsize' hup hup' hs
    cases hs with
    | done hd hd' hr hp => exact ⟨⟨_, p⟩, ⟨_, p⟩, by simp [goOn, hrest, hd], by simp [goOn, hrest, hd'], hr, rfl⟩
    | live _ _ _ hl =>
      obtain ⟨_, -, _, _, hcons, -⟩ := hl
      simp [hrest] at hcons
  | cons c cs ih =>
    intro p v v' best best' hrest hsize hsize' hup hup' hs
    -- With a live thread among those that pair up, both searches go on to the next place.
    have next : ∀ {xs as xs' as' : List Thread} {best best' : Option Finish}, v.threads = xs ++ as →
        v'.threads = xs' ++ as' → PairedAfter prog prog' rel p as as' → (∃ u ∈ as, LiveAfter prog p u) →
        AnswerAlike rel (prog.goOn best v p) (prog'.goOn best' v' p) := by
      intro xs as xs' as' best best' hv hv' hp hlive
      obtain ⟨u, hu, hl⟩ := hlive
      obtain ⟨u', hu', -⟩ := hp.exists_right hu (not_not_intro hl)
      obtain ⟨best₂, heq⟩ := goOn_cons hrest best (hv ▸ List.mem_append_right xs hu)
      obtain ⟨best₂', heq'⟩ := goOn_cons hrest best' (hv' ▸ List.mem_append_right xs' hu')
      obtain ⟨ys, hys⟩ := threadsAt_eq prog best₂ v.threads.reverse (p.past c cs)
      obtain ⟨ys', hys'⟩ := threadsAt_eq prog' best₂' v'.threads.reverse (p.past c cs)
      rw [hv, List.reverse_append, List.append_assoc] at hys
      rw [hv', List.reverse_append, List.append_assoc] at hys'
      obtain ⟨hun, hup₂⟩ := hup.past c cs
      obtain ⟨hun', hup₂'⟩ := hup'.past c cs
      have hex : Explores prog (p.past c cs) (prog.threadsAt best₂ v.threads.reverse (p.past c cs))
          (.fresh v.reached) _ := followAll_explores hsize rfl
      have hex' : Explores prog' (p.past c cs) (prog'.threadsAt best₂' v'.threads.reverse (p.past c cs))
          (.fresh v'.reached) _ := followAll_explores hsize' rfl
      have hpr : PairedAt prog prog' rel (p.past c cs) as.reverse as'.reverse :=
        (hp.imp (fun _ h => mt (liveAfter_iff hrest).2 h) fun _ h => mt (liveAfter_iff hrest).2 h).reverse
      rw [heq, heq']
      refine ih _ _ _ _ _ rfl (hex.size_eq.trans hsize) (hex'.size_eq.trans hsize') (hex.upTo hup₂)
        (hex'.upTo hup₂') ?_
      rw [hv, List.reverse_append, hys] at hex
      rw [hv', List.reverse_append, hys'] at hex'
      rw [hv, hv', List.reverse_append, List.reverse_append, hys, hys']
      exact settled_of_explores hA hex hex' rfl rfl (like_fresh hsize hsize' hun hun') hpr fun a ha hd =>
        ha.live_threads hd hsize (hun.closed _) (List.mem_reverse.2 hu) ((liveAfter_iff hrest).1 hl)
    cases hs with
    | done hd hd' hr hp =>
      by_cases hl : ∃ u ∈ v.threads, LiveAfter prog p u
      · exact next (List.nil_append _).symm (List.nil_append _).symm hp hl
      · have hdead : ∀ u ∈ v.threads, ¬ LiveAfter prog p u := fun u hu hlu => hl ⟨u, hu, hlu⟩
        have hdead' : ∀ u ∈ v'.threads, ¬ LiveAfter prog' p u := by
          intro u' hu' hlu'
          obtain ⟨u, hu, hr⟩ := hp.flip.exists_right hu' (not_not_intro hlu')
          exact hdead u hu ((liveAfter_iff hrest).2 ((hA.live_iff hr).2 ((liveAfter_iff hrest).1 hlu')))
        exact ⟨_, _, goOn_dead best hd hsize hdead, goOn_dead best' hd' hsize' hdead', hr, rfl⟩
    | live hv hv' hp hl => exact next hv hv' hp hl

/-! ## The first match -/

/-- The thread that a search from a place answers. -/
def finish? (prog : Program) (p : Place) : Option Finish :=
  prog.searchFrom none (Array.replicate prog.steps.size 0) [] p.before p.offset p.rest

theorem search_eq (prog : Program) (p : Place) :
    prog.search p = (prog.finish? p).map fun f => (.ofFinish f, f.place) := rfl

/-- **What all moves keep holds of the thread that a search answers**, and this has come to the last step. -/
theorem finish?_keeps {I : Place → Thread → Prop} (hI : prog.Keeps I) {p : Place}
    (hstart : ∀ q, p.Leads q → I q (.ofPlace prog.start q)) {f : Finish} (h : prog.finish? p = some f) :
    I f.place f.thread ∧ prog.steps[f.thread.step]? = some .done := by
  obtain ⟨hkept, hfinish, -⟩ := searchFrom_keeps hI hstart p.rest p none (Array.replicate prog.steps.size 0) [] rfl
    (by simp) (.refl p) (by simp) (by simp) h
  exact ⟨hkept, step_of_move_finish hfinish⟩

/-- A thread that starts at a place can come to the end. -/
def LiveAt (prog : Program) (p : Place) : Prop := Live prog p (.ofPlace prog.start p)

theorem unseen_replicate (n : Nat) (p : Place) : (Wave.fresh (Array.replicate n 0)).Unseen p := by
  intro s hs
  simp [Wave.Seen, Wave.fresh, Array.getElem?_replicate] at hs

theorem upTo_replicate (n : Nat) (p : Place) : (Wave.fresh (Array.replicate n 0)).UpTo p := by
  intro s m hm
  simp only [Wave.fresh, Array.getElem?_replicate] at hm
  split at hm
  · obtain rfl := Option.some.inj hm
    omega
  · cases hm

/-- The moves of a thread leave its start. -/
theorem alike_start (prog : Program) (p : Place) : Alike prog prog fun t t' => t = t' ∧ t.start = p := by
  refine Alike.refl_of_keeps (fun q t us ht hm u hu => ?_) fun q t u ht hm => ?_
  · rcases cases_of_move_on hm hu with ⟨n, rfl⟩ | ⟨i, n, rfl⟩ | ⟨i, n, rfl⟩
    · exact ht
    · exact ht
    · exact (t.start_closeGroup i q.offset).trans ht
  · obtain ⟨n, rfl⟩ := eq_goTo_of_move_take hm
    exact ht

/-- Where a thread that starts can come to the end, a search answers such a thread, whatever dead
threads it follows before. -/
theorem searchFrom_liveAt {p : Place} {reached : Array Nat} {ts : List Thread}
    (hsize : reached.size = prog.steps.size) (hun : (Wave.fresh reached).Unseen p)
    (hup : (Wave.fresh reached).UpTo p) (hts : ∀ t ∈ ts, ¬ Live prog p t) (hl : prog.LiveAt p) :
    ∃ f, f.thread.start = p ∧ prog.finish? p = some f ∧
      prog.searchFrom none reached ts p.before p.offset p.rest = some f := by
  have hsize' : (Array.replicate prog.steps.size 0).size = prog.steps.size := by simp
  have hun' := unseen_replicate prog.steps.size p
  have hex : Explores prog p (ts ++ [.ofPlace prog.start p] ++ []) (.fresh reached) _ :=
    followAll_explores hsize rfl
  have hex' : Explores prog p ([.ofPlace prog.start p] ++ []) (.fresh (Array.replicate prog.steps.size 0)) _ :=
    followAll_explores hsize' rfl
  have hp : PairedAt prog prog (fun t t' => t = t' ∧ t.start = p) p
      (ts ++ [.ofPlace prog.start p]) [.ofPlace prog.start p] :=
    (Paired.of_dead_left hts).append (.both ⟨rfl, rfl⟩ .nil)
  have hs := settled_of_explores (alike_start prog p) hex hex' rfl rfl (like_fresh hsize hsize' hun hun') hp
    fun a ha hd => ha.live_threads hd hsize (hun.closed _) (List.mem_append_right _ (List.mem_singleton.2 rfl)) hl
  obtain ⟨f, f', hf, hf', ⟨hthread, hstart⟩, hplace⟩ := goOn_alike (alike_start prog p) p.rest p _ _ none none
    rfl (hex.size_eq.trans hsize) (hex'.size_eq.trans hsize') (hex.upTo hup) (hex'.upTo (upTo_replicate _ p)) hs
  obtain rfl : f = f' := by
    obtain ⟨t, q⟩ := f
    obtain ⟨t', q'⟩ := f'
    obtain rfl : t = t' := hthread
    obtain rfl : q = q' := hplace
    rfl
  refine ⟨f, hstart, ?_, ?_⟩
  · rw [finish?, searchFrom_eq, ← hf']
    simp [threadsAt]
  · rw [searchFrom_eq, ← hf]
    simp [threadsAt]

theorem first_of_liveAt {p : Place} {reached : Array Nat} {ts : List Thread}
    (hsize : reached.size = prog.steps.size) (hun : (Wave.fresh reached).Unseen p)
    (hup : (Wave.fresh reached).UpTo p) (hts : ∀ t ∈ ts, ¬ Live prog p t) (hl : prog.LiveAt p) :
    ∃ f, prog.searchFrom none reached ts p.before p.offset p.rest = some f ∧ p.Leads f.thread.start ∧
      prog.finish? f.thread.start = some f ∧ prog.LiveAt f.thread.start ∧
      ∀ q, p.Leads q → prog.LiveAt q → f.thread.start.Leads q := by
  obtain ⟨f, rfl, hf, hs⟩ := searchFrom_liveAt hsize hun hup hts hl
  exact ⟨f, hs, .refl _, hf, hl, fun q hq _ => hq⟩

theorem dead_threadsAt {p : Place} {ts : List Thread} (hts : ∀ t ∈ ts, ¬ Live prog p t)
    (hl : ¬ prog.LiveAt p) : ∀ t ∈ prog.threadsAt none ts p, ¬ Live prog p t := by
  intro t ht
  rcases mem_threadsAt ht with ht | rfl
  · exact hts t ht
  · exact hl

/-- A search that follows dead threads answers at the first place where a thread can start that comes to
the end. -/
theorem searchFrom_first :
    ∀ (rest : List Char) (p : Place) (reached : Array Nat) (ts : List Thread), p.rest = rest →
      reached.size = prog.steps.size → (Wave.fresh reached).Unseen p → (Wave.fresh reached).UpTo p →
      (∀ t ∈ ts, ¬ Live prog p t) →
      (prog.searchFrom none reached ts p.before p.offset p.rest = none ∧ ∀ q, p.Leads q → ¬ prog.LiveAt q) ∨
      ∃ f, prog.searchFrom none reached ts p.before p.offset p.rest = some f ∧ p.Leads f.thread.start ∧
        prog.finish? f.thread.start = some f ∧ prog.LiveAt f.thread.start ∧
        ∀ q, p.Leads q → prog.LiveAt q → f.thread.start.Leads q := by
  intro rest
  induction rest with
  | nil =>
    intro p reached ts hrest hsize hun hup hts
    by_cases hl : prog.LiveAt p
    · exact .inr (first_of_liveAt hsize hun hup hts hl)
    · obtain ⟨hd, -, -⟩ := followAll_dead (p := p) rfl hsize (dead_threadsAt hts hl)
      refine .inl ⟨?_, fun q hq => ?_⟩
      · rw [searchFrom_eq]
        simp [goOn, hrest, hd]
      · cases hq with
        | refl => exact hl
        | past h => simp [hrest] at h
  | cons c cs ih =>
    intro p reached ts hrest hsize hun hup hts
    by_cases hl : prog.LiveAt p
    · exact .inr (first_of_liveAt hsize hun hup hts hl)
    · obtain ⟨hd, hsize', hdead⟩ := followAll_dead (p := p) rfl hsize (dead_threadsAt hts hl)
      have hex : Explores prog p (prog.threadsAt none ts p) (.fresh reached) _ :=
        followAll_explores hsize rfl
      obtain ⟨hun', hup'⟩ := (hex.upTo hup).past c cs
      have hnext : prog.searchFrom none reached ts p.before p.offset p.rest =
          prog.searchFrom none (prog.followAll p (prog.threadsAt none ts p) (.fresh reached)).reached
            (prog.followAll p (prog.threadsAt none ts p) (.fresh reached)).threads.reverse
            (p.past c cs).before (p.past c cs).offset (p.past c cs).rest := by
        rw [searchFrom_eq, goOn]
        simp [hrest, hd, Place.past]
      have leads {q : Place} (hq : p.Leads q) (hlq : prog.LiveAt q) : (p.past c cs).Leads q := by
        cases hq with
        | refl => exact absurd hlq hl
        | past h hq =>
          obtain ⟨rfl, rfl⟩ := List.cons.inj (hrest.symm.trans h)
          exact hq
      rw [hnext]
      rcases ih (p.past c cs) _ _ rfl hsize' hun' hup' (fun t ht hlt =>
          hdead t (List.mem_reverse.1 ht) ⟨c, cs, hrest, hlt⟩) with ⟨hnone, hq⟩ | ⟨f, hf, hleads, hfin, hlf, hq⟩
      · exact .inl ⟨hnone, fun q h hlq => hq q (leads h hlq) hlq⟩
      · exact .inr ⟨f, hf, .past hrest hleads, hfin, hlf, fun q h hlq => hq q (leads h hlq) hlq⟩

/-- **A search answers at the first place where a thread can start that comes to the end**, and
answers the same from there. -/
theorem finish?_eq_some {p : Place} {f : Finish} (h : prog.finish? p = some f) :
    p.Leads f.thread.start ∧ prog.finish? f.thread.start = some f ∧ prog.LiveAt f.thread.start ∧
      ∀ q, p.Leads q → prog.LiveAt q → f.thread.start.Leads q := by
  rcases @searchFrom_first prog p.rest p (Array.replicate prog.steps.size 0) [] rfl (by simp)
    (unseen_replicate _ p) (upTo_replicate _ p) (by simp) with ⟨hnone, -⟩ | ⟨g, hg, hrest⟩
  · simp [finish?, hnone] at h
  · obtain rfl := Option.some.inj (h.symm.trans hg)
    exact hrest

/-- A search from a place where a thread can start that comes to the end answers such a thread. -/
theorem finish?_of_liveAt {p : Place} (h : prog.LiveAt p) :
    ∃ f, prog.finish? p = some f ∧ f.thread.start = p := by
  have hdead : ∀ t ∈ ([] : List Thread), ¬ Live prog p t := by simp
  obtain ⟨f, hstart, hf, -⟩ := searchFrom_liveAt (by simp) (unseen_replicate _ p)
    (upTo_replicate prog.steps.size p) hdead h
  exact ⟨f, hf, hstart⟩

end Program

end ProseLint.Pattern
