/-
How far a match goes. When a search answers, none of the threads it still follows is live (`Last`). Where a
program is left only through a fork that would rather take one more character of a set (`Guards`), a match
goes on as long as there are such characters (`Guards.head?_rest`).
-/
import ProseLint.Proofs.Pattern.Meaning

namespace ProseLint.Pattern

variable {prog : Program}

/-! ## The last wave -/

/-- A thread has just started or taken a character. -/
def Program.Enters (prog : Program) (t : Thread) : Prop :=
  t.step = prog.start ∨ ∃ (n : Nat) (S : CharSet), prog.steps[n]? = some (.take S t.step)

/-- A wave in which a search finds its answer: no thread is live after it. -/
structure Last (prog : Program) (f : Finish) (ts : List Thread) (w v : Wave) : Prop where
  explores : Explores prog f.place ts w v
  unseen : w.Unseen f.place
  none_done : w.done = none
  done : v.done = some f.thread
  dead : ∀ u ∈ v.threads, ¬ LiveAfter prog f.place u
  enters : ∀ t ∈ ts, prog.Enters t

namespace Program

theorem enters_threadsAt {best : Option Finish} {ts : List Thread} {p : Place} (hts : ∀ t ∈ ts, prog.Enters t) :
    ∀ t ∈ prog.threadsAt best ts p, prog.Enters t := by
  intro t ht
  rcases mem_threadsAt ht with ht | rfl
  · exact hts t ht
  · exact .inl rfl

theorem enters_threads {p : Place} {c : Char} {cs : List Char} {ts : List Thread} {w v : Wave}
    (hrest : p.rest = c :: cs) (h : Explores prog p ts w v) (hw : w.threads = []) (hd : w.done = none) :
    ∀ u ∈ v.threads, prog.Enters u := by
  have htake : ∀ t u, True → prog.move p t = .take u → prog.Enters u := by
    intro t u _ hm
    obtain ⟨S, hs, -⟩ := takes_of_move_take hm hrest
    exact .inr ⟨t.step, S, hs⟩
  refine (h.forall_of_moves (I := fun _ => True) (fun _ _ _ _ _ _ => trivial) htake (fun _ _ => trivial) ?_ hd).1
  simp [hw]

/-- A search that stops at a place with dead threads only answers the best match it knew, and all its
threads were dead, or it has come to the end there. -/
theorem last_of_stop {p : Place} {reached : Array Nat} {ts : List Thread} {best : Option Finish} {f : Finish} {v : Wave}
    (hsize : reached.size = prog.steps.size) (hun : (Wave.fresh reached).Unseen p) (hts : ∀ t ∈ ts, prog.Enters t)
    (hv : Explores prog p (prog.threadsAt best ts p) (.fresh reached) v)
    (hdead : ∀ u ∈ v.threads, ¬ LiveAfter prog p u) (hf : (v.done.map (⟨·, p⟩)).or best = some f) :
    (best = some f ∧ ∀ t ∈ ts, ¬ Live prog p t) ∨ ∃ ts w v, Last prog f ts w v := by
  rcases Option.or_eq_some_iff.1 hf with hdone | ⟨hnone, hbest⟩
  · obtain ⟨t, ht, rfl⟩ := Option.map_eq_some_iff.1 hdone
    exact .inr ⟨_, _, v, hv, hun, rfl, ht, hdead, enters_threadsAt hts⟩
  · refine .inl ⟨hbest, fun t ht hl => ?_⟩
    obtain ⟨us, hus⟩ := threadsAt_eq prog best ts p
    obtain ⟨u, hu, hlu⟩ := hv.live_threads (Option.map_eq_none_iff.1 hnone) hsize (hun.closed _)
      (hus ▸ List.mem_append_left us ht) hl
    exact hdead u hu hlu

/-- What a search answers is the best match it knows, if all its threads are dead, or else what it finds in
its last wave. -/
theorem searchFrom_last :
    ∀ (rest : List Char) (p : Place) (reached : Array Nat) (ts : List Thread) (best : Option Finish) {f : Finish},
      p.rest = rest → reached.size = prog.steps.size → (Wave.fresh reached).Unseen p →
      (Wave.fresh reached).UpTo p → (∀ t ∈ ts, prog.Enters t) →
      prog.searchFrom best reached ts p.before p.offset p.rest = some f →
      (best = some f ∧ ∀ t ∈ ts, ¬ Live prog p t) ∨ ∃ ts w v, Last prog f ts w v := by
  intro rest
  induction rest with
  | nil =>
    intro p reached ts best f hrest hsize hun hup hts hf
    have hv : Explores prog p (prog.threadsAt best ts p) (.fresh reached) _ := followAll_explores hsize rfl
    rw [searchFrom_eq] at hf
    simp only [goOn, hrest] at hf
    refine last_of_stop hsize hun hts hv (fun u _ hl => ?_) hf
    obtain ⟨c, cs, hcons, -⟩ := hl
    cases hrest.symm.trans hcons
  | cons c cs ih =>
    intro p reached ts best f hrest hsize hun hup hts hf
    have hv : Explores prog p (prog.threadsAt best ts p) (.fresh reached) _ := followAll_explores hsize rfl
    rw [searchFrom_eq] at hf
    simp only [goOn, hrest] at hf
    split at hf
    · rename_i hempty
      have hnil := List.isEmpty_iff.1 (Bool.and_eq_true_iff.1 hempty).1
      exact last_of_stop hsize hun hts hv (by simp [hnil]) hf
    · obtain ⟨hun', hup'⟩ := (hv.upTo hup).past c cs
      have henters := enters_threads hrest hv rfl rfl
      rcases ih (p.past c cs) _ _ _ rfl (hv.size_eq.trans hsize) hun' hup'
        (fun t ht => henters t (List.mem_reverse.1 ht)) hf with ⟨hbest, hdead⟩ | hlast
      · refine last_of_stop hsize hun hts hv (fun u hu hl => ?_) hbest
        exact hdead u (List.mem_reverse.2 hu) ((liveAfter_iff hrest).1 hl)
      · exact .inr hlast

/-- **When a search answers, none of the threads it still follows is live.** -/
theorem exists_last {p : Place} {f : Finish} (h : prog.finish? p = some f) : ∃ ts w v, Last prog f ts w v := by
  rcases searchFrom_last p.rest p (Array.replicate prog.steps.size 0) [] none rfl (by simp)
    (unseen_replicate _ p) (upTo_replicate _ p) (by simp) h with ⟨hnone, -⟩ | hlast
  · cases hnone
  · exact hlast

end Program

/-! ## Greedy ends -/

/-- A program comes to its end only by steps that leave it (`leaves`), and to these only by a fork that
would rather take a character of a set and come back. -/
structure Program.Guards (prog : Program) (leaves : Nat → Prop) (S : CharSet) (taking back : Nat) : Prop where
  takes : prog.steps[taking]? = some (.take S back)
  done {s : Nat} : prog.steps[s]? = some .done → leaves s
  start : ¬ leaves prog.start
  stays {s n : Nat} {T : CharSet} : prog.steps[s]? = some (.take T n) → ¬ leaves s ∧ ¬ leaves n
  on {s n : Nat} {st : Step} : prog.steps[s]? = some st → n ∈ st.nexts → leaves n →
    leaves s ∨ ∃ m, st = .fork taking m
  ends (p : Place) : prog.CanEnd back p p

namespace Program.Guards

variable {leaves : Nat → Prop} {S : CharSet} {taking back : Nat} {p : Place}

/-- Threads none of which leaves before one takes a character. -/
def Guarded (leaves : Nat → Prop) (taking : Nat) : List Thread → Prop
  | [] => True
  | t :: ts => t.step = taking ∨ ¬ leaves t.step ∧ Guarded leaves taking ts

theorem guarded_append {us ts : List Thread} (hus : ∀ u ∈ us, ¬ leaves u.step) (hts : Guarded leaves taking ts) :
    Guarded leaves taking (us ++ ts) := by
  induction us with
  | nil => exact hts
  | cons u us ih =>
    obtain ⟨hu, hus⟩ := List.forall_mem_cons.1 hus
    exact .inr ⟨hu, ih hus⟩

/-- A thread that does not leave becomes threads that do not, or one of them takes a character first. -/
theorem guarded_move (h : prog.Guards leaves S taking back) {t : Thread} {us ts : List Thread}
    (hm : prog.move p t = .on us) (ht : ¬ leaves t.step) (hts : Guarded leaves taking ts) :
    Guarded leaves taking (us ++ ts) := by
  by_cases hleave : ∃ u ∈ us, leaves u.step
  · obtain ⟨u, hu, hleaves⟩ := hleave
    obtain ⟨st, hs, -, hnext⟩ := goes_of_move_on hm hu
    obtain ⟨m, rfl⟩ := (h.on hs hnext hleaves).resolve_left ht
    have hmove : prog.move p t = .on [t.goTo taking, t.goTo m] := by rw [move, hs]
    obtain rfl := Move.on.inj (hm.symm.trans hmove)
    exact .inl rfl
  · exact guarded_append (fun u hu hl => hleave ⟨u, hu, hl⟩) hts

/-- Where a character of the set follows, no wave comes to the end before a thread has taken it. -/
theorem exists_back (h : prog.Guards leaves S taking back) (hS : p.rest.head?.any S.mem = true) {ts : List Thread}
    {w v : Wave} (hex : Explores prog p ts w v) (hd : w.done = none) (hv : v.done.isSome)
    (hseen : w.Seen p taking → ∃ u ∈ w.threads, u.step = back)
    (hts : Guarded leaves taking ts ∨ ∃ u ∈ w.threads, u.step = back) : ∃ u ∈ v.threads, u.step = back := by
  have hmove {t : Thread} (ht : t.step = taking) : prog.move p t = .take (t.goTo back) := by
    rw [move, ht, h.takes]
    exact if_pos hS
  induction hex with
  | nil => simp [hd] at hv
  | @seen t ts w v hs _ ih =>
    refine ih hd hv hseen ?_
    rcases hts with (ht | ⟨-, hts⟩) | hback
    · exact .inr (hseen (ht ▸ hs))
    · exact .inl hts
    · exact .inr hback
  | @on t ts us w v _ hm _ ih =>
    have hne : t.step ≠ taking := fun ht => by
      rw [hmove ht] at hm
      cases hm
    refine ih hd hv (fun hs => ?_) ?_
    · rcases Wave.seen_mark.1 hs with ⟨heq, -⟩ | hs
      · exact absurd heq hne
      · exact hseen hs
    · rcases hts with (ht | ⟨ht, hts⟩) | hback
      · exact absurd ht hne
      · exact .inl (h.guarded_move hm ht hts)
      · exact .inr hback
  | @take t u ts w v _ hm _ ih =>
    have hadd : (∃ u ∈ w.threads, u.step = back) → ∃ x ∈ ((w.mark p t.step).add u).threads, x.step = back := by
      rintro ⟨x, hx, hback⟩
      exact ⟨x, List.mem_cons_of_mem _ hx, hback⟩
    have htaken (ht : t.step = taking) : ∃ x ∈ ((w.mark p t.step).add u).threads, x.step = back := by
      obtain rfl := Move.take.inj (hm.symm.trans (hmove ht))
      exact ⟨_, List.mem_cons_self, rfl⟩
    refine ih hd hv (fun hs => ?_) ?_
    · rcases Wave.seen_mark.1 (Wave.seen_add.1 hs) with ⟨heq, -⟩ | hs
      · exact htaken heq
      · exact hadd (hseen hs)
    · rcases hts with (ht | ⟨-, hts⟩) | hback
      · exact .inr (htaken ht)
      · exact .inl hts
      · exact .inr (hadd hback)
  | @finish t ts w _ hm =>
    rcases hts with (ht | ⟨ht, -⟩) | hback
    · cases hm.symm.trans (hmove ht)
    · exact absurd (h.done (step_of_move_finish hm)) ht
    · exact hback

theorem guarded_of_enters (h : prog.Guards leaves S taking back) {ts : List Thread} (hts : ∀ t ∈ ts, prog.Enters t) :
    Guarded leaves taking ts := by
  rw [← List.append_nil ts]
  refine guarded_append (fun t ht => ?_) trivial
  rcases hts t ht with hstart | ⟨n, T, hs⟩
  · exact hstart ▸ h.start
  · exact (h.stays hs).2

/-- **A match goes on as long as it can.** Where a program is left only by a fork that would rather take a
character of a set, no such character follows a match. -/
theorem head?_rest (h : prog.Guards leaves S taking back) {f : Finish} (hf : prog.finish? p = some f) :
    f.place.rest.head?.any S.mem = false := by
  obtain ⟨ts, w, v, hlast⟩ := exists_last hf
  refine Bool.eq_false_iff.2 fun hS => ?_
  obtain ⟨u, hu, hback⟩ := h.exists_back hS hlast.explores hlast.none_done (by simp [hlast.done])
    (fun hs => absurd hs (hlast.unseen _)) (.inl (h.guarded_of_enters hlast.enters))
  -- That thread could end the match one character later.
  obtain ⟨c, cs, hrest⟩ : ∃ c cs, f.place.rest = c :: cs := by
    refine List.exists_cons_of_ne_nil fun hnil => ?_
    rw [hnil] at hS
    cases hS
  obtain ⟨n, hr⟩ := h.ends (f.place.past c cs)
  exact hlast.dead u hu ⟨c, cs, hrest, hr.live hback⟩

end Program.Guards

end ProseLint.Pattern
