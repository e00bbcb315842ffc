/-
Threads move by move. `Program.move` is what one thread does at a place. `Explores` follows several
threads there by their moves and has no fuel; `Program.followAll` is such a following
(`followAll_explores`). What every move keeps holds of the thread that a search answers
(`searchFrom_keeps`).
-/
import ProseLint.Pattern.Matching

namespace ProseLint.Pattern

namespace Thread

@[simp] theorem start_goTo (t : Thread) (n : Nat) : (t.goTo n).start = t.start := rfl

@[simp] theorem start_openGroup (t : Thread) (i n : Nat) : (t.openGroup i n).start = t.start := rfl

@[simp] theorem start_closeGroup (t : Thread) (i n : Nat) : (t.closeGroup i n).start = t.start := by
  unfold closeGroup
  split <;> rfl

end Thread

/-- What a thread does at a place. -/
inductive Move where
  /-- it becomes other threads at the place; none when it is given up -/
  | on (ts : List Thread)
  /-- it takes the next character -/
  | take (t : Thread)
  /-- it has come to the end of the program -/
  | finish

namespace Program

/-- The move of a thread at a place. -/
def move (prog : Program) (p : Place) (t : Thread) : Move :=
  match prog.steps[t.step]? with
  | none => .on []
  | some (.take s next) => if p.rest.head?.any s.mem then .take (t.goTo next) else .on []
  | some (.check a next) => if a.holds p.before p.rest.head? then .on [t.goTo next] else .on []
  | some (.fork first second) => .on [t.goTo first, t.goTo second]
  | some (.openGroup i next) => .on [(t.openGroup i p.offset).goTo next]
  | some (.closeGroup i next) => .on [(t.closeGroup i p.offset).goTo next]
  | some .done => .finish

end Program

/-- What a thread at a step may become at a place without taking a character. -/
inductive Step.Becomes (p : Place) (t : Thread) : Step → Thread → Prop
  | check {a : Assertion} {next : Nat} (h : a.holds p.before p.rest.head? = true) :
      Becomes p t (.check a next) (t.goTo next)
  | first {first second : Nat} : Becomes p t (.fork first second) (t.goTo first)
  | second {first second : Nat} : Becomes p t (.fork first second) (t.goTo second)
  | openGroup {i next : Nat} : Becomes p t (.openGroup i next) ((t.openGroup i p.offset).goTo next)
  | closeGroup {i next : Nat} : Becomes p t (.closeGroup i next) ((t.closeGroup i p.offset).goTo next)

namespace Program

variable {prog : Program} {p : Place} {t u : Thread}

theorem length_of_move_on {us : List Thread} (h : prog.move p t = .on us) :
    us = [] ∨ t.step < prog.steps.size ∧ us.length ≤ 2 := by
  unfold move at h
  split at h
  case h_1 => exact .inl (Move.on.inj h).symm
  all_goals
    rename_i hstep
    have hlt := (Array.getElem?_eq_some_iff.1 hstep).1
  case h_2 =>
    split at h
    · cases h
    · exact .inl (Move.on.inj h).symm
  case h_3 =>
    split at h
    · exact .inr ⟨hlt, by simp [← Move.on.inj h]⟩
    · exact .inl (Move.on.inj h).symm
  case h_7 => cases h
  all_goals exact .inr ⟨hlt, by simp [← Move.on.inj h]⟩

/-- All that a thread becomes at a place comes of its step. -/
theorem becomes_of_move_on {us : List Thread} (h : prog.move p t = .on us) (hu : u ∈ us) :
    ∃ s, prog.steps[t.step]? = some s ∧ s.Becomes p t u := by
  unfold move at h
  split at h
  case h_1 =>
    obtain rfl := Move.on.inj h
    cases hu
  case h_2 =>
    split at h
    · cases h
    · obtain rfl := Move.on.inj h
      cases hu
  case h_3 a next hs =>
    split at h
    · rename_i ha
      obtain rfl := Move.on.inj h
      obtain rfl := List.mem_singleton.1 hu
      exact ⟨_, hs, .check ha⟩
    · obtain rfl := Move.on.inj h
      cases hu
  case h_4 first second hs =>
    obtain rfl := Move.on.inj h
    simp only [List.mem_cons, List.not_mem_nil, or_false] at hu
    rcases hu with rfl | rfl
    · exact ⟨_, hs, .first⟩
    · exact ⟨_, hs, .second⟩
  case h_5 i next hs =>
    obtain rfl := Move.on.inj h
    obtain rfl := List.mem_singleton.1 hu
    exact ⟨_, hs, .openGroup⟩
  case h_6 i next hs =>
    obtain rfl := Move.on.inj h
    obtain rfl := List.mem_singleton.1 hu
    exact ⟨_, hs, .closeGroup⟩
  case h_7 => cases h

/-- A thread that takes a character goes on from a step that does. -/
theorem step_of_move_take (h : prog.move p t = .take u) :
    ∃ S next, prog.steps[t.step]? = some (.take S next) ∧ p.rest.head?.any S.mem = true ∧ u = t.goTo next := by
  unfold move at h
  split at h
  case h_2 S next hs =>
    split at h
    · rename_i hmem
      exact ⟨S, next, hs, hmem, (Move.take.inj h).symm⟩
    · cases h
  case h_3 => split at h <;> cases h
  all_goals cases h

theorem step_of_move_finish (h : prog.move p t = .finish) : prog.steps[t.step]? = some .done := by
  unfold move at h
  split at h
  case h_7 hs => exact hs
  case h_2 | h_3 => split at h <;> cases h
  all_goals cases h

/-- A thread becomes others at the place by going on, by opening a group or by closing one. -/
theorem cases_of_move_on {us : List Thread} (h : prog.move p t = .on us) (hu : u ∈ us) :
    (∃ n, u = t.goTo n) ∨ (∃ i n, u = (t.openGroup i p.offset).goTo n) ∨
      ∃ i n, u = (t.closeGroup i p.offset).goTo n := by
  obtain ⟨s, -, hbecomes⟩ := becomes_of_move_on h hu
  cases hbecomes with
  | check | first | second => exact .inl ⟨_, rfl⟩
  | openGroup => exact .inr (.inl ⟨_, _, rfl⟩)
  | closeGroup => exact .inr (.inr ⟨_, _, rfl⟩)

theorem eq_goTo_of_move_take (h : prog.move p t = .take u) : ∃ n, u = t.goTo n := by
  obtain ⟨S, next, -, -, hu⟩ := step_of_move_take h
  exact ⟨next, hu⟩

theorem lt_of_move_take (h : prog.move p t = .take u) : t.step < prog.steps.size := by
  obtain ⟨S, next, hs, -⟩ := step_of_move_take h
  exact (Array.getElem?_eq_some_iff.1 hs).1

theorem lt_of_move_finish (h : prog.move p t = .finish) : t.step < prog.steps.size :=
  (Array.getElem?_eq_some_iff.1 (step_of_move_finish h)).1

end Program

/-! ## Waves -/

namespace Wave

/-- A step has been reached at a place. -/
def Seen (w : Wave) (p : Place) (step : Nat) : Prop := w.reached[step]? = some (p.offset + 1)

/-- The wave once a step has been reached at a place. -/
def mark (w : Wave) (p : Place) (step : Nat) : Wave :=
  { w with reached := w.reached.setIfInBounds step (p.offset + 1) }

/-- The wave with one more thread that takes the next character. -/
def add (w : Wave) (t : Thread) : Wave := { w with threads := t :: w.threads }

/-- The wave of a thread that has come to the end. -/
def finish (w : Wave) (t : Thread) : Wave := { w with done := some t }

/-- A wave that has just come to a place. -/
def fresh (reached : Array Nat) : Wave := ⟨reached, [], none⟩

@[simp] theorem mark_threads (w : Wave) (p : Place) (step : Nat) : (w.mark p step).threads = w.threads := rfl

@[simp] theorem mark_done (w : Wave) (p : Place) (step : Nat) : (w.mark p step).done = w.done := rfl

@[simp] theorem size_mark (w : Wave) (p : Place) (step : Nat) :
    (w.mark p step).reached.size = w.reached.size := by simp [mark]

@[simp] theorem add_threads (w : Wave) (t : Thread) : (w.add t).threads = t :: w.threads := rfl

@[simp] theorem add_done (w : Wave) (t : Thread) : (w.add t).done = w.done := rfl

@[simp] theorem add_reached (w : Wave) (t : Thread) : (w.add t).reached = w.reached := rfl

@[simp] theorem seen_add {w : Wave} {p : Place} {t : Thread} {s : Nat} :
    (w.add t).Seen p s ↔ w.Seen p s := Iff.rfl

@[simp] theorem seen_finish {w : Wave} {p : Place} {t : Thread} {s : Nat} :
    (w.finish t).Seen p s ↔ w.Seen p s := Iff.rfl

theorem seen_mark {w : Wave} {p : Place} {step s : Nat} :
    (w.mark p step).Seen p s ↔ step = s ∧ s < w.reached.size ∨ w.Seen p s := by
  simp only [Seen, mark, Array.getElem?_setIfInBounds]
  by_cases h : step = s
  · subst h
    by_cases hlt : step < w.reached.size
    · simp [hlt]
    · simp [hlt]
  · simp [h]

/-- How many steps have not been reached at a place. -/
def unseen (w : Wave) (p : Place) : Nat := w.reached.toList.countP (· ≠ p.offset + 1)

theorem unseen_le (w : Wave) (p : Place) : w.unseen p ≤ w.reached.size := by
  simpa [unseen] using List.countP_le_length (l := w.reached.toList) (p := (· ≠ p.offset + 1))

theorem unseen_mark_le (w : Wave) (p : Place) (step : Nat) : (w.mark p step).unseen p ≤ w.unseen p := by
  by_cases hlt : step < w.reached.size
  · simp [unseen, mark, hlt, List.countP_set]
  · simp [unseen, mark, Array.setIfInBounds, hlt]

/-- Reaching a step leaves one less that has not been reached. -/
theorem unseen_mark_lt {w : Wave} {p : Place} {step : Nat} (hlt : step < w.reached.size)
    (h : ¬ w.Seen p step) : (w.mark p step).unseen p < w.unseen p := by
  have hne : w.reached[step] ≠ p.offset + 1 := fun he =>
    h (by rw [Seen, Array.getElem?_eq_getElem hlt, he])
  have hpos : 0 < w.unseen p := by
    refine List.countP_pos_iff.2 ⟨w.reached[step], by simp, by simpa using hne⟩
  have hset : (w.mark p step).unseen p = w.unseen p - 1 := by
    simp [unseen, mark, hlt, List.countP_set, hne]
  omega

end Wave

/-! ## Following threads -/

/-- Following threads at a place, the first one first, takes one wave to another. -/
inductive Explores (prog : Program) (p : Place) : List Thread → Wave → Wave → Prop
  | nil {w : Wave} : Explores prog p [] w w
  | seen {t : Thread} {ts : List Thread} {w w' : Wave} (hs : w.Seen p t.step)
      (h : Explores prog p ts w w') : Explores prog p (t :: ts) w w'
  | on {t : Thread} {ts us : List Thread} {w w' : Wave} (hs : ¬ w.Seen p t.step)
      (hm : prog.move p t = .on us) (h : Explores prog p (us ++ ts) (w.mark p t.step) w') :
      Explores prog p (t :: ts) w w'
  | take {t u : Thread} {ts : List Thread} {w w' : Wave} (hs : ¬ w.Seen p t.step)
      (hm : prog.move p t = .take u) (h : Explores prog p ts ((w.mark p t.step).add u) w') :
      Explores prog p (t :: ts) w w'
  | finish {t : Thread} {ts : List Thread} {w : Wave} (hs : ¬ w.Seen p t.step)
      (hm : prog.move p t = .finish) : Explores prog p (t :: ts) w ((w.mark p t.step).finish t)

namespace Program

theorem follow_cons (prog : Program) (p : Place) (fuel : Nat) (t : Thread) (ts : List Thread) (w : Wave) :
    prog.follow p (fuel + 1) (t :: ts) w =
      if w.reached[t.step]? = some (p.offset + 1) then prog.follow p fuel ts w
      else match prog.move p t with
        | .on us => prog.follow p fuel (us ++ ts) (w.mark p t.step)
        | .take u => prog.follow p fuel ts ((w.mark p t.step).add u)
        | .finish => (w.mark p t.step).finish t := by
  rw [follow]
  split
  · rfl
  · unfold move
    cases prog.steps[t.step]? with
    | none => rfl
    | some s =>
      cases s with
      | take s next =>
        by_cases hs : p.rest.head?.any s.mem = true
        · simp only [hs, if_true]
          rfl
        · simp only [hs]
          rfl
      | check a next =>
        by_cases ha : a.holds p.before p.rest.head? = true
        · simp only [ha, if_true]
          rfl
        · simp only [ha]
          rfl
      | fork first second => rfl
      | openGroup i next => rfl
      | closeGroup i next => rfl
      | done => rfl

/-- With a unit of fuel for each thread and two for each step that has not been reached, following
threads comes to its end. -/
theorem follow_explores {prog : Program} {p : Place} :
    ∀ {fuel : Nat} {ts : List Thread} {w : Wave}, w.reached.size = prog.steps.size →
      ts.length + 2 * w.unseen p ≤ fuel → Explores prog p ts w (prog.follow p fuel ts w)
  | fuel, [], w, _, _ => by
    have : prog.follow p fuel [] w = w := by cases fuel <;> rfl
    rw [this]
    exact .nil
  | 0, t :: ts, w, _, hfuel => by simp at hfuel
  | fuel + 1, t :: ts, w, hsize, hfuel => by
    rw [List.length_cons] at hfuel
    have hle := w.unseen_mark_le p t.step
    rw [follow_cons]
    split
    · rename_i hs
      exact .seen hs (follow_explores hsize (by omega))
    · rename_i hs
      split
      · rename_i us hm
        refine .on hs hm (follow_explores (by simpa using hsize) ?_)
        rcases length_of_move_on hm with rfl | ⟨hlt, hus⟩
        · simp only [List.nil_append]
          omega
        · have := Wave.unseen_mark_lt (hsize ▸ hlt) hs
          rw [List.length_append]
          omega
      · rename_i u hm
        refine .take hs hm (follow_explores (by simpa using hsize) ?_)
        have : ((w.mark p t.step).add u).unseen p = (w.mark p t.step).unseen p := rfl
        omega
      · rename_i hm
        exact .finish hs hm

end Program

namespace Explores

variable {prog : Program} {p : Place} {ts us : List Thread} {w w' w'' : Wave}

theorem size_eq (h : Explores prog p ts w w') : w'.reached.size = w.reached.size := by
  induction h with
  | nil => rfl
  | seen _ _ ih => exact ih
  | on _ _ _ ih | take _ _ _ ih => simpa using ih
  | finish => simp [Wave.finish]

/-- Threads after one that comes to the end are not followed. -/
theorem cut (h : Explores prog p ts w w') (hw : w.done = none) (hd : w'.done.isSome) :
    Explores prog p (ts ++ us) w w' := by
  induction h with
  | nil => simp [hw] at hd
  | seen hs _ ih => exact .seen hs (ih hw hd)
  | on hs hm _ ih => exact .on hs hm (by simpa using ih hw hd)
  | take hs hm _ ih => exact .take hs hm (ih hw hd)
  | finish hs hm => exact .finish hs hm

theorem append (h : Explores prog p ts w w') (hd : w'.done = none)
    (h' : Explores prog p us w' w'') : Explores prog p (ts ++ us) w w'' := by
  induction h with
  | nil => exact h'
  | seen hs _ ih => exact .seen hs (ih hd h')
  | on hs hm _ ih => exact .on hs hm (by simpa using ih hd h')
  | take hs hm _ ih => exact .take hs hm (ih hd h')
  | finish => simp [Wave.finish] at hd

/-- Following threads one part after the other. -/
theorem split (h : Explores prog p (ts ++ us) w w'') (hw : w.done = none) :
    Explores prog p ts w w'' ∧ w''.done.isSome ∨
      ∃ w', Explores prog p ts w w' ∧ w'.done = none ∧ Explores prog p us w' w'' := by
  generalize hl : ts ++ us = l at h
  induction h generalizing ts with
  | @nil w =>
    obtain ⟨rfl, rfl⟩ := List.append_eq_nil_iff.1 hl
    exact .inr ⟨w, .nil, hw, .nil⟩
  | @seen t ts' w _ hs h ih =>
    cases ts with
    | nil => exact .inr ⟨w, .nil, hw, by subst hl; exact .seen hs h⟩
    | cons a as =>
      obtain ⟨rfl, rfl⟩ := List.cons.inj hl
      rcases ih hw rfl with ⟨h1, h2⟩ | ⟨v, h1, h2, h3⟩
      · exact .inl ⟨.seen hs h1, h2⟩
      · exact .inr ⟨v, .seen hs h1, h2, h3⟩
  | @on t ts' us' w _ hs hm h ih =>
    cases ts with
    | nil => exact .inr ⟨w, .nil, hw, by subst hl; exact .on hs hm h⟩
    | cons a as =>
      obtain ⟨rfl, rfl⟩ := List.cons.inj hl
      rcases ih hw (List.append_assoc us' as us) with ⟨h1, h2⟩ | ⟨v, h1, h2, h3⟩
      · exact .inl ⟨.on hs hm h1, h2⟩
      · exact .inr ⟨v, .on hs hm h1, h2, h3⟩
  | @take t u ts' w _ hs hm h ih =>
    cases ts with
    | nil => exact .inr ⟨w, .nil, hw, by subst hl; exact .take hs hm h⟩
    | cons a as =>
      obtain ⟨rfl, rfl⟩ := List.cons.inj hl
      rcases ih hw rfl with ⟨h1, h2⟩ | ⟨v, h1, h2, h3⟩
      · exact .inl ⟨.take hs hm h1, h2⟩
      · exact .inr ⟨v, .take hs hm h1, h2, h3⟩
  | @finish t ts' w hs hm =>
    cases ts with
    | nil => exact .inr ⟨w, .nil, hw, by subst hl; exact .finish hs hm⟩
    | cons a as =>
      obtain ⟨rfl, rfl⟩ := List.cons.inj hl
      exact .inl ⟨.finish hs hm, rfl⟩

/-- What holds of threads and is kept by their moves holds of what following them leads to. -/
theorem forall_of_moves {I J : Thread → Prop} (hon : ∀ t vs, I t → prog.move p t = .on vs → ∀ v ∈ vs, I v)
    (htake : ∀ t v, I t → prog.move p t = .take v → J v) (h : Explores prog p ts w w')
    (hts : ∀ t ∈ ts, I t) (hw : ∀ v ∈ w.threads, J v) (hd : w.done = none) :
    (∀ v ∈ w'.threads, J v) ∧ ∀ t, w'.done = some t → I t ∧ prog.move p t = .finish := by
  induction h with
  | nil => exact ⟨hw, by simp [hd]⟩
  | seen _ _ ih => exact ih (fun t ht => hts t (List.mem_cons_of_mem _ ht)) hw hd
  | @on t _ vs _ _ _ hm _ ih =>
    refine ih (fun u hu => ?_) hw hd
    rcases List.mem_append.1 hu with hu | hu
    · exact hon t vs (hts t (by simp)) hm u hu
    · exact hts u (List.mem_cons_of_mem _ hu)
  | @take t v _ _ _ _ hm _ ih =>
    refine ih (fun u hu => hts u (List.mem_cons_of_mem _ hu)) (fun u hu => ?_) hd
    rcases List.mem_cons.1 hu with rfl | hu
    · exact htake t u (hts t (by simp)) hm
    · exact hw u hu
  | @finish t _ _ _ hm =>
    refine ⟨hw, fun u hu => ?_⟩
    obtain rfl : t = u := Option.some.inj hu
    exact ⟨hts t (by simp), hm⟩

end Explores

/-- **Following all threads is following them by their moves.** -/
theorem Program.followAll_explores {prog : Program} {p : Place} :
    ∀ {ts : List Thread} {w : Wave}, w.reached.size = prog.steps.size → w.done = none →
      Explores prog p ts w (prog.followAll p ts w)
  | [], w, _, _ => .nil
  | t :: ts, w, hsize, hd => by
    have hle := w.unseen_le p
    have h : Explores prog p [t] w (prog.follow p (2 * prog.steps.size + 1) [t] w) :=
      follow_explores hsize (by rw [List.length_singleton]; omega)
    rw [followAll]
    split
    · rename_i hsome
      exact h.cut hd hsome
    · rename_i hnone
      have hnone : (prog.follow p (2 * prog.steps.size + 1) [t] w).done = none := by simpa using hnone
      exact h.append hnone (followAll_explores (h.size_eq.trans hsize) hnone)

/-! ## Searching -/

namespace Place

/-- A place is at another one or after it in the text. -/
inductive Leads : Place → Place → Prop
  | refl (p : Place) : Leads p p
  | past {p q : Place} {c : Char} {cs : List Char} (h : p.rest = c :: cs)
      (hq : Leads (p.past c cs) q) : Leads p q

theorem Leads.offset_le {p q : Place} (h : Leads p q) : p.offset ≤ q.offset := by
  induction h with
  | refl => exact Nat.le_refl _
  | past _ _ ih => exact Nat.le_trans (Nat.le_add_right _ _) ih

theorem Leads.trans {p q r : Place} (h : Leads p q) (h' : Leads q r) : Leads p r := by
  induction h with
  | refl => exact h'
  | past hp _ ih => exact .past hp (ih h')

end Place

namespace Program

/-- How a search goes on from the wave at a place. -/
def goOn (prog : Program) (best : Option Finish) (w : Wave) (p : Place) : Option Finish :=
  let best := (w.done.map (⟨·, p⟩)).or best
  match p.rest with
  | [] => best
  | c :: cs =>
    if w.threads.isEmpty && best.isSome then best
    else searchFrom prog best w.reached w.threads.reverse (some c) (p.offset + c.utf8Size) cs

/-- The threads to follow at a place: as long as no match is known, one more starts there. -/
def threadsAt (prog : Program) (best : Option Finish) (threads : List Thread) (p : Place) : List Thread :=
  if best.isSome then threads else threads ++ [.ofPlace prog.start p]

theorem searchFrom_eq (prog : Program) (best : Option Finish) (reached : Array Nat)
    (threads : List Thread) (p : Place) :
    prog.searchFrom best reached threads p.before p.offset p.rest =
      prog.goOn best (prog.followAll p (prog.threadsAt best threads p) (.fresh reached)) p := by
  obtain ⟨before, offset, rest⟩ := p
  cases rest <;> rfl

/-- The moves of threads keep a property, which may depend on the place. -/
structure Keeps (prog : Program) (I : Place → Thread → Prop) : Prop where
  on {p : Place} {t u : Thread} {us : List Thread} :
    I p t → prog.move p t = .on us → u ∈ us → I p u
  take {p : Place} {t u : Thread} {c : Char} {cs : List Char} :
    I p t → prog.move p t = .take u → p.rest = c :: cs → I (p.past c cs) u

variable {prog : Program} {I : Place → Thread → Prop}

theorem mem_threadsAt {best : Option Finish} {threads : List Thread} {p : Place} {t : Thread}
    (h : t ∈ prog.threadsAt best threads p) : t ∈ threads ∨ t = .ofPlace prog.start p := by
  unfold threadsAt at h
  split at h
  · exact .inl h
  · simpa using h

/-- What all moves keep holds of the threads that following leads to. -/
theorem followAll_keeps (hI : prog.Keeps I) {p : Place} (best : Option Finish)
    (hstart : I p (.ofPlace prog.start p)) {reached : Array Nat} {threads : List Thread} {w : Wave}
    (hsize : reached.size = prog.steps.size) (hts : ∀ t ∈ threads, I p t)
    (hw : prog.followAll p (prog.threadsAt best threads p) (.fresh reached) = w) :
    w.reached.size = prog.steps.size ∧
      (∀ c cs, p.rest = c :: cs → ∀ t ∈ w.threads.reverse, I (p.past c cs) t) ∧
      ∀ t, w.done = some t → I p t ∧ prog.move p t = .finish := by
  have hex : Explores prog p (prog.threadsAt best threads p) (.fresh reached) w :=
    hw ▸ followAll_explores hsize rfl
  have hall := hex.forall_of_moves (I := I p) (J := fun t => ∀ c cs, p.rest = c :: cs → I (p.past c cs) t)
    (fun t us ht hm u hu => hI.on ht hm hu) (fun t u ht hm c cs hrest => hI.take ht hm hrest) ?_
    (by simp [Wave.fresh]) rfl
  · exact ⟨hex.size_eq.trans hsize, fun c cs hrest t ht => hall.1 t (List.mem_reverse.1 ht) c cs hrest, hall.2⟩
  · intro t ht
    rcases mem_threadsAt ht with ht | rfl
    · exact hts t ht
    · exact hstart

/-- **What all moves keep holds of the thread that a search answers**, at the place where it answers
it. -/
theorem searchFrom_keeps (hI : prog.Keeps I) {p₀ : Place}
    (hstart : ∀ q, p₀.Leads q → I q (.ofPlace prog.start q)) {f : Finish} :
    ∀ (rest : List Char) (p : Place) (best : Option Finish) (reached : Array Nat) (threads : List Thread),
      p.rest = rest → reached.size = prog.steps.size → p₀.Leads p → (∀ t ∈ threads, I p t) →
      (∀ b, best = some b → I b.place b.thread ∧ prog.move b.place b.thread = .finish ∧ p₀.Leads b.place) →
      prog.searchFrom best reached threads p.before p.offset p.rest = some f →
      I f.place f.thread ∧ prog.move f.place f.thread = .finish ∧ p₀.Leads f.place := by
  intro rest
  induction rest with
  | nil =>
    intro p best reached threads hrest hsize hp hts hbest h
    rw [searchFrom_eq] at h
    obtain ⟨-, -, hdone⟩ := followAll_keeps hI best (hstart p hp) hsize hts rfl
    simp only [goOn, hrest, Option.or_eq_some_iff] at h
    rcases h with h | ⟨-, h⟩
    · obtain ⟨t, ht, rfl⟩ := Option.map_eq_some_iff.1 h
      exact ⟨(hdone t ht).1, (hdone t ht).2, hp⟩
    · exact hbest f h
  | cons c cs ih =>
    intro p best reached threads hrest hsize hp hts hbest h
    rw [searchFrom_eq] at h
    obtain ⟨hsize', hnext, hdone⟩ := followAll_keeps hI best (hstart p hp) hsize hts rfl
    generalize prog.followAll p (prog.threadsAt best threads p) (.fresh reached) = w at h hsize' hnext hdone
    have hbest' : ∀ b, (w.done.map (⟨·, p⟩)).or best = some b →
        I b.place b.thread ∧ prog.move b.place b.thread = .finish ∧ p₀.Leads b.place := by
      intro b hb
      rcases Option.or_eq_some_iff.1 hb with hb | ⟨-, hb⟩
      · obtain ⟨t, ht, rfl⟩ := Option.map_eq_some_iff.1 hb
        exact ⟨(hdone t ht).1, (hdone t ht).2, hp⟩
      · exact hbest b hb
    simp only [goOn, hrest] at h
    split at h
    · exact hbest' f h
    · exact ih (p.past c cs) _ w.reached w.threads.reverse rfl hsize' (hp.trans (.past hrest (.refl _)))
        (hnext c cs hrest) hbest' h

end Program

end ProseLint.Pattern
