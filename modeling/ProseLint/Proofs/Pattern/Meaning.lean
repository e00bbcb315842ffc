/-
What expressions mean. `Expr.Matches` says between which places of a text an expression matches, with no
program in sight. The program of an expression comes to its end between the same places
(`Program.canEnd_ofExpr`), so a thread that starts at a place is live where the expression matches from it
(`Program.liveAt_ofExpr`), and what a search answers is a match of the expression
(`Program.matches_of_finish?`).
-/
import ProseLint.Proofs.Pattern.Alternatives

namespace ProseLint.Pattern

/-! ## Meaning -/

/-- A relation between places, so many times one after the other. -/
inductive Iterate (R : Place → Place → Prop) : Nat → Place → Place → Prop
  | zero (p : Place) : Iterate R 0 p p
  | succ {n : Nat} {p q r : Place} (h : R p q) (hr : Iterate R n q r) : Iterate R (n + 1) p r

theorem Iterate.trans {R : Place → Place → Prop} {m n : Nat} {p q r : Place} (h : Iterate R m p q)
    (h' : Iterate R n q r) : Iterate R (m + n) p r := by
  induction h with
  | zero => simpa using h'
  | succ hR _ ih =>
    rw [Nat.add_right_comm]
    exact .succ hR (ih h')

theorem Iterate.split {R : Place → Place → Prop} {m n : Nat} {p r : Place} (h : Iterate R (m + n) p r) :
    ∃ q, Iterate R m p q ∧ Iterate R n q r := by
  induction m generalizing p with
  | zero => exact ⟨p, .zero p, by simpa using h⟩
  | succ m ih =>
    rw [Nat.add_right_comm] at h
    cases h with
    | succ hR h =>
      obtain ⟨q, hq, hr⟩ := ih h
      exact ⟨q, .succ hR hq, hr⟩

theorem iterate_one {R : Place → Place → Prop} {p q : Place} : Iterate R 1 p q ↔ R p q := by
  refine ⟨fun h => ?_, fun h => .succ h (.zero q)⟩
  cases h with
  | succ hR h =>
    cases h
    exact hR

namespace Expr

mutual

/-- Whether an expression matches from one place to another. -/
def Matches : Expr → Place → Place → Prop
  | empty, p, q => p = q
  | one s, p, q => ∃ c cs, p.rest = c :: cs ∧ s.mem c = true ∧ q = p.past c cs
  | assert a, p, q => a.holds p.before p.rest.head? = true ∧ p = q
  | group _ b, p, q => Matches b p q
  | seq es, p, q => MatchesAll es p q
  | alt es, p, q => MatchesAny es p q
  | rounds least most _ b, p, q =>
    ∃ n, least ≤ n ∧ (∀ m ∈ most, n ≤ max least m) ∧ Iterate (Matches b) n p q

/-- Whether expressions match one after the other. -/
def MatchesAll : List Expr → Place → Place → Prop
  | [], p, q => p = q
  | e :: es, p, q => ∃ m, Matches e p m ∧ MatchesAll es m q

/-- Whether one of several expressions matches. Where there is none to choose, nothing is asked for. -/
def MatchesAny : List Expr → Place → Place → Prop
  | [], p, q => p = q
  | [e], p, q => Matches e p q
  | e :: es, p, q => Matches e p q ∨ MatchesAny es p q

end

mutual

/-- What an expression matches leads on in the text. -/
theorem leads_of_matches (e : Expr) {p q : Place} (h : e.Matches p q) : p.Leads q := by
  cases e with
  | empty => exact h ▸ .refl p
  | one s =>
    obtain ⟨c, cs, hrest, -, rfl⟩ := h
    exact .past hrest (.refl _)
  | assert a => exact h.2 ▸ .refl p
  | group i b => exact leads_of_matches b h
  | seq es => exact leads_of_matchesAll es h
  | alt es => exact leads_of_matchesAny es h
  | rounds least most greedy b =>
    obtain ⟨n, -, -, hn⟩ := h
    induction hn with
    | zero p => exact .refl p
    | succ hR _ ih => exact (leads_of_matches b hR).trans ih

theorem leads_of_matchesAll (es : List Expr) {p q : Place} (h : MatchesAll es p q) : p.Leads q := by
  cases es with
  | nil => exact h ▸ .refl p
  | cons e es =>
    obtain ⟨m, hm, h⟩ := h
    exact (leads_of_matches e hm).trans (leads_of_matchesAll es h)

theorem leads_of_matchesAny (es : List Expr) {p q : Place} (h : MatchesAny es p q) : p.Leads q := by
  cases es with
  | nil => exact h ▸ .refl p
  | cons e es =>
    cases es with
    | nil => exact leads_of_matches e h
    | cons e' es =>
      rcases h with h | h
      · exact leads_of_matches e h
      · exact leads_of_matchesAny (e' :: es) h

end

end Expr

/-! ## Ways through a program -/

/-- Whether a step that takes no character leads on at a place. -/
def Step.passes (p : Place) : Step → Prop
  | take .. => False
  | check a _ => a.holds p.before p.rest.head? = true
  | _ => True

namespace Program

/-- From a step at one place a program can come to its end at another, in so many moves. -/
inductive Reaches (prog : Program) : Nat → Nat → Place → Place → Prop
  | done {s : Nat} {p : Place} (h : prog.steps[s]? = some .done) : Reaches prog 0 s p p
  | go {n s m : Nat} {st : Step} {p r : Place} (h : prog.steps[s]? = some st) (hpass : st.passes p)
      (hm : m ∈ st.nexts) (hr : Reaches prog n m p r) : Reaches prog (n + 1) s p r
  | take {n s m : Nat} {S : CharSet} {c : Char} {cs : List Char} {p r : Place}
      (h : prog.steps[s]? = some (.take S m)) (hrest : p.rest = c :: cs) (hc : S.mem c = true)
      (hr : Reaches prog n m (p.past c cs) r) : Reaches prog (n + 1) s p r

/-- From a step at one place a program can come to its end at another. -/
def CanEnd (prog : Program) (s : Nat) (p r : Place) : Prop := ∃ n, prog.Reaches n s p r

variable {prog : Program} {p q r : Place} {n s : Nat}

/-- A step that takes no character leads to those after it. -/
theorem Reaches.of_go {st : Step} (h : prog.Reaches n s p r) (hs : prog.steps[s]? = some st)
    (htake : ∀ S m, st ≠ .take S m) (hdone : st ≠ .done) :
    st.passes p ∧ ∃ k m, k < n ∧ m ∈ st.nexts ∧ prog.Reaches k m p r := by
  cases h with
  | done h => exact absurd (Option.some.inj (hs.symm.trans h)) hdone
  | go h hpass hm hr =>
    obtain rfl := Option.some.inj (hs.symm.trans h)
    exact ⟨hpass, _, _, Nat.lt_succ_self _, hm, hr⟩
  | take h => exact absurd (Option.some.inj (hs.symm.trans h)) (htake _ _)

/-- A step that takes a character takes it. -/
theorem Reaches.of_take {S : CharSet} {m : Nat} (h : prog.Reaches n s p r)
    (hs : prog.steps[s]? = some (.take S m)) :
    ∃ k c cs, k < n ∧ p.rest = c :: cs ∧ S.mem c = true ∧ prog.Reaches k m (p.past c cs) r := by
  cases h with
  | done h => cases hs.symm.trans h
  | go h hpass =>
    obtain rfl := Option.some.inj (hs.symm.trans h)
    exact absurd hpass id
  | take h hrest hc hr =>
    obtain ⟨rfl, rfl⟩ := Step.take.inj (Option.some.inj (hs.symm.trans h))
    exact ⟨_, _, _, Nat.lt_succ_self _, hrest, hc, hr⟩

/-- From one step to another a program does what a relation between places says, and goes on from
there. -/
structure Means (prog : Program) (first next : Nat) (R : Place → Place → Prop) : Prop where
  sound {n : Nat} {p r : Place} :
    prog.Reaches n first p r → ∃ m k, k ≤ n ∧ R p m ∧ prog.Reaches k next m r
  complete {p m r : Place} : R p m → prog.CanEnd next m r → prog.CanEnd first p r

namespace Means

variable {first middle next : Nat} {R S : Place → Place → Prop}

theorem refl (prog : Program) (s : Nat) : prog.Means s s Eq :=
  ⟨fun h => ⟨_, _, Nat.le_refl _, rfl, h⟩, fun heq h => heq ▸ h⟩

theorem congr (h : prog.Means first next R) (hRS : ∀ p q, R p q ↔ S p q) : prog.Means first next S where
  sound hr := by
    obtain ⟨m, k, hk, hR, hr⟩ := h.sound hr
    exact ⟨m, k, hk, (hRS _ _).1 hR, hr⟩
  complete hS hr := h.complete ((hRS _ _).2 hS) hr

theorem trans (h : prog.Means first middle R) (h' : prog.Means middle next S) :
    prog.Means first next fun p q => ∃ m, R p m ∧ S m q where
  sound hr := by
    obtain ⟨m, k, hk, hR, hr⟩ := h.sound hr
    obtain ⟨q, j, hj, hS, hr⟩ := h'.sound hr
    exact ⟨q, j, Nat.le_trans hj hk, ⟨m, hR, hS⟩, hr⟩
  complete := by
    rintro p q r ⟨m, hR, hS⟩ hr
    exact h.complete hR (h'.complete hS hr)

theorem take {S : CharSet} (hs : prog.steps[s]? = some (.take S next)) :
    prog.Means s next (Expr.one S).Matches where
  sound hr := by
    obtain ⟨k, c, cs, hk, hrest, hc, hr⟩ := hr.of_take hs
    exact ⟨_, k, Nat.le_of_lt hk, ⟨c, cs, hrest, hc, rfl⟩, hr⟩
  complete := by
    rintro p q r ⟨c, cs, hrest, hc, rfl⟩ ⟨n, hr⟩
    exact ⟨n + 1, .take hs hrest hc hr⟩

theorem check {a : Assertion} (hs : prog.steps[s]? = some (.check a next)) :
    prog.Means s next (Expr.assert a).Matches where
  sound hr := by
    obtain ⟨hpass, k, m, hk, hm, hr⟩ := hr.of_go hs (by simp) (by simp)
    obtain rfl := List.mem_singleton.1 hm
    exact ⟨_, k, Nat.le_of_lt hk, ⟨hpass, rfl⟩, hr⟩
  complete := by
    rintro p q r ⟨ha, rfl⟩ ⟨n, hr⟩
    exact ⟨n + 1, .go hs ha (List.mem_singleton.2 rfl) hr⟩

/-- Groups are opened and closed on the way. -/
theorem pass {st : Step} (hs : prog.steps[s]? = some st) (hpass : ∀ p, st.passes p) (hnext : st.nexts = [next]) :
    prog.Means s next Eq where
  sound hr := by
    have htake : ∀ S m, st ≠ .take S m := by
      rintro S m rfl
      exact hpass (.ofText [])
    have hdone : st ≠ .done := by
      rintro rfl
      cases hnext
    obtain ⟨-, k, m, hk, hm, hr⟩ := hr.of_go hs htake hdone
    rw [hnext] at hm
    obtain rfl := List.mem_singleton.1 hm
    exact ⟨_, k, Nat.le_of_lt hk, rfl, hr⟩
  complete := by
    rintro p q r rfl ⟨n, hr⟩
    exact ⟨n + 1, .go hs (hpass p) (hnext ▸ List.mem_singleton.2 rfl) hr⟩

/-- A fork leaves the choice of two ways. -/
theorem fork {a b : Nat} (hs : prog.steps[s]? = some (.fork a b)) (ha : prog.Means a next R)
    (hb : prog.Means b next S) : prog.Means s next fun p q => R p q ∨ S p q where
  sound hr := by
    obtain ⟨-, k, m, hk, hm, hr⟩ := hr.of_go hs (by simp) (by simp)
    simp only [Step.nexts, List.mem_cons, List.not_mem_nil, or_false] at hm
    rcases hm with rfl | rfl
    · obtain ⟨m, j, hj, hR, hr⟩ := ha.sound hr
      exact ⟨m, j, by omega, .inl hR, hr⟩
    · obtain ⟨m, j, hj, hS, hr⟩ := hb.sound hr
      exact ⟨m, j, by omega, .inr hS, hr⟩
  complete := by
    rintro p q r (hR | hS) hr
    · obtain ⟨n, hr⟩ := ha.complete hR hr
      exact ⟨n + 1, .go hs trivial (by simp [Step.nexts]) hr⟩
    · obtain ⟨n, hr⟩ := hb.complete hS hr
      exact ⟨n + 1, .go hs trivial (by simp [Step.nexts]) hr⟩

/-- A fork of a repetition, whichever way it prefers. -/
theorem forkTo {greedy : Bool} {again leave : Nat}
    (hs : prog.steps[s]? = some (if greedy then .fork again leave else .fork leave again))
    (ha : prog.Means again next R) (hl : prog.Means leave next S) :
    prog.Means s next fun p q => S p q ∨ R p q := by
  cases greedy with
  | true => exact (fork hs ha hl).congr fun _ _ => or_comm
  | false => exact fork hs hl ha

/-- A fork that leads back to itself goes round as often as it likes. -/
theorem loop {greedy : Bool} {again leave : Nat}
    (hs : prog.steps[s]? = some (if greedy then .fork again leave else .fork leave again))
    (hR : prog.Means again s R) : prog.Means s leave fun p q => ∃ n, Iterate R n p q where
  sound {n p r} hr := by
    induction n using Nat.strongRecOn generalizing p with
    | ind n ih =>
      have hgo : ∃ k m, k < n ∧ (m = again ∨ m = leave) ∧ prog.Reaches k m p r := by
        obtain ⟨-, k, m, hk, hm, hr⟩ := hr.of_go hs (by cases greedy <;> simp) (by cases greedy <;> simp)
        exact ⟨k, m, hk, mem_nexts_fork hm, hr⟩
      obtain ⟨k, m, hk, rfl | rfl, hr⟩ := hgo
      · obtain ⟨q, j, hj, hpq, hr⟩ := hR.sound hr
        obtain ⟨q', i, hi, ⟨l, hl⟩, hr⟩ := ih j (by omega) hr
        exact ⟨q', i, by omega, ⟨l + 1, .succ hpq hl⟩, hr⟩
      · exact ⟨p, k, by omega, ⟨0, .zero p⟩, hr⟩
  complete := by
    have hgo : ∀ {m : Nat} {p r : Place}, m = again ∨ m = leave → prog.CanEnd m p r → prog.CanEnd s p r := by
      rintro m p r hm ⟨n, hr⟩
      refine ⟨n + 1, .go hs (by cases greedy <;> trivial) ?_ hr⟩
      rcases hm with rfl | rfl <;> cases greedy <;> simp [Step.nexts]
    rintro p q r ⟨n, hn⟩ hr
    induction hn with
    | zero => exact hgo (.inr rfl) hr
    | succ hpq _ ih => exact hgo (.inl rfl) (hR.complete hpq (ih hr))

end Means

/-! ## Parts -/

/-- The steps that another program has from a number on are steps of this one. -/
def Holds (prog : Program) (lo : Nat) (q : Program) : Prop :=
  ∀ n, lo ≤ n → n < q.steps.size → prog.steps[n]? = q.steps[n]?

namespace Holds

variable {lo lo' : Nat} {p q : Program}

theorem old (h : prog.Holds lo q) (hq : q.Extends p) : prog.Holds lo p := fun n hn hlt => by
  rw [h n hn (Nat.lt_of_lt_of_le hlt hq.size), hq.steps n hlt]

theorem mono (h : prog.Holds lo q) (hlo : lo ≤ lo') : prog.Holds lo' q :=
  fun n hn => h n (Nat.le_trans hlo hn)

theorem last {st : Step} (h : prog.Holds lo (q.add st)) (hlo : lo ≤ q.steps.size) :
    prog.steps[q.steps.size]? = some st := by
  rw [h _ hlo (by simp), getElem?_add, if_pos rfl]

theorem before {st : Step} (h : prog.Holds lo (q.add st)) : prog.Holds lo q :=
  h.old ((Extends.refl q).add st)

end Holds

/-- What a part adds before what is there does what a relation says. -/
structure Adds (part : Program → Program) (R : Place → Place → Prop) : Prop where
  grows (p : Program) : (part p).Extends p
  means {prog p : Program} : prog.Holds p.steps.size (part p) → prog.Means (part p).start p.start R

namespace Adds

variable {part part' : Program → Program} {R S : Place → Place → Prop}

theorem nothing : Adds (fun p => p) Eq := ⟨Extends.refl, fun _ => .refl _ _⟩

theorem congr (h : Adds part R) (hRS : ∀ p q, R p q ↔ S p q) : Adds part S :=
  ⟨h.grows, fun hp => (h.means hp).congr hRS⟩

/-- A part before another. -/
theorem comp (h : Adds part R) (h' : Adds part' S) :
    Adds (fun p => part' (part p)) fun p q => ∃ m, S p m ∧ R m q where
  grows p := (h'.grows _).trans (h.grows p)
  means hp := (h'.means (hp.mono (h.grows _).size)).trans (h.means (hp.old (h'.grows _)))

theorem take (S : CharSet) : Adds (fun p => p.add (.take S p.start)) (Expr.one S).Matches :=
  ⟨fun p => (Extends.refl p).add _, fun hp => .take (hp.last (Nat.le_refl _))⟩

theorem check (a : Assertion) : Adds (fun p => p.add (.check a p.start)) (Expr.assert a).Matches :=
  ⟨fun p => (Extends.refl p).add _, fun hp => .check (hp.last (Nat.le_refl _))⟩

theorem openGroup (i : Nat) : Adds (fun p => p.add (.openGroup i p.start)) Eq :=
  ⟨fun p => (Extends.refl p).add _, fun hp => .pass (hp.last (Nat.le_refl _)) (fun _ => trivial) rfl⟩

theorem closeGroup (i : Nat) : Adds (fun p => p.add (.closeGroup i p.start)) Eq :=
  ⟨fun p => (Extends.refl p).add _, fun hp => .pass (hp.last (Nat.le_refl _)) (fun _ => trivial) rfl⟩

theorem group (i : Nat) (h : Adds part R) :
    Adds (fun p => (part (p.add (.closeGroup i p.start))).add
      (.openGroup i (part (p.add (.closeGroup i p.start))).start)) R :=
  (((closeGroup i).comp h).comp (openGroup i)).congr fun p q => by simp

theorem times (h : Adds part R) (n : Nat) : Adds (addTimes part n) (Iterate R n) := by
  induction n with
  | zero => exact nothing.congr fun p q => ⟨fun heq => heq ▸ .zero p, fun hz => by cases hz; rfl⟩
  | succ n ih =>
    refine (h.comp ih).congr fun p q => ⟨fun ⟨m, hn, hR⟩ => hn.trans (iterate_one.2 hR), fun hs => ?_⟩
    obtain ⟨m, hn, hone⟩ := hs.split
    exact ⟨m, hn, iterate_one.1 hone⟩

theorem addFork_extends (p : Program) (greedy : Bool) (again leave : Nat) :
    (p.addFork greedy again leave).Extends p := (Extends.refl p).add _

/-- Up to so many rounds more, before some rounds that are there. -/
theorem upTo (h : Adds part R) (greedy : Bool) {leave : Nat} (n : Nat) {p : Program} :
    (addUpTo part greedy leave n p).Extends p ∧
      ∀ {prog : Program} {k : Nat}, prog.Holds p.steps.size (addUpTo part greedy leave n p) →
        prog.Means p.start leave (fun a b => ∃ j ≤ k, Iterate R j a b) →
        prog.Means (addUpTo part greedy leave n p).start leave fun a b => ∃ j ≤ k + n, Iterate R j a b := by
  induction n generalizing p with
  | zero => exact ⟨.refl p, fun _ hm => hm⟩
  | succ n ih =>
    obtain ⟨hext, hmeans⟩ := @ih ((part p).addFork greedy (part p).start leave)
    have hfork := addFork_extends (part p) greedy (part p).start leave
    refine ⟨hext.trans (hfork.trans (h.grows p)), fun {prog k} hp hm => ?_⟩
    have hround := h.means ((hp.old hext).old hfork)
    have hboth := Means.forkTo ((hp.old hext).last (h.grows p).size) (hround.trans hm) (.refl prog leave)
    have hmore := hmeans (hp.mono (Nat.le_trans (h.grows p).size hfork.size)) (hboth.congr (S := fun a b =>
      ∃ j ≤ k + 1, Iterate R j a b) fun a b => ⟨?_, ?_⟩)
    · exact hmore.congr fun a b => by rw [Nat.add_assoc, Nat.add_comm 1 n]
    · rintro (rfl | ⟨m, hR, j, hj, hi⟩)
      · exact ⟨0, Nat.zero_le _, .zero _⟩
      · exact ⟨j + 1, by omega, .succ hR hi⟩
    · rintro ⟨j, hj, hi⟩
      cases hi with
      | zero => exact .inl rfl
      | succ hR hi => exact .inr ⟨_, hR, _, by omega, hi⟩

/-- One round or more. -/
theorem loop (h : Adds part R) (greedy : Bool) :
    Adds (addLoop part greedy) fun p q => ∃ n, 1 ≤ n ∧ Iterate R n p q where
  grows p := by
    have hbody := h.grows (p.add .done)
    have hsize := hbody.size
    rw [size_add] at hsize
    refine ⟨by simp [addLoop]; omega, fun n hn => ?_⟩
    simp only [addLoop, Array.getElem?_setIfInBounds]
    rw [if_neg (by omega), hbody.steps n (by rw [size_add]; omega), getElem?_add, if_neg (by omega)]
  means {prog p} hp := by
    have hbody := h.grows (p.add .done)
    have hsize := hbody.size
    rw [size_add] at hsize
    have hsteps : ∀ n, p.steps.size ≤ n → n < (part (p.add .done)).steps.size → prog.steps[n]? =
        if p.steps.size = n then some (if greedy then .fork (part (p.add .done)).start p.start
          else .fork p.start (part (p.add .done)).start) else (part (p.add .done)).steps[n]? := by
      intro n hn hlt
      rw [hp n hn (by simpa [addLoop] using hlt)]
      simp only [addLoop, Array.getElem?_setIfInBounds]
      by_cases heq : p.steps.size = n
      · rw [if_pos heq, if_pos heq, if_pos (by omega)]
      · rw [if_neg heq, if_neg heq]
    have hround : prog.Means (part (p.add .done)).start p.steps.size R := by
      refine h.means fun n hn hlt => ?_
      rw [size_add] at hn
      rw [hsteps n (by omega) hlt, if_neg (by omega)]
    have hloop := Means.loop ((hsteps _ (Nat.le_refl _) (by omega)).trans (if_pos rfl)) hround
    refine (hround.trans hloop).congr fun a b => ⟨?_, ?_⟩
    · rintro ⟨m, hR, n, hn⟩
      exact ⟨n + 1, by omega, .succ hR hn⟩
    · rintro ⟨n, hpos, hn⟩
      cases hn with
      | zero => omega
      | succ hR hn => exact ⟨_, hR, _, hn⟩

/-- Rounds, as many as an expression allows. -/
theorem rounds {b : Expr} (h : Adds (addExpr · b) b.Matches) (least : Nat) (most : Option Nat) (greedy : Bool) :
    Adds (addExpr · (.rounds least most greedy b)) (Expr.rounds least most greedy b).Matches := by
  cases most with
  | some most =>
    have hupTo : Adds (fun p => addUpTo (addExpr · b) greedy p.start (most - least) p)
        fun p q => ∃ j ≤ most - least, Iterate b.Matches j p q := by
      refine ⟨fun p => (h.upTo greedy (most - least)).1, fun {prog p} hp => ?_⟩
      have hzero : prog.Means p.start p.start fun a b' => ∃ j ≤ 0, Iterate b.Matches j a b' :=
        (Means.refl prog p.start).congr fun a b' => ⟨fun heq => ⟨0, Nat.le_refl _, heq ▸ .zero a⟩, fun ⟨j, hj, hi⟩ => by
          obtain rfl : j = 0 := by omega
          cases hi
          rfl⟩
      simpa using (h.upTo greedy (most - least)).2 hp hzero
    refine (hupTo.comp (h.times least)).congr fun p q => ⟨?_, ?_⟩
    · rintro ⟨m, hleast, j, hj, hi⟩
      refine ⟨least + j, by omega, fun m' hm' => ?_, hleast.trans hi⟩
      obtain rfl := Option.some.inj hm'
      omega
    · rintro ⟨n, hn, hmost, hi⟩
      have hle := hmost most rfl
      obtain ⟨j, rfl⟩ := Nat.exists_eq_add_of_le hn
      obtain ⟨m, hleast, hi⟩ := hi.split
      exact ⟨m, hleast, j, by omega, hi⟩
  | none =>
    have hloop := h.loop greedy
    by_cases hleast : least = 0
    · have hfork : Adds (fun p => (addLoop (addExpr · b) greedy p).addFork greedy
          (addLoop (addExpr · b) greedy p).start p.start)
          fun p q => p = q ∨ ∃ n, 1 ≤ n ∧ Iterate b.Matches n p q :=
        ⟨fun p => (addFork_extends _ _ _ _).trans (hloop.grows p), fun {prog p} hp =>
          .forkTo (hp.last (hloop.grows p).size) (hloop.means hp.before) (.refl prog p.start)⟩
      have hsteps : (addExpr · (.rounds least none greedy b)) = fun p =>
          (addLoop (addExpr · b) greedy p).addFork greedy (addLoop (addExpr · b) greedy p).start p.start := by
        funext p
        simp only [addExpr, if_pos hleast]
      rw [hsteps]
      refine hfork.congr fun p q => ⟨?_, ?_⟩
      · rintro (rfl | ⟨n, -, hn⟩)
        · exact ⟨0, by omega, by simp, .zero p⟩
        · exact ⟨n, by omega, by simp, hn⟩
      · rintro ⟨n, -, -, hn⟩
        cases hn with
        | zero => exact .inl rfl
        | succ hR hn => exact .inr ⟨_, by omega, .succ hR hn⟩
    · have hsteps : (addExpr · (.rounds least none greedy b)) = fun p =>
          addTimes (addExpr · b) (least - 1) (addLoop (addExpr · b) greedy p) := by
        funext p
        simp only [addExpr, if_neg hleast]
      rw [hsteps]
      refine (hloop.comp (h.times (least - 1))).congr fun p q => ⟨?_, ?_⟩
      · rintro ⟨m, hfirst, n, hn, hi⟩
        exact ⟨least - 1 + n, by omega, by simp, hfirst.trans hi⟩
      · rintro ⟨n, hn, -, hi⟩
        obtain ⟨j, rfl⟩ := Nat.exists_eq_add_of_le (Nat.le_trans (Nat.sub_le least 1) hn)
        obtain ⟨m, hfirst, hi⟩ := hi.split
        exact ⟨m, hfirst, j, by omega, hi⟩

end Adds

mutual

/-- **The steps of an expression do what the expression means.** -/
theorem addExpr_adds (e : Expr) : Adds (addExpr · e) e.Matches := by
  cases e with
  | empty => exact .nothing
  | one s => exact .take s
  | assert a => exact .check a
  | group i b => exact (addExpr_adds b).group i
  | seq es => exact addSeq_adds es
  | alt es => exact addAlt_adds es
  | rounds least most greedy b => exact (addExpr_adds b).rounds least most greedy

theorem addSeq_adds (es : List Expr) : Adds (addSeq · es) (Expr.MatchesAll es) := by
  cases es with
  | nil => exact .nothing
  | cons e es => exact (addSeq_adds es).comp (addExpr_adds e)

theorem addAlt_adds (es : List Expr) : Adds (fun p => addAlt p p.start es) (Expr.MatchesAny es) := by
  cases es with
  | nil => exact .nothing
  | cons e es =>
    cases es with
    | nil => exact addExpr_adds e
    | cons e' es =>
      have hothers := addAlt_adds (e' :: es)
      have he := addExpr_adds e
      have hlast (p : Program) := he.grows { addAlt p p.start (e' :: es) with start := p.start }
      refine ⟨fun p => ((hlast p).trans ⟨(hothers.grows p).size, (hothers.grows p).steps⟩).add _, fun {prog p} hp => ?_⟩
      have hfork := hp.last (Nat.le_trans (hothers.grows p).size (hlast p).size)
      have hfirst := he.means (hp.before.mono (hothers.grows p).size)
      have hrest : prog.Means (addAlt p p.start (e' :: es)).start p.start (Expr.MatchesAny (e' :: es)) :=
        hothers.means (hp.before.old ⟨(hlast p).size, (hlast p).steps⟩)
      exact .fork hfork hfirst hrest

end

/-- **The program of an expression comes to its end between the places where the expression matches.** -/
theorem canEnd_ofExpr (e : Expr) {p r : Place} :
    (ofExpr e).CanEnd (ofExpr e).start p r ↔ e.Matches p r := by
  have hdone : (ofExpr e).steps[0]? = some .done := ((addExpr_adds e).grows ⟨#[.done], 0⟩).steps 0 (by decide)
  have hmeans : (ofExpr e).Means (ofExpr e).start 0 e.Matches :=
    (addExpr_adds e).means fun _ _ _ => rfl
  constructor
  · rintro ⟨n, hr⟩
    obtain ⟨m, k, -, hR, hr⟩ := hmeans.sound hr
    cases hr with
    | done => exact hR
    | go h hpass hm =>
      obtain rfl := Option.some.inj (hdone.symm.trans h)
      cases hm
    | take h => cases hdone.symm.trans h
  · exact fun hR => hmeans.complete hR ⟨0, .done hdone⟩

/-! ## Searches -/

theorem goes_of_move_on {t u : Thread} {us : List Thread} (h : prog.move p t = .on us) (hu : u ∈ us) :
    ∃ st : Step, prog.steps[t.step]? = some st ∧ st.passes p ∧ u.step ∈ st.nexts := by
  obtain ⟨st, hs, hbecomes⟩ := becomes_of_move_on h hu
  refine ⟨st, hs, ?_⟩
  cases hbecomes with
  | check ha => exact ⟨ha, List.mem_singleton.2 rfl⟩
  | first => exact ⟨trivial, List.mem_cons_self⟩
  | second => exact ⟨trivial, List.mem_cons_of_mem _ List.mem_cons_self⟩
  | openGroup | closeGroup => exact ⟨trivial, List.mem_singleton.2 rfl⟩

theorem takes_of_move_take {t u : Thread} {c : Char} {cs : List Char} (h : prog.move p t = .take u)
    (hrest : p.rest = c :: cs) : ∃ S, prog.steps[t.step]? = some (.take S u.step) ∧ S.mem c = true := by
  obtain ⟨S, next, hs, hmem, rfl⟩ := step_of_move_take h
  rw [hrest] at hmem
  exact ⟨S, hs, hmem⟩

/-- What a thread becomes can only come where the thread can. -/
theorem CanEnd.of_move_on {t u : Thread} {us : List Thread} (hm : prog.move p t = .on us) (hu : u ∈ us)
    (h : prog.CanEnd u.step p r) : prog.CanEnd t.step p r := by
  obtain ⟨st, hs, hpass, hnext⟩ := goes_of_move_on hm hu
  obtain ⟨n, h⟩ := h
  exact ⟨n + 1, .go hs hpass hnext h⟩

theorem CanEnd.of_move_take {t u : Thread} {c : Char} {cs : List Char} (hm : prog.move p t = .take u)
    (hrest : p.rest = c :: cs) (h : prog.CanEnd u.step (p.past c cs) r) : prog.CanEnd t.step p r := by
  obtain ⟨S, hs, hc⟩ := takes_of_move_take hm hrest
  obtain ⟨n, h⟩ := h
  exact ⟨n + 1, .take hs hrest hc h⟩

theorem canEnd_of_live {t : Thread} (h : Live prog p t) : ∃ r, prog.CanEnd t.step p r := by
  induction h with
  | finish hm => exact ⟨_, 0, .done (step_of_move_finish hm)⟩
  | on hm hu _ ih =>
    obtain ⟨r, h⟩ := ih
    exact ⟨r, h.of_move_on hm hu⟩
  | take hm hrest _ ih =>
    obtain ⟨r, h⟩ := ih
    exact ⟨r, h.of_move_take hm hrest⟩

theorem Reaches.live (h : prog.Reaches n s p r) {t : Thread} (ht : t.step = s) : Live prog p t := by
  induction h generalizing t with
  | done hs =>
    refine .finish ?_
    rw [move, ht, hs]
  | @go n s m st p r hs hpass hm _ ih =>
    cases st with
    | take => exact absurd hpass id
    | done => cases hm
    | check a next =>
      obtain rfl := List.mem_singleton.1 hm
      have hmove : prog.move p t = .on [t.goTo m] := by
        rw [move, ht, hs]
        exact if_pos hpass
      exact .on hmove List.mem_cons_self (ih rfl)
    | fork first second =>
      have hmove : prog.move p t = .on [t.goTo first, t.goTo second] := by rw [move, ht, hs]
      simp only [Step.nexts, List.mem_cons, List.not_mem_nil, or_false] at hm
      rcases hm with rfl | rfl
      · exact .on hmove List.mem_cons_self (ih rfl)
      · exact .on hmove (List.mem_cons_of_mem _ List.mem_cons_self) (ih rfl)
    | openGroup i next =>
      obtain rfl := List.mem_singleton.1 hm
      have hmove : prog.move p t = .on [(t.openGroup i p.offset).goTo m] := by rw [move, ht, hs]
      exact .on hmove List.mem_cons_self (ih rfl)
    | closeGroup i next =>
      obtain rfl := List.mem_singleton.1 hm
      have hmove : prog.move p t = .on [(t.closeGroup i p.offset).goTo m] := by rw [move, ht, hs]
      exact .on hmove List.mem_cons_self (ih rfl)
  | @take n s m S c cs p r hs hrest hc _ ih =>
    have hmove : prog.move p t = .take (t.goTo m) := by
      rw [move, ht, hs]
      exact if_pos (by rw [hrest]; exact hc)
    exact .take hmove hrest (ih rfl)

/-- A thread is live where its step can come to an end. -/
theorem liveAt_iff : prog.LiveAt p ↔ ∃ r, prog.CanEnd prog.start p r :=
  ⟨canEnd_of_live, fun ⟨_, _, h⟩ => h.live rfl⟩

/-- **A search from a place finds something there where the expression matches.** -/
theorem liveAt_ofExpr (e : Expr) : (ofExpr e).LiveAt p ↔ ∃ r, e.Matches p r := by
  rw [liveAt_iff]
  exact exists_congr fun r => canEnd_ofExpr e

/-- Where a thread can come to an end, it could when it started. -/
theorem keeps_canEnd (prog : Program) : prog.Keeps fun p t =>
    ∀ r, prog.CanEnd t.step p r → prog.CanEnd prog.start t.start r where
  on {p t u us} h hm hu r hr := by
    have hstart : u.start = t.start := by
      rcases cases_of_move_on hm hu with ⟨n, rfl⟩ | ⟨i, n, rfl⟩ | ⟨i, n, rfl⟩
      · rfl
      · rfl
      · exact t.start_closeGroup i p.offset
    rw [hstart]
    exact h r (hr.of_move_on hm hu)
  take {p t u c cs} h hm hrest r hr := by
    obtain ⟨m, rfl⟩ := eq_goTo_of_move_take hm
    exact h r (hr.of_move_take hm hrest)

theorem canEnd_of_finish? {f : Finish} (h : prog.finish? p = some f) :
    prog.CanEnd prog.start f.thread.start f.place := by
  obtain ⟨hI, hdone⟩ := finish?_keeps (keeps_canEnd prog) (fun q _ r hr => hr) h
  exact hI f.place ⟨0, .done hdone⟩

/-- **What a search answers is a match of the expression.** -/
theorem matches_of_finish? {e : Expr} {f : Finish} (h : (ofExpr e).finish? p = some f) :
    e.Matches f.thread.start f.place :=
  (canEnd_ofExpr e).1 (canEnd_of_finish? h)

end Program

end ProseLint.Pattern
