/-
What a repetition check finds, as a closed form. The matches of its pattern are cut into streaks: blocks of
matches in a row that say the same, as long as they go, where a match that is masked or blank says nothing
(`Check.IsStreak`, `Check.mem_streaks`). The check goes through the matches one by one with a state; what it
raises for a streak depends on the length of the streak and on how many repetitions are put up with
(`Check.repetitionFrom_streak`), and nothing else raises an alert (`Check.repetition_eq_streaks`).
-/
import Mathlib.Data.List.SplitBy
import ProseLint.Proofs.Check.Findings

namespace ProseLint

open Text (Span)
open Pattern (Match)
open Unicode (trim)

namespace Check

variable {t : Masked}

/-! ## What matches say -/

/-- A match says what its text is without the blanks around it, unless it is masked or nothing is left. -/
structure Says (t : Masked) (said : List Char) (m : Match) : Prop where
  unmasked : t.isMasked m.span = false
  trimmed : trim m.text = said
  ne_nil : said ≠ []

/-- Two matches say the same, and neither is masked. -/
structure SaySame (t : Masked) (a b : Match) : Prop where
  first : t.isMasked a.span = false
  second : t.isMasked b.span = false
  same : trim a.text = trim b.text
  ne_nil : trim b.text ≠ []

instance (t : Masked) (a b : Match) : Decidable (SaySame t a b) :=
  decidable_of_iff (t.isMasked a.span = false ∧ t.isMasked b.span = false ∧ trim a.text = trim b.text ∧
      trim b.text ≠ [])
    ⟨fun ⟨h1, h2, h3, h4⟩ => ⟨h1, h2, h3, h4⟩, fun ⟨h1, h2, h3, h4⟩ => ⟨h1, h2, h3, h4⟩⟩

/-- Whether a match says anything. -/
def isHeard (t : Masked) (m : Match) : Bool := !t.isMasked m.span && !(trim m.text).isEmpty

theorem isHeard_iff {m : Match} : isHeard t m = true ↔ Says t (trim m.text) m := by
  rw [isHeard, Bool.and_eq_true, Bool.not_eq_true', Bool.not_eq_true', List.isEmpty_eq_false_iff]
  exact ⟨fun ⟨hu, hne⟩ => ⟨hu, rfl, hne⟩, fun h => ⟨h.unmasked, h.ne_nil⟩⟩

theorem Says.isHeard {said : List Char} {m : Match} (h : Says t said m) : isHeard t m = true :=
  isHeard_iff.2 ⟨h.unmasked, rfl, h.trimmed ▸ h.ne_nil⟩

theorem saySame_iff {a b : Match} : SaySame t a b ↔ ∃ said, Says t said a ∧ Says t said b := by
  constructor
  · exact fun h => ⟨trim b.text, ⟨h.first, h.same, h.ne_nil⟩, ⟨h.second, rfl, h.ne_nil⟩⟩
  · rintro ⟨said, ha, hb⟩
    exact ⟨ha.unmasked, hb.unmasked, ha.trimmed.trans hb.trimmed.symm, hb.trimmed ▸ hb.ne_nil⟩

/-! ## Streaks -/

/-- A streak among matches: a block of them that say the same, to which neither the match before it nor the
one after it belongs. -/
def IsStreak (t : Masked) (ms block : List Match) : Prop :=
  ∃ said before after, ms = before ++ block ++ after ∧ block ≠ [] ∧ (∀ m ∈ block, Says t said m) ∧
    (∀ m ∈ before.getLast?, ¬ Says t said m) ∧ ∀ m ∈ after.head?, ¬ Says t said m

/-- The blocks of matches in which each says the same as the one before it. -/
def blocks (t : Masked) (ms : List Match) : List (List Match) := ms.splitBy fun a b => SaySame t a b

/-- The streaks among matches, in order: the blocks whose matches say anything. -/
def streaks (t : Masked) (ms : List Match) : List (List Match) := (blocks t ms).filter (·.all (isHeard t))

theorem isChain_of_said {said : List Char} {block : List Match} (h : ∀ m ∈ block, Says t said m) :
    block.IsChain fun a b => decide (SaySame t a b) = true :=
  (List.pairwise_of_forall_mem_list fun a ha b hb =>
    decide_eq_true (saySame_iff.2 ⟨said, h a ha, h b hb⟩)).isChain

/-- Matches of which each says the same as the one before all say what the first one says. -/
theorem says_of_isChain {a : Match} {block : List Match} {said : List Char} (ha : Says t said a)
    (h : (a :: block).IsChain fun a b => decide (SaySame t a b) = true) : ∀ m ∈ a :: block, Says t said m := by
  induction block generalizing a with
  | nil => simpa using ha
  | cons b bs ih =>
    rw [List.isChain_cons_cons, decide_eq_true_eq] at h
    have hb : Says t said b := ⟨h.1.second, h.1.same ▸ ha.trimmed, ha.ne_nil⟩
    exact List.forall_mem_cons.2 ⟨ha, ih hb h.2⟩

/-- A block says one thing, or it is a single match that says nothing. -/
theorem says_or_single {block : List Match} (hne : block ≠ [])
    (h : block.IsChain fun a b => decide (SaySame t a b) = true) :
    (∃ said, ∀ m ∈ block, Says t said m) ∨ ∃ m, block = [m] ∧ isHeard t m = false := by
  obtain ⟨a, block, rfl⟩ := List.exists_cons_of_ne_nil hne
  cases ha : isHeard t a with
  | true => exact .inl ⟨_, says_of_isChain (isHeard_iff.1 ha) h⟩
  | false =>
    cases block with
    | nil => exact .inr ⟨a, rfl, ha⟩
    | cons b bs =>
      rw [List.isChain_cons_cons, decide_eq_true_eq, saySame_iff] at h
      obtain ⟨⟨said, hsaid, -⟩, -⟩ := h
      exact absurd hsaid.isHeard (by simp [ha])

theorem blocks_says_or_single {ms block : List Match} (h : block ∈ blocks t ms) :
    (∃ said, ∀ m ∈ block, Says t said m) ∨ ∃ m, block = [m] ∧ isHeard t m = false :=
  says_or_single (List.ne_nil_of_mem_splitBy h) (List.isChain_of_mem_splitBy h)

theorem all_isHeard {said : List Char} {block : List Match} (h : ∀ m ∈ block, Says t said m) :
    block.all (isHeard t) = true := List.all_eq_true.2 fun m hm => (h m hm).isHeard

/-- **The streaks hold the matches that say anything, in their order**, and no others. -/
theorem flatten_streaks (t : Masked) (ms : List Match) : (streaks t ms).flatten = ms.filter (isHeard t) := by
  have hkept (bs : List (List Match)) (h : ∀ block ∈ bs, (∃ said, ∀ m ∈ block, Says t said m) ∨
      ∃ m, block = [m] ∧ isHeard t m = false) :
      (bs.filter (·.all (isHeard t))).flatten = bs.flatten.filter (isHeard t) := by
    induction bs with
    | nil => rfl
    | cons block bs ih =>
      obtain ⟨hblock, hbs⟩ := List.forall_mem_cons.1 h
      rw [List.flatten_cons, List.filter_append, ← ih hbs]
      rcases hblock with ⟨said, hsaid⟩ | ⟨m, rfl, hm⟩
      · have hall := all_isHeard hsaid
        rw [List.filter_cons, if_pos hall, List.flatten_cons, List.filter_eq_self.2 (List.all_eq_true.1 hall)]
      · simp [hm]
  rw [streaks, hkept _ fun _ => blocks_says_or_single, blocks, List.flatten_splitBy]

/-- Two blocks stand apart: the second does not go on with what the first says. -/
def Apart (t : Masked) (a b : List Match) : Prop :=
  ∃ ha hb, decide (SaySame t (a.getLast ha) (b.head hb)) = false

theorem nil_notMem_blocks (t : Masked) (ms : List Match) : [] ∉ blocks t ms := List.nil_notMem_splitBy _ ms

theorem isChain_blocks (t : Masked) (ms : List Match) : (blocks t ms).IsChain (Apart t) :=
  List.isChain_getLast_head_splitBy (fun a b => decide (SaySame t a b)) ms

theorem Apart.stops {a b : List Match} (h : Apart t a b) {said : List Char} {x y : Match}
    (hx : x ∈ a.getLast?) (hy : y ∈ b.head?) (hsaid : Says t said x) : ¬ Says t said y := by
  obtain ⟨ha, hb, hdiffer⟩ := h
  obtain rfl : a.getLast ha = x := by simpa [List.getLast?_eq_some_getLast ha] using hx
  obtain rfl : b.head hb = y := by simpa [List.head?_eq_some_head hb] using hy
  exact fun hsaid' => decide_eq_false_iff_not.1 hdiffer (saySame_iff.2 ⟨said, hsaid, hsaid'⟩)

theorem head?_flatten {bs : List (List Match)} (h : [] ∉ bs) {m : Match} (hm : m ∈ bs.flatten.head?) :
    ∃ b ∈ bs.head?, m ∈ b.head? := by
  cases bs with
  | nil => cases hm
  | cons b bs =>
    have hb : b ≠ [] := fun heq => h (heq ▸ List.mem_cons_self)
    rw [List.flatten_cons, List.head?_append_of_ne_nil _ hb] at hm
    exact ⟨b, rfl, hm⟩

theorem getLast?_flatten {bs : List (List Match)} (h : [] ∉ bs) {m : Match} (hm : m ∈ bs.flatten.getLast?) :
    ∃ b ∈ bs.getLast?, m ∈ b.getLast? := by
  rcases List.eq_nil_or_concat bs with rfl | ⟨bs, b, rfl⟩
  · cases hm
  · have hb : b ≠ [] := fun heq => h (by simp [heq])
    rw [List.concat_eq_append, List.flatten_append, List.flatten_singleton, List.getLast?_append_of_ne_nil _ hb] at hm
    exact ⟨b, by simp, hm⟩

theorem stops_after {block : List Match} {bs : List (List Match)} (hapart : (block :: bs).IsChain (Apart t))
    (hbs : [] ∉ bs) (hne : block ≠ []) {said : List Char} (hsaid : ∀ m ∈ block, Says t said m) :
    ∀ m ∈ bs.flatten.head?, ¬ Says t said m := by
  intro m hm
  obtain ⟨b, hb, hmb⟩ := head?_flatten hbs hm
  exact ((List.isChain_cons.1 hapart).1 b hb).stops (List.getLast?_eq_some_getLast hne) hmb
    (hsaid _ (List.getLast_mem hne))

/-- **The streaks are those there are.** -/
theorem mem_streaks {ms block : List Match} : block ∈ streaks t ms ↔ IsStreak t ms block := by
  constructor
  · intro h
    obtain ⟨hblock, hall⟩ := List.mem_filter.1 h
    have hne := List.ne_nil_of_mem_splitBy hblock
    rcases blocks_says_or_single hblock with ⟨said, hsaid⟩ | ⟨m, rfl, hm⟩
    · obtain ⟨bs, bs', hsplit⟩ := List.append_of_mem hblock
      have hnil := nil_notMem_blocks t ms
      have hapart := isChain_blocks t ms
      have hms : ms = (blocks t ms).flatten := (List.flatten_splitBy _ ms).symm
      rw [hsplit] at hnil hapart hms
      simp only [List.mem_append, List.mem_cons, not_or] at hnil
      obtain ⟨-, hright, hleft⟩ := List.isChain_append.1 hapart
      refine ⟨said, bs.flatten, bs'.flatten, by simpa using hms, hne, hsaid, ?_,
        stops_after hright hnil.2.2 hne hsaid⟩
      intro m hm hm'
      obtain ⟨b, hb, hmb⟩ := getLast?_flatten hnil.1 hm
      exact (hleft b hb block rfl).stops hmb (List.head?_eq_some_head hne) hm' (hsaid _ (List.head_mem hne))
    · simp [hm] at hall
  · rintro ⟨said, before, after, rfl, hne, hsaid, hbefore, hafter⟩
    have hleft : ∀ x ∈ before.getLast?, ∀ y ∈ (block ++ after).head?, decide (SaySame t x y) = false := by
      intro x hx y hy
      rw [List.head?_append_of_ne_nil _ hne] at hy
      have hy := hsaid y (List.mem_of_mem_head? hy)
      exact decide_eq_false fun h => hbefore x hx ⟨h.first, h.same.trans hy.trimmed, hy.ne_nil⟩
    have hright : ∀ x ∈ block.getLast?, ∀ y ∈ after.head?, decide (SaySame t x y) = false := by
      intro x hx y hy
      have hx := hsaid x (List.mem_of_mem_getLast? hx)
      exact decide_eq_false fun h => hafter y hy ⟨h.second, h.same.symm.trans hx.trimmed, hx.ne_nil⟩
    have hblocks : blocks t (before ++ block ++ after) = blocks t before ++ block :: blocks t after := by
      rw [blocks, List.append_assoc, List.splitBy_append hleft, List.splitBy_append hright,
        List.splitBy_of_isChain hne (isChain_of_said hsaid)]
      rfl
    rw [streaks, hblocks, List.mem_filter]
    exact ⟨by simp, all_isHeard hsaid⟩

/-! ## The alerts of a streak -/

theorem lt_length_of_lt_div {n max k : Nat} (h : k < (n - 1) / (max + 1)) : (k + 1) * (max + 1) < n := by
  have hle : (k + 1) * (max + 1) ≤ n - 1 := (Nat.le_div_iff_mul_le (Nat.succ_pos max)).1 h
  have hpos : 0 < (k + 1) * (max + 1) := Nat.mul_pos (Nat.succ_pos k) (Nat.succ_pos max)
  omega

/-- The alert that goes from one match to another, and quotes what the second says. -/
def spanningAlert (c : Check) (a b : Match) : Alert := c.alert ⟨a.span.start, b.span.stop⟩ [trim b.text]

/-- The alerts of a streak when `max` repetitions are put up with: one for each `max + 1` matches that follow
its first one. The alert goes from the match that the one before it ends with, or the first, to the last of
these matches. -/
def streakAlerts (c : Check) (max : Nat) (block : List Match) : List Alert :=
  List.ofFn fun k : Fin ((block.length - 1) / (max + 1)) =>
    have hlast : (k + 1) * (max + 1) < block.length := lt_length_of_lt_div k.2
    have hfirst : k * (max + 1) < block.length :=
      Nat.lt_of_le_of_lt (Nat.mul_le_mul_right _ (Nat.le_succ k)) hlast
    c.spanningAlert block[k * (max + 1)] block[(k + 1) * (max + 1)]

variable {c : Check} {max : Nat}

theorem length_streakAlerts (block : List Match) :
    (c.streakAlerts max block).length = (block.length - 1) / (max + 1) := List.length_ofFn

theorem getElem_streakAlerts {block : List Match} {i : Nat} (hi : i < (c.streakAlerts max block).length)
    (hfirst : i * (max + 1) < block.length) (hlast : (i + 1) * (max + 1) < block.length) :
    (c.streakAlerts max block)[i] = c.spanningAlert block[i * (max + 1)] block[(i + 1) * (max + 1)] :=
  List.getElem_ofFn _

theorem streakAlerts_short {a : Match} {block : List Match} (h : block.length ≤ max) :
    c.streakAlerts max (a :: block) = [] := by
  have hnone : ((a :: block).length - 1) / (max + 1) = 0 := Nat.div_eq_of_lt (Nat.lt_succ_of_le h)
  exact List.eq_nil_of_length_eq_zero ((length_streakAlerts _).trans hnone)

/-- After the first alert of a streak come those of the streak that starts with the match it ends with. -/
theorem streakAlerts_long {a m : Match} {xs ys : List Match} (h : xs.length = max) :
    c.streakAlerts max (a :: (xs ++ m :: ys)) = c.spanningAlert a m :: c.streakAlerts max (m :: ys) := by
  have hlength : (a :: (xs ++ m :: ys)).length = (m :: ys).length + (max + 1) := by
    simp only [List.length_cons, List.length_append, h]
    omega
  have hcount : ((a :: (xs ++ m :: ys)).length - 1) / (max + 1) = ((m :: ys).length - 1) / (max + 1) + 1 := by
    have hless : (m :: ys).length + (max + 1) - 1 = (m :: ys).length - 1 + (max + 1) := by
      rw [List.length_cons]
      omega
    rw [hlength, hless, Nat.add_div_right _ (Nat.succ_pos max)]
  have hlater {i : Nat} (hi : (i + 1) * (max + 1) < (a :: (xs ++ m :: ys)).length)
      (hi' : i * (max + 1) < (m :: ys).length) :
      (a :: (xs ++ m :: ys))[(i + 1) * (max + 1)] = (m :: ys)[i * (max + 1)] := by
    apply Option.some.inj
    rw [← List.getElem?_eq_getElem, ← List.getElem?_eq_getElem, Nat.succ_mul, ← Nat.add_assoc,
      List.getElem?_cons_succ, List.getElem?_append_right (by omega), h, Nat.add_sub_cancel]
  have hwithin {i : Nat} (hi : (i + 1) * (max + 1) < (a :: (xs ++ m :: ys)).length) :
      i * (max + 1) < (m :: ys).length := by
    rw [hlength, Nat.succ_mul] at hi
    exact Nat.lt_of_add_lt_add_right hi
  refine List.ext_getElem ?_ fun i hi hi' => ?_
  · exact (length_streakAlerts _).trans (hcount.trans (congrArg (· + 1) (length_streakAlerts _).symm))
  · have hlast := lt_length_of_lt_div (Nat.lt_of_lt_of_eq hi (length_streakAlerts _))
    have hfirst := Nat.lt_of_le_of_lt (Nat.mul_le_mul_right (max + 1) (Nat.le_succ i)) hlast
    rw [getElem_streakAlerts hi hfirst hlast]
    cases i with
    | zero =>
      have ha : (a :: (xs ++ m :: ys))[0 * (max + 1)] = a := by simp only [Nat.zero_mul, List.getElem_cons_zero]
      have hm : (m :: ys)[0 * (max + 1)] = m := by simp only [Nat.zero_mul, List.getElem_cons_zero]
      rw [List.getElem_cons_zero, ha, hlater hlast (hwithin hlast), hm]
    | succ i =>
      rw [List.getElem_cons_succ, getElem_streakAlerts _ (hwithin hfirst) (hwithin hlast),
        hlater hfirst (hwithin hfirst), hlater hlast (hwithin hlast)]

/-! ## The state of the check -/

theorem goesOn_iff {r : Streak} {m : Match} (hu : t.isMasked m.span = false) :
    r.goesOn (trim m.text) = true ↔ Says t r.said m := by
  rw [Streak.goesOn, Bool.and_eq_true, Bool.not_eq_true', List.isEmpty_eq_false_iff, beq_iff_eq]
  exact ⟨fun h => ⟨hu, h.2, h.2 ▸ h.1⟩, fun h => ⟨h.trimmed ▸ h.ne_nil, h.trimmed⟩⟩

/-- The state after a match when no streak goes on. -/
def streakAfter (t : Masked) (start : Nat) (m : Match) : Streak :=
  if t.isMasked m.span then .broken start else ⟨trim m.text, m.span.start, 0⟩

/-- A match that does not say the same as those before it ends their streak. -/
theorem repetitionFrom_stops {r : Streak} {m : Match} (h : ¬ Says t r.said m) (ms : List Match) :
    c.repetitionFrom max t r (m :: ms) = c.repetitionFrom max t (streakAfter t r.start m) ms := by
  rw [repetitionFrom, streakAfter]
  split
  · rfl
  · rename_i hu
    have hstop := mt (goesOn_iff (eq_false_of_ne_true hu)).1 h
    simp only [if_neg hstop]

theorem repetitionFrom_broken (c : Check) (max : Nat) (t : Masked) (start : Nat) (m : Match) (ms : List Match) :
    c.repetitionFrom max t (.broken start) (m :: ms) = c.repetitionFrom max t (streakAfter t start m) ms :=
  repetitionFrom_stops (fun h => h.ne_nil rfl) ms

theorem repetitionFrom_of_stop {r : Streak} {ms : List Match} (h : ∀ m ∈ ms.head?, ¬ Says t r.said m)
    (start : Nat) : c.repetitionFrom max t r ms = c.repetitionFrom max t (.broken start) ms := by
  induction ms generalizing r start with
  | nil => rfl
  | cons m ms ih =>
    rw [repetitionFrom_stops (h m rfl), repetitionFrom_broken, streakAfter, streakAfter]
    split
    · exact ih (fun m _ hm => hm.ne_nil rfl) start
    · rfl

theorem streakAfter_heard {said : List Char} {m : Match} (h : Says t said m) (start : Nat) :
    streakAfter t start m = ⟨said, m.span.start, 0⟩ := by
  rw [streakAfter, if_neg (by simp [h.unmasked]), h.trimmed]

theorem streakAfter_unheard {m : Match} (h : isHeard t m = false) (start : Nat) :
    ∃ start', streakAfter t start m = .broken start' := by
  rw [streakAfter]
  split
  · exact ⟨start, rfl⟩
  · rename_i hu
    have hblank : trim m.text = [] := by simpa [isHeard, hu] using h
    exact ⟨m.span.start, by rw [hblank]; rfl⟩

theorem repetitionFrom_goesOn {r : Streak} {m : Match} (h : Says t r.said m) (ms : List Match) :
    c.repetitionFrom max t r (m :: ms) =
      if max < r.count + 1 then
        c.alert ⟨r.start, m.span.stop⟩ [trim (t.slice m.span)] ::
          c.repetitionFrom max t ⟨r.said, m.span.start, 0⟩ ms
      else c.repetitionFrom max t ⟨r.said, r.start, r.count + 1⟩ ms := by
  rw [repetitionFrom, if_neg (by simp [h.unmasked])]
  simp only [(goesOn_iff h.unmasked).2 h, if_true]
  rw [h.trimmed]

/-- As long as few matches have followed the first one, nothing is raised. -/
theorem repetitionFrom_waits {said : List Char} {start count : Nat} {xs : List Match}
    (h : ∀ m ∈ xs, Says t said m) (hcount : count + xs.length ≤ max) (rest : List Match) :
    c.repetitionFrom max t ⟨said, start, count⟩ (xs ++ rest) =
      c.repetitionFrom max t ⟨said, start, count + xs.length⟩ rest := by
  induction xs generalizing count with
  | nil => rfl
  | cons x xs ih =>
    obtain ⟨hx, hxs⟩ := List.forall_mem_cons.1 h
    rw [List.length_cons] at hcount
    have hwait : ¬ max < count + 1 := by omega
    have hxs' : count + 1 + xs.length ≤ max := by omega
    rw [List.cons_append, repetitionFrom_goesOn hx, if_neg hwait, ih hxs hxs', List.length_cons, Nat.add_assoc,
      Nat.add_comm 1]

/-- **What the check raises for a streak**, after its first match, and before what comes after it. -/
theorem repetitionFrom_streak {said : List Char} (rest : List Match) (a : Match) (block : List Match)
    (h : ∀ m ∈ block, Says t said m) (hquote : ∀ m ∈ block, trim (t.slice m.span) = trim m.text) :
    ∃ r : Streak, r.said = said ∧ c.repetitionFrom max t ⟨said, a.span.start, 0⟩ (block ++ rest) =
      c.streakAlerts max (a :: block) ++ c.repetitionFrom max t r rest := by
  by_cases hshort : block.length ≤ max
  · refine ⟨⟨said, a.span.start, 0 + block.length⟩, rfl, ?_⟩
    rw [repetitionFrom_waits h (by omega), streakAlerts_short hshort, List.nil_append]
  · -- the match that comes after `max` of them is flagged and starts what is left of the streak
    have hrest : block.drop max ≠ [] := by
      rw [ne_eq, List.drop_eq_nil_iff]
      exact hshort
    obtain ⟨m, ys, hdrop⟩ := List.exists_cons_of_ne_nil hrest
    have hlength : (block.take max).length = max := List.length_take_of_le (by omega)
    have hblock : block = block.take max ++ m :: ys := by rw [← hdrop, List.take_append_drop]
    have hfirst : ∀ x ∈ block.take max, Says t said x := fun x hx => h x (List.mem_of_mem_take hx)
    have hlater : ∀ x ∈ m :: ys, x ∈ block := fun x hx => List.mem_of_mem_drop (hdrop ▸ hx)
    obtain ⟨hm, hys⟩ := List.forall_mem_cons.1 fun x hx => h x (hlater x hx)
    obtain ⟨hm', hys'⟩ := List.forall_mem_cons.1 fun x hx => hquote x (hlater x hx)
    have hless : ys.length < block.length := by
      have hcount := congrArg List.length hdrop
      rw [List.length_drop, List.length_cons] at hcount
      omega
    obtain ⟨r, hr, heq⟩ := repetitionFrom_streak rest m ys hys hys'
    refine ⟨r, hr, ?_⟩
    have hover : max < 0 + (block.take max).length + 1 := by omega
    rw [hblock, List.append_assoc, repetitionFrom_waits hfirst (by omega), List.cons_append, repetitionFrom_goesOn hm,
      if_pos hover, hm', heq, streakAlerts_long hlength, List.cons_append]
    rfl
termination_by block.length

/-- **What the check raises for matches in blocks** is what it raises for each streak among the blocks. -/
theorem repetitionFrom_blocks {bs : List (List Match)} (hne : [] ∉ bs) (hapart : bs.IsChain (Apart t))
    (hheard : ∀ block ∈ bs, (∃ said, ∀ m ∈ block, Says t said m) ∨ ∃ m, block = [m] ∧ isHeard t m = false)
    (hquote : ∀ m ∈ bs.flatten, isHeard t m = true → trim (t.slice m.span) = trim m.text) (start : Nat) :
    c.repetitionFrom max t (.broken start) bs.flatten =
      (bs.filter (·.all (isHeard t))).flatMap (c.streakAlerts max) := by
  induction bs generalizing start with
  | nil => rfl
  | cons block bs ih =>
    obtain ⟨hblock, hbs⟩ := List.forall_mem_cons.1 hheard
    have hbsne : [] ∉ bs := fun h => hne (List.mem_cons_of_mem _ h)
    rw [List.flatten_cons] at hquote
    have ih := ih hbsne (List.isChain_cons.1 hapart).2 hbs fun m hm => hquote m (List.mem_append_right _ hm)
    rcases hblock with ⟨said, hsaid⟩ | ⟨m, rfl, hm⟩
    · have hblockne : block ≠ [] := fun h => hne (h ▸ List.mem_cons_self)
      have hafter := stops_after hapart hbsne hblockne hsaid
      have hall := all_isHeard hsaid
      obtain ⟨a, block, rfl⟩ := List.exists_cons_of_ne_nil hblockne
      obtain ⟨ha, hlater⟩ := List.forall_mem_cons.1 hsaid
      obtain ⟨r, rfl, heq⟩ := repetitionFrom_streak bs.flatten a block hlater fun m hm =>
        hquote m (by simp [hm]) (hlater m hm).isHeard
      rw [List.filter_cons, if_pos hall, List.flatMap_cons, List.flatten_cons, List.cons_append, repetitionFrom_broken,
        streakAfter_heard ha, heq, repetitionFrom_of_stop hafter start, ih]
    · obtain ⟨start', hbroken⟩ := streakAfter_unheard hm start
      have hnone : ¬ [m].all (isHeard t) = true := by simp [hm]
      rw [List.filter_cons, if_neg hnone, List.flatten_cons, List.singleton_append, repetitionFrom_broken, hbroken, ih]

/-- What a match says stands in the text. -/
theorem trim_slice {m : Masker} {text : List Char} {format : String} {p : Pattern} {a : Match}
    (ha : a ∈ p.findAll (m.mask text format).copy) (hheard : isHeard (m.mask text format) a = true) :
    trim ((m.mask text format).slice a.span) = trim a.text := by
  have hslice := slice_of_unmasked (m.rangedIn_ranges text format) (Pattern.Program.within_of_mem_findAll ha)
    (isHeard_iff.1 hheard).unmasked
  have htext : (m.mask text format).slice a.span = a.text := by
    simp only [Masked.slice, Masker.mask, Masked.ofRanges, hslice]
  rw [htext]

/-- **A repetition check raises the alerts of the streaks among the matches of its pattern**, in their order,
and nothing else: whatever the text and the masker, for a streak of `n` matches, when `max` repetitions are
put up with, `(n - 1) / (max + 1)` alerts, of which each goes from the match the one before it ends with to
the `max + 1`-th match after that one and quotes what the streak says. The streaks are the blocks of matches
that say the same and that no match next to them goes on with; between them stand the matches that are
masked or blank. -/
theorem repetition_eq_streaks {p : Pattern} (hc : c.matcher = .repetition p max) (m : Masker) (text : List Char)
    (format : String) (ctx : Context) (host : ScriptHost) :
    let t := m.mask text format
    let ms := p.findAll t.copy
    c.run t ctx host = ((streaks t ms).flatMap (c.streakAlerts max), ctx) ∧
      (∀ block, block ∈ streaks t ms ↔ IsStreak t ms block) ∧
      (streaks t ms).flatten = ms.filter (isHeard t) := by
  intro t ms
  refine ⟨?_, fun _ => mem_streaks, flatten_streaks t ms⟩
  have hflatten : (blocks t ms).flatten = ms := List.flatten_splitBy _ ms
  have hfound : c.repetitionFrom max t (.broken 0) (blocks t ms).flatten = (streaks t ms).flatMap (c.streakAlerts max) :=
    repetitionFrom_blocks (nil_notMem_blocks t ms) (isChain_blocks t ms) (fun _ => blocks_says_or_single)
      (fun a ha => trim_slice (hflatten ▸ ha)) 0
  rw [hflatten] at hfound
  have hrun : c.run t ctx host = (c.repetitionFrom max t (.broken 0) ms, ctx) := by
    rw [run, hc]
    rfl
  rw [hrun, hfound]

/-- A check that puts up with one repetition of what its pattern matches. -/
def chantCheck (p : Pattern) : Check where
  name := sampleName
  severity := .warning
  scope := "text"
  message := "'%s' again"
  description := ""
  link := none
  matcher := .repetition p 1

/-- A word said five times with blanks of all kinds around it, an address, and the word said twice. -/
def chantText : List Char := " no  no\u00a0no\tno\n no ftp://no no no".toList

/-- Five words in a row are flagged twice, whatever blanks are matched with them, and the two behind the address
are not. -/
theorem repetition_eq_streaks_chant :
    ∃ p : Pattern, (chantCheck p).matcher = .repetition p 1 ∧
      let t := Masker.plain.mask chantText "text"
      let ms := p.findAll t.copy
      ms.map (·.text) = [" no  ", "no\u00a0", "no\t", "no\n ", "no ", "******** ", "no ", "no"].map String.toList ∧
        ((chantCheck p).run t (.fresh "text") ⟨fun _ => .error .malformedOutput, 0⟩).1.map
          (fun a => (a.span, a.message)) = [(⟨0, 12⟩, "'no' again"), (⟨9, 19⟩, "'no' again")] ∧
        (chantCheck p).run t (.fresh "text") ⟨fun _ => .error .malformedOutput, 0⟩ =
          ((streaks t ms).flatMap ((chantCheck p).streakAlerts 1), .fresh "text") ∧
        (∀ block, block ∈ streaks t ms ↔ IsStreak t ms block) ∧
        (streaks t ms).flatten = ms.filter (isHeard t) := by
  have hspans : (Pattern.ofText? "\\s*[^\\s]+\\s*").map (fun p =>
      ((p.findAll (Masker.plain.mask chantText "text").copy).map (·.text),
        ((chantCheck p).repetition p 1 (Masker.plain.mask chantText "text")).map fun a => (a.span, a.message))) =
      some ([" no  ", "no\u00a0", "no\t", "no\n ", "no ", "******** ", "no ", "no"].map String.toList,
        [(⟨0, 12⟩, "'no' again"), (⟨9, 19⟩, "'no' again")]) := by
    simp only [Masker.mask, Masker.ranges, urlPattern_eq]
    decide +kernel
  obtain ⟨p, -, hp⟩ := Option.map_eq_some_iff.1 hspans
  obtain ⟨htexts, halerts⟩ := Prod.mk.inj hp
  exact ⟨p, rfl, htexts, halerts, repetition_eq_streaks rfl .plain chantText "text" _ _⟩

end Check

end ProseLint
