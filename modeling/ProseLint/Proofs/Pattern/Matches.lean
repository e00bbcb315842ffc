/-
The matches of a program in a text. They stand on boundaries of the text with their groups inside them
(`within_of_mem_findAll`), each starts and ends after the one before it (`findAll_pairwise`), and a
search from where one starts finds it again (`exists_finish_of_mem_findAll`).
-/
import ProseLint.Proofs.Pattern.Leftmost
import ProseLint.Proofs.Text.Boundary

namespace ProseLint

open Text (Span IsBoundary byteLength)

namespace Text.Span

/-- A span starts where another one ends or later, and both its ends are later than those of the
other one. -/
structure Precedes (a b : Span) : Prop where
  stop_le : a.stop ≤ b.start
  start_lt : a.start < b.start
  stop_lt : a.stop < b.stop

theorem Precedes.trans {a b c : Span} (h : a.Precedes b) (h' : b.Precedes c) : a.Precedes c := by
  have h1 := h.stop_le
  have h2 := h.start_lt
  have h3 := h.stop_lt
  have h4 := h'.stop_le
  have h5 := h'.start_lt
  have h6 := h'.stop_lt
  exact ⟨by omega, by omega, by omega⟩

/-- A span with its ends in order and on boundaries of a text. -/
structure Fits (text : List Char) (s : Span) : Prop where
  le : s.start ≤ s.stop
  start : IsBoundary text s.start
  stop : IsBoundary text s.stop

end Text.Span

namespace Pattern

/-! ## Places of a text -/

namespace Place

/-- A place in a text. -/
def In (text : List Char) (p : Place) : Prop :=
  ∃ pre, text = pre ++ p.rest ∧ p.offset = byteLength pre ∧ p.before = pre.getLast?

variable {text : List Char} {p q : Place}

theorem in_ofText (text : List Char) : (ofText text).In text := ⟨[], rfl, rfl, rfl⟩

theorem In.past {c : Char} {cs : List Char} (h : p.In text) (hrest : p.rest = c :: cs) :
    (p.past c cs).In text := by
  obtain ⟨pre, htext, hoffset, -⟩ := h
  refine ⟨pre ++ [c], ?_, ?_, ?_⟩
  · simp [htext, hrest, Place.past]
  · simp [hoffset, Place.past]
  · simp [Place.past]

theorem In.leads (h : p.In text) (hq : p.Leads q) : q.In text := by
  induction hq with
  | refl => exact h
  | past hrest _ ih => exact ih (h.past hrest)

theorem In.isBoundary (h : p.In text) : IsBoundary text p.offset := by
  obtain ⟨pre, htext, hoffset, -⟩ := h
  exact ⟨pre, p.rest, htext, hoffset.symm⟩

/-- Places of a text are told apart by their offsets. -/
theorem In.eq_of_offset (h : p.In text) (hq : q.In text) (ho : p.offset = q.offset) : p = q := by
  obtain ⟨pre, htext, hoffset, hbefore⟩ := h
  obtain ⟨pre', htext', hoffset', hbefore'⟩ := hq
  obtain ⟨rfl, hrest⟩ := Text.prefix_unique (htext.symm.trans htext') (by omega)
  obtain ⟨before, offset, rest⟩ := p
  obtain ⟨before', offset', rest'⟩ := q
  simp_all

end Place

/-! ## Threads in a text -/

/-- A thread that has come to a place: it started there or before, and what its groups took lies
between the two places. -/
structure Thread.Within (text : List Char) (p : Place) (t : Thread) : Prop where
  place : p.In text
  start : t.start.In text
  le : t.start.offset ≤ p.offset
  opened : ∀ o ∈ t.opened, t.start.offset ≤ o.2 ∧ o.2 ≤ p.offset ∧ IsBoundary text o.2
  groups : ∀ g ∈ t.groups, t.start.offset ≤ g.2.start ∧ g.2.stop ≤ p.offset ∧ g.2.Fits text

namespace Thread.Within

variable {text : List Char} {p : Place} {t : Thread}

theorem ofPlace (n : Nat) (h : p.In text) : Within text p (.ofPlace n p) where
  place := h
  start := h
  le := Nat.le_refl _
  opened := by simp [Thread.ofPlace]
  groups := by simp [Thread.ofPlace]

theorem goTo (h : Within text p t) (n : Nat) : Within text p (t.goTo n) :=
  ⟨h.place, h.start, h.le, h.opened, h.groups⟩

theorem openGroup (h : Within text p t) (i : Nat) : Within text p (t.openGroup i p.offset) where
  place := h.place
  start := h.start
  le := h.le
  opened := by
    intro o ho
    rcases List.mem_cons.1 ho with rfl | ho
    · exact ⟨h.le, Nat.le_refl _, h.place.isBoundary⟩
    · exact h.opened o ho
  groups := h.groups

theorem closeGroup (h : Within text p t) (i : Nat) : Within text p (t.closeGroup i p.offset) := by
  unfold Thread.closeGroup
  split
  · exact h
  · rename_i j start opened hopened
    obtain ⟨hle, hle', hb⟩ := h.opened (j, start) (by simp [hopened])
    refine ⟨h.place, h.start, h.le, fun o ho => h.opened o (by simp [hopened, ho]), fun g hg => ?_⟩
    rcases List.mem_cons.1 hg with rfl | hg
    · exact ⟨hle, Nat.le_refl _, hle', hb, h.place.isBoundary⟩
    · exact h.groups g (List.mem_filter.1 hg).1

theorem past {c : Char} {cs : List Char} (h : Within text p t) (hrest : p.rest = c :: cs) :
    Within text (p.past c cs) t := by
  have hle : p.offset ≤ (p.past c cs).offset := Nat.le_add_right _ _
  refine ⟨h.place.past hrest, h.start, Nat.le_trans h.le hle, fun o ho => ?_, fun g hg => ?_⟩
  · obtain ⟨h1, h2, h3⟩ := h.opened o ho
    exact ⟨h1, Nat.le_trans h2 hle, h3⟩
  · obtain ⟨h1, h2, h3⟩ := h.groups g hg
    exact ⟨h1, Nat.le_trans h2 hle, h3⟩

end Thread.Within

namespace Program

variable {prog : Program} {text : List Char} {p : Place}

theorem keeps_within (prog : Program) (text : List Char) : prog.Keeps (Thread.Within text) where
  on {p t u us} h hm hu := by
    rcases cases_of_move_on hm hu with ⟨n, rfl⟩ | ⟨i, n, rfl⟩ | ⟨i, n, rfl⟩
    · exact h.goTo n
    · exact (h.openGroup i).goTo n
    · exact (h.closeGroup i).goTo n
  take {p t u c cs} h hm hrest := by
    obtain ⟨n, rfl⟩ := eq_goTo_of_move_take hm
    exact (h.goTo n).past hrest

/-- The thread that a search answers has come to the end of the program, at the place of the answer. -/
theorem finish?_within (hp : p.In text) {f : Finish} (h : prog.finish? p = some f) :
    f.thread.Within text f.place ∧ p.Leads f.thread.start := by
  have hstart : ∀ q, p.Leads q → Thread.Within text q (.ofPlace prog.start q) :=
    fun q hq => .ofPlace prog.start (hp.leads hq)
  exact ⟨(finish?_keeps (keeps_within prog text) hstart h).1, (finish?_eq_some h).1⟩

end Program

/-! ## Matches -/

/-- What a search has come to in a text: its groups lie within it, and a search from where it starts
comes to it again. -/
structure Finish.Found (prog : Program) (text : List Char) (f : Finish) : Prop where
  within : f.thread.Within text f.place
  again : prog.finish? f.thread.start = some f

/-- The span of a match. -/
def Finish.span (f : Finish) : Span := ⟨f.thread.start.offset, f.place.offset⟩

@[simp] theorem Match.span_ofFinish (f : Finish) : (Match.ofFinish f).span = f.span := rfl

@[simp] theorem Match.groups_ofFinish (f : Finish) : (Match.ofFinish f).groups = f.thread.groups := rfl

theorem Finish.Found.fits {prog : Program} {text : List Char} {f : Finish} (h : f.Found prog text) :
    f.span.Fits text :=
  ⟨h.within.le, h.within.start.isBoundary, h.within.place.isBoundary⟩

/-- The text of a match is what stands in its span. -/
theorem Finish.Found.text_ofFinish {prog : Program} {text : List Char} {f : Finish} (h : f.Found prog text) :
    Text.slice? text f.span = some (Match.ofFinish f).text := by
  obtain ⟨pre, htext, hoffset, -⟩ := h.within.start
  obtain ⟨pre', htext', hoffset', -⟩ := h.within.place
  have hle := h.within.le
  obtain ⟨mid, rfl, hrest⟩ := Text.prefix_of_byteLength_le (htext.symm.trans htext') (by omega)
  have hlen : byteLength mid = f.place.offset - f.thread.start.offset := by
    rw [Text.byteLength_append] at hoffset'
    omega
  have hmid : (Match.ofFinish f).text = mid := by
    simp only [Match.ofFinish]
    rw [Text.takeBytes?_eq_some.2 ⟨_, hrest, hlen⟩, Option.getD_some]
  rw [hmid, Text.slice?_eq_some]
  exact ⟨pre, f.place.rest, htext', hoffset.symm, hoffset'.symm⟩

namespace Program

variable {prog : Program} {text : List Char} {p : Place}

theorem finish?_found (hp : p.In text) {f : Finish} (h : prog.finish? p = some f) :
    f.Found prog text ∧ p.offset ≤ f.span.start := by
  obtain ⟨hwithin, hleads⟩ := finish?_within hp h
  exact ⟨⟨hwithin, (finish?_eq_some h).2.1⟩, hleads.offset_le⟩

/-- The next match is what a search answers there, or one character later where it answers an empty
match at the end of the match before. -/
theorem searchNext_cases {last : Option Nat} {m : Match} {q : Place}
    (h : prog.searchNext last p = some (m, q)) :
    ∃ f, m = .ofFinish f ∧ q = f.place ∧
      ((prog.finish? p = some f ∧ ¬ (f.span.isEmpty = true ∧ last = some f.span.stop)) ∨
        ∃ c cs, p.rest = c :: cs ∧ prog.finish? (p.past c cs) = some f) := by
  simp only [searchNext, search_eq] at h
  cases hf : prog.finish? p with
  | none => simp [hf] at h
  | some f =>
    simp only [hf, Option.map_some] at h
    split at h
    · split at h
      · cases h
      · rename_i c cs hrest
        obtain ⟨g, hg, heq⟩ := Option.map_eq_some_iff.1 h
        obtain ⟨rfl, rfl⟩ := Prod.mk.inj heq
        exact ⟨g, rfl, rfl, .inr ⟨c, cs, hrest, hg⟩⟩
    · rename_i hne
      obtain ⟨rfl, rfl⟩ := Prod.mk.inj (Option.some.inj h)
      exact ⟨f, rfl, rfl, .inl ⟨rfl, hne⟩⟩

/-- **The match after a match starts and ends after it.** -/
theorem searchNext_precedes {f : Finish} (hf : f.Found prog text) {m : Match} {q : Place}
    (h : prog.searchNext (some f.span.stop) f.place = some (m, q)) :
    ∃ g, m = .ofFinish g ∧ q = g.place ∧ g.Found prog text ∧ f.span.Precedes g.span := by
  obtain ⟨g, rfl, rfl, ⟨hg, hne⟩ | ⟨c, cs, hrest, hg⟩⟩ := searchNext_cases h
  · obtain ⟨hfound, hle⟩ := finish?_found hf.within.place hg
    have hgle := hfound.fits.le
    have hfle := hf.fits.le
    have hstop : f.span.stop ≤ g.span.start := hle
    refine ⟨g, rfl, rfl, hfound, hle, ?_, ?_⟩
    · -- A search from an empty match finds it again, which is not the next one.
      by_cases hempty : f.span.start = f.span.stop
      · have hplace : f.thread.start = f.place := hf.within.start.eq_of_offset hf.within.place hempty
        obtain rfl : f = g := Option.some.inj (hf.again.symm.trans (hplace ▸ hg))
        exact absurd ⟨by simp [Span.isEmpty, hempty], rfl⟩ hne
      · omega
    · by_cases hempty : g.span.isEmpty = true
      · have hstop' : g.span.stop ≠ f.span.stop := fun he => hne ⟨hempty, by rw [he]⟩
        omega
      · simp only [Span.isEmpty, decide_eq_true_eq] at hempty
        omega
  · obtain ⟨hfound, hle⟩ := finish?_found (hf.within.place.past hrest) hg
    have hgle := hfound.fits.le
    have hfle := hf.fits.le
    have hstop : f.span.stop + c.utf8Size ≤ g.span.start := hle
    have hc := c.utf8Size_pos
    exact ⟨g, rfl, rfl, hfound, by omega, by omega, by omega⟩

theorem findFrom_precedes (prog : Program) {text : List Char} :
    ∀ (fuel : Nat) {f : Finish}, f.Found prog text →
      (∀ m ∈ prog.findFrom fuel (some f.span.stop) f.place,
        ∃ g, m = .ofFinish g ∧ g.Found prog text ∧ f.span.Precedes g.span) ∧
      (prog.findFrom fuel (some f.span.stop) f.place).Pairwise fun m n => m.span.Precedes n.span
  | 0, _, _ => by simp [findFrom]
  | fuel + 1, f, hf => by
    rw [findFrom]
    split
    · simp
    · rename_i m q h
      obtain ⟨g, rfl, rfl, hg, hfg⟩ := searchNext_precedes hf h
      obtain ⟨hmem, hpair⟩ := findFrom_precedes prog fuel hg
      refine ⟨fun m hm => ?_, List.pairwise_cons.2 ⟨fun m hm => ?_, hpair⟩⟩
      · rcases List.mem_cons.1 hm with rfl | hm
        · exact ⟨g, rfl, hg, hfg⟩
        · obtain ⟨k, rfl, hk, hgk⟩ := hmem m hm
          exact ⟨k, rfl, hk, hfg.trans hgk⟩
      · obtain ⟨k, rfl, -, hgk⟩ := hmem m hm
        exact hgk

theorem findAll_cases (prog : Program) (text : List Char) :
    prog.findAll text = [] ∨ ∃ f fuel, f.Found prog text ∧
      prog.findAll text = .ofFinish f :: prog.findFrom fuel (some f.span.stop) f.place := by
  unfold findAll
  rw [findFrom]
  split
  · exact .inl rfl
  · rename_i m q h
    obtain ⟨f, rfl, rfl, ⟨hf, -⟩ | ⟨c, cs, hrest, hf⟩⟩ := searchNext_cases h
    · exact .inr ⟨f, _, (finish?_found (Place.in_ofText text) hf).1, rfl⟩
    · exact .inr ⟨f, _, (finish?_found ((Place.in_ofText text).past hrest) hf).1, rfl⟩

/-- **A search from where a match starts finds it again.** -/
theorem exists_finish_of_mem_findAll {m : Match} (h : m ∈ prog.findAll text) :
    ∃ f, m = .ofFinish f ∧ f.Found prog text := by
  rcases findAll_cases prog text with he | ⟨f, fuel, hf, he⟩ <;> rw [he] at h
  · cases h
  · rcases List.mem_cons.1 h with rfl | h
    · exact ⟨f, rfl, hf⟩
    · obtain ⟨g, rfl, hg, -⟩ := (findFrom_precedes prog fuel hf).1 m h
      exact ⟨g, rfl, hg⟩

/-- **Each match starts and ends after the one before it.** -/
theorem findAll_pairwise (prog : Program) (text : List Char) :
    (prog.findAll text).Pairwise fun m n => m.span.Precedes n.span := by
  rcases findAll_cases prog text with he | ⟨f, fuel, hf, he⟩ <;> rw [he]
  · exact .nil
  · obtain ⟨hmem, hpair⟩ := findFrom_precedes prog fuel hf
    refine List.pairwise_cons.2 ⟨fun m hm => ?_, hpair⟩
    obtain ⟨g, rfl, -, hfg⟩ := hmem m hm
    exact hfg

end Program

/-! ## Groups of matches -/

/-- A match in a text, with its groups inside it. -/
structure Match.Within (text : List Char) (m : Match) : Prop where
  fits : m.span.Fits text
  slice : Text.slice? text m.span = some m.text
  groups : ∀ i s, m.group? i = some s → m.span.start ≤ s.start ∧ s.stop ≤ m.span.stop ∧ s.Fits text

/-- **A match stands on boundaries of the text, and its groups lie inside it.** -/
theorem Program.within_of_mem_findAll {prog : Program} {text : List Char} {m : Match}
    (h : m ∈ prog.findAll text) : m.Within text := by
  obtain ⟨f, rfl, hf⟩ := exists_finish_of_mem_findAll h
  refine ⟨hf.fits, hf.text_ofFinish, fun i s hs => ?_⟩
  unfold Match.group? at hs
  split at hs
  · obtain rfl := Option.some.inj hs
    exact ⟨Nat.le_refl _, Nat.le_refl _, hf.fits⟩
  · obtain ⟨l, l', heq, -⟩ := List.lookup_eq_some_iff.1 hs
    exact hf.within.groups (i, s) (by rw [← Match.groups_ofFinish, heq]; simp)

end Pattern

end ProseLint
