/-
Searching for whole words. Where an expression matches what spells one of some words, between two word
edges it matches exactly the runs of word characters that are one of these words
(`Expr.matches_wholeWord`). A search passes over none of them, and stops for nothing else, so the matches in
a text are these runs (`Program.spans_findAll_wholeWord`).
-/
import Mathlib.Data.List.Sort
import ProseLint.Proofs.Pattern.Meaning
import ProseLint.Proofs.Text.Runs

namespace ProseLint.Pattern

open Text (Span Run IsRun runs mem_runs byteLength)

/-! ## Places and words -/

namespace Place

/-- The place between two parts of a text. -/
def between (pre post : List Char) : Place := ⟨pre.getLast?, byteLength pre, post⟩

/-- A word stands between two places. -/
def Spells : List Char → Place → Place → Prop
  | [], p, q => p = q
  | c :: cs, p, q => ∃ rest, p.rest = c :: rest ∧ Spells cs (p.past c rest) q

variable {text pre post : List Char} {p q : Place}

theorem in_iff : p.In text ↔ ∃ pre post, text = pre ++ post ∧ p = between pre post := by
  constructor
  · rintro ⟨pre, htext, hoffset, hbefore⟩
    obtain ⟨before, offset, rest⟩ := p
    exact ⟨pre, rest, htext, by rw [between]; exact congrArg₂ (Place.mk · · rest) hbefore hoffset⟩
  · rintro ⟨pre, post, htext, rfl⟩
    exact ⟨pre, htext, rfl, rfl⟩

theorem past_between (pre rest post : List Char) (c : Char) :
    (between pre rest).past c post = between (pre ++ [c]) post := by
  simp [past, between]

/-- What stands after a place starts with the word. -/
theorem spells_iff {w : List Char} :
    Spells w (between pre post) q ↔ ∃ post', post = w ++ post' ∧ q = between (pre ++ w) post' := by
  induction w generalizing pre post with
  | nil => simp [Spells, eq_comm]
  | cons c cs ih =>
    constructor
    · rintro ⟨rest, hrest, h⟩
      obtain rfl : post = c :: rest := hrest
      rw [past_between] at h
      obtain ⟨post', rfl, rfl⟩ := ih.1 h
      exact ⟨post', rfl, by simp⟩
    · rintro ⟨post', rfl, rfl⟩
      refine ⟨cs ++ post', rfl, ?_⟩
      rw [past_between]
      exact ih.2 ⟨post', rfl, by simp⟩

/-- Of two places of a text the first leads to the other. -/
theorem In.leads_of_le (hp : p.In text) (hq : q.In text) (hle : p.offset ≤ q.offset) : p.Leads q := by
  obtain ⟨pre, post, htext, rfl⟩ := in_iff.1 hp
  obtain ⟨pre', post', htext', rfl⟩ := in_iff.1 hq
  obtain ⟨mid, rfl, rfl⟩ := Text.prefix_of_byteLength_le (htext.symm.trans htext') hle
  clear htext htext' hle hp hq
  induction mid generalizing pre with
  | nil => simpa using Leads.refl _
  | cons c mid ih =>
    refine .past rfl ?_
    rw [past_between]
    simpa using ih (pre ++ [c])

/-- Less of a text is left at a later place. -/
theorem In.length_rest_lt (hp : p.In text) (hq : q.In text) (hlt : p.offset < q.offset) :
    q.rest.length < p.rest.length := by
  obtain ⟨pre, post, htext, rfl⟩ := in_iff.1 hp
  obtain ⟨pre', post', htext', rfl⟩ := in_iff.1 hq
  obtain ⟨mid, rfl, rfl⟩ := Text.prefix_of_byteLength_le (htext.symm.trans htext') (Nat.le_of_lt hlt)
  cases mid with
  | nil =>
    rw [List.append_nil] at hlt
    exact absurd hlt (Nat.lt_irrefl _)
  | cons c mid =>
    simp only [between, List.length_append, List.length_cons]
    omega

end Place

open Place (between in_iff spells_iff)

/-! ## Words between edges -/

/-- A place where a word starts or ends. -/
def wordEdge : Assertion := .word .boundary false

theorem holds_wordEdge (before next : Option Char) :
    wordEdge.holds before next = (before.any Unicode.isWord != next.any Unicode.isWord) := by
  cases before <;> cases next <;> rfl

namespace Expr

/-- An expression between two edges of words. -/
def wholeWord (body : Expr) : Expr := .seq [.assert wordEdge, body, .assert wordEdge]

/-- An expression matches what spells one of some words. -/
def SpellsOne (words : List (List Char)) (e : Expr) : Prop :=
  ∀ p q, e.Matches p q ↔ ∃ w ∈ words, Place.Spells w p q

variable {body : Expr} {words : List (List Char)} {text : List Char} {p q : Place}

theorem matches_wholeWord_iff (hbody : body.SpellsOne words) : (wholeWord body).Matches p q ↔
    wordEdge.holds p.before p.rest.head? = true ∧ (∃ w ∈ words, Place.Spells w p q) ∧
      wordEdge.holds q.before q.rest.head? = true := by
  constructor
  · rintro ⟨_, ⟨hp, rfl⟩, _, hw, _, ⟨hq, rfl⟩, rfl⟩
    exact ⟨hp, (hbody _ _).1 hw, hq⟩
  · rintro ⟨hp, hw, hq⟩
    exact ⟨p, ⟨hp, rfl⟩, q, (hbody _ _).2 hw, q, ⟨hq, rfl⟩, rfl⟩

/-- **Between two edges words match exactly the runs that are one of them.** -/
theorem matches_wholeWord (hbody : body.SpellsOne words)
    (hwords : ∀ w ∈ words, w ≠ [] ∧ ∀ c ∈ w, Unicode.isWord c = true) (hp : p.In text) :
    (wholeWord body).Matches p q ↔
      q.In text ∧ ∃ r ∈ runs Unicode.isWord text, r.chars ∈ words ∧ r.span = ⟨p.offset, q.offset⟩ := by
  have hfirst {w post : List Char} (hw : w ≠ [] ∧ ∀ c ∈ w, Unicode.isWord c = true) :
      (w ++ post).head?.any Unicode.isWord = true := by
    obtain ⟨c, cs, rfl⟩ := List.exists_cons_of_ne_nil hw.1
    exact hw.2 c List.mem_cons_self
  have hlast {w pre : List Char} (hw : w ≠ [] ∧ ∀ c ∈ w, Unicode.isWord c = true) :
      (pre ++ w).getLast?.any Unicode.isWord = true := by
    rw [List.getLast?_append_of_ne_nil _ hw.1, List.getLast?_eq_getLast_of_ne_nil hw.1]
    exact hw.2 _ (List.getLast_mem hw.1)
  rw [matches_wholeWord_iff hbody, holds_wordEdge, holds_wordEdge]
  constructor
  · rintro ⟨hedge, ⟨w, hw, hspells⟩, hedge'⟩
    obtain ⟨pre, post, rfl, rfl⟩ := in_iff.1 hp
    obtain ⟨post', rfl, rfl⟩ := spells_iff.1 hspells
    refine ⟨in_iff.2 ⟨pre ++ w, post', by simp, rfl⟩,
      ⟨⟨byteLength pre, byteLength (pre ++ w)⟩, w⟩, mem_runs.2 ?_, hw, rfl⟩
    have hbefore : pre.getLast?.any Unicode.isWord = false := by
      change (pre.getLast?.any _ != (w ++ post').head?.any _) = true at hedge
      rw [hfirst (hwords w hw)] at hedge
      simpa using hedge
    have hafter : post'.head?.any Unicode.isWord = false := by
      change ((pre ++ w).getLast?.any _ != post'.head?.any _) = true at hedge'
      rw [hlast (hwords w hw)] at hedge'
      simpa using hedge'
    exact ⟨(hwords w hw).1, (hwords w hw).2, pre, post', by simp, rfl, hbefore, hafter⟩
  · rintro ⟨hq, r, hr, hword, hspan⟩
    obtain ⟨pre, post, htext, hspan', hbefore, hafter⟩ := (mem_runs.1 hr).between
    obtain ⟨hstart, hstop⟩ := Span.mk.inj (hspan.symm.trans hspan')
    obtain rfl : p = between pre (r.chars ++ post) :=
      hp.eq_of_offset (in_iff.2 ⟨pre, r.chars ++ post, by simp [htext], rfl⟩) hstart
    obtain rfl : q = between (pre ++ r.chars) post := hq.eq_of_offset (in_iff.2 ⟨_, _, htext, rfl⟩) hstop
    have hw := hwords _ hword
    refine ⟨?_, ⟨r.chars, hword, spells_iff.2 ⟨post, rfl, rfl⟩⟩, ?_⟩
    · change (pre.getLast?.any _ != (r.chars ++ post).head?.any _) = true
      rw [hbefore, hfirst hw]
      rfl
    · change ((pre ++ r.chars).getLast?.any _ != post.head?.any _) = true
      rw [hafter, hlast hw]
      rfl

end Expr

/-! ## Matches -/

namespace Program

variable {prog : Program} {text : List Char}

/-- **A search for all matches passes over no place where one may start**, if none of them is empty. -/
theorem findFrom_covers (hne : ∀ f : Finish, f.Found prog text → f.span.start < f.span.stop) {fuel : Nat}
    (last : Option Nat) {p q : Place} (hp : p.In text) (hfuel : p.rest.length < fuel) (hq : p.Leads q)
    (hlive : prog.LiveAt q) :
    ∃ m ∈ prog.findFrom fuel last p, m.span.start ≤ q.offset ∧ q.offset < m.span.stop := by
  induction fuel generalizing p last with
  | zero => exact absurd hfuel (Nat.not_lt_zero _)
  | succ fuel ih =>
    obtain ⟨g, hg, hgq⟩ := finish?_of_liveAt hlive
    cases hf : prog.finish? p with
    | none =>
      rcases @searchFrom_first prog p.rest p (Array.replicate prog.steps.size 0) [] rfl (by simp)
        (unseen_replicate _ p) (upTo_replicate _ p) (by simp) with ⟨-, hdead⟩ | ⟨f, hfsome, -⟩
      · exact absurd hlive (hdead q hq)
      · cases hfsome.symm.trans hf
    | some f =>
      obtain ⟨-, -, -, hfirst⟩ := finish?_eq_some hf
      obtain ⟨hfound, hle⟩ := finish?_found hp hf
      have hlt := hne f hfound
      have hstart : f.span.start ≤ q.offset := (hfirst q hq hlive).offset_le
      have hnext : prog.searchNext last p = some (.ofFinish f, f.place) := by
        rw [searchNext, search_eq, hf]
        refine if_neg fun h => ?_
        have hle : f.span.stop ≤ f.span.start := of_decide_eq_true h.1
        omega
      rw [findFrom, hnext]
      by_cases hin : q.offset < f.span.stop
      · exact ⟨.ofFinish f, List.mem_cons_self, hstart, hin⟩
      · have hplace := hfound.within.place
        have hoffset : p.offset < f.place.offset := Nat.lt_of_le_of_lt hle hlt
        have hless := hp.length_rest_lt hplace hoffset
        obtain ⟨m, hm, hcovers⟩ := ih (some f.span.stop) hplace (by omega)
          (hplace.leads_of_le (hp.leads hq) (Nat.not_lt.1 hin))
        exact ⟨m, List.mem_cons_of_mem _ hm, hcovers⟩

/-- What stands in order is known by its members. -/
theorem eq_of_mem_iff {α : Type} (start : α → Nat) {as bs : List α}
    (ha : as.Pairwise fun a b => start a < start b) (hb : bs.Pairwise fun a b => start a < start b)
    (h : ∀ x, x ∈ as ↔ x ∈ bs) : as = bs := by
  have : Std.Irrefl fun a b : α => start a < start b := ⟨fun a => Nat.lt_irrefl _⟩
  have : Std.Antisymm fun a b : α => start a < start b := ⟨fun a b hab hba => absurd hab (Nat.lt_asymm hba)⟩
  exact ha.eq_of_mem_iff hb h

variable {body : Expr} {words : List (List Char)}

/-- What is found for words between edges is a run that is one of them. -/
theorem exists_run_of_found (hbody : body.SpellsOne words)
    (hwords : ∀ w ∈ words, w ≠ [] ∧ ∀ c ∈ w, Unicode.isWord c = true) {f : Finish}
    (hf : f.Found (ofExpr body.wholeWord) text) :
    ∃ r ∈ runs Unicode.isWord text, r.chars ∈ words ∧ r.span = f.span :=
  ((Expr.matches_wholeWord hbody hwords hf.within.start).1 (matches_of_finish? hf.again)).2

/-- **The matches of words between edges are the runs that are one of them, in the order of the text.** -/
theorem spans_findAll_wholeWord (hbody : body.SpellsOne words)
    (hwords : ∀ w ∈ words, w ≠ [] ∧ ∀ c ∈ w, Unicode.isWord c = true) (text : List Char) :
    ((ofExpr body.wholeWord).findAll text).map (·.span) =
      ((runs Unicode.isWord text).filter (·.chars ∈ words)).map (·.span) := by
  have hne : ∀ f : Finish, f.Found (ofExpr body.wholeWord) text → f.span.start < f.span.stop := by
    intro f hf
    obtain ⟨r, hr, -, hspan⟩ := exists_run_of_found hbody hwords hf
    exact hspan ▸ (mem_runs.1 hr).start_lt_stop
  refine eq_of_mem_iff Span.start ?_ ?_ fun s => ⟨fun hs => ?_, fun hs => ?_⟩
  · exact List.pairwise_map.2 ((findAll_pairwise _ _).imp fun h => h.start_lt)
  · refine List.pairwise_map.2 (((Text.runs_apart Unicode.isWord text).filter _).imp_of_mem fun ha _ h => ?_)
    exact Nat.lt_of_lt_of_le (mem_runs.1 (List.mem_filter.1 ha).1).start_lt_stop h
  · obtain ⟨m, hm, rfl⟩ := List.mem_map.1 hs
    obtain ⟨f, rfl, hf⟩ := exists_finish_of_mem_findAll hm
    obtain ⟨r, hr, hword, hspan⟩ := exists_run_of_found hbody hwords hf
    exact List.mem_map.2 ⟨r, List.mem_filter.2 ⟨hr, by simpa using hword⟩, hspan⟩
  · obtain ⟨r, hr, rfl⟩ := List.mem_map.1 hs
    obtain ⟨hr, hword⟩ := List.mem_filter.1 hr
    obtain ⟨pre, post, htext, hspan, -⟩ := (mem_runs.1 hr).between
    -- A search is live where the run starts, so some match covers its start, and that match is the run.
    have hp : (between pre (r.chars ++ post)).In text := in_iff.2 ⟨_, _, by simp [htext], rfl⟩
    have hq : (between (pre ++ r.chars) post).In text := in_iff.2 ⟨_, _, htext, rfl⟩
    have hlive : (ofExpr body.wholeWord).LiveAt (between pre (r.chars ++ post)) :=
      (liveAt_ofExpr _).2 ⟨_, (Expr.matches_wholeWord hbody hwords hp).2
        ⟨hq, r, hr, by simpa using hword, hspan⟩⟩
    have hstart := Place.in_ofText text
    obtain ⟨m, hm, hle, hlt⟩ := findFrom_covers hne none hstart (Nat.lt_succ_self _)
      (hstart.leads_of_le hp (Nat.zero_le _)) hlive
    refine List.mem_map.2 ⟨m, hm, ?_⟩
    obtain ⟨f, rfl, hf⟩ := exists_finish_of_mem_findAll hm
    obtain ⟨r', hr', -, hspan'⟩ := exists_run_of_found hbody hwords hf
    have hoffset : (between pre (r.chars ++ post)).offset = r.span.start := by rw [hspan]; rfl
    rw [hoffset, Match.span_ofFinish, ← hspan'] at hle hlt
    rw [Match.span_ofFinish, ← hspan', Text.eq_of_mem_runs hr hr' hle hlt]

end Program

end ProseLint.Pattern
