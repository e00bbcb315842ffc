/-
Runs of characters of a kind, such as words. `runs` finds them by looking at one character after the
other; `mem_runs` says what they are: the stretches of such characters that cannot be made longer.
-/
import Mathlib.Data.List.Pairwise
import ProseLint.Proofs.Text.Boundary

namespace ProseLint.Text

/-- Characters of a kind that stand together, and where. -/
structure Run where
  span : Span
  chars : List Char
  deriving DecidableEq, Repr

/-- The runs of a text from an offset on. Where the character before it is of the kind, what goes on
there is no run. -/
def runsFrom (ofKind : Char → Bool) : (inside : Bool) → (offset : Nat) → List Char → List Run
  | _, _, [] => []
  | inside, offset, c :: cs =>
    let later := runsFrom ofKind (ofKind c) (offset + c.utf8Size) cs
    if ofKind c && !inside then
      let taken := (c :: cs).takeWhile ofKind
      ⟨⟨offset, offset + byteLength taken⟩, taken⟩ :: later
    else later

/-- The runs of a text, from left to right. -/
def runs (ofKind : Char → Bool) (text : List Char) : List Run := runsFrom ofKind false 0 text

/-- A run stands between two parts of a text neither of which goes on with the kind next to it. -/
structure IsRun (ofKind : Char → Bool) (text : List Char) (r : Run) : Prop where
  ne_nil : r.chars ≠ []
  all : ∀ c ∈ r.chars, ofKind c = true
  between : ∃ pre post, text = pre ++ r.chars ++ post ∧ r.span = ⟨byteLength pre, byteLength (pre ++ r.chars)⟩ ∧
    pre.getLast?.any ofKind = false ∧ post.head?.any ofKind = false

variable {ofKind : Char → Bool} {text : List Char} {r : Run}

/-- What stands at a place where a run may start. -/
theorem takeWhile_eq_of_edge {w post : List Char} (hw : ∀ c ∈ w, ofKind c = true)
    (hpost : post.head?.any ofKind = false) : (w ++ post).takeWhile ofKind = w := by
  rw [List.takeWhile_append_of_pos hw]
  cases post with
  | nil => simp
  | cons c cs =>
    have hc : ofKind c = false := hpost
    rw [List.takeWhile_cons_of_neg (by simp [hc]), List.append_nil]

theorem dropWhile_eq_of_edge {w post : List Char} (hw : ∀ c ∈ w, ofKind c = true)
    (hpost : post.head?.any ofKind = false) : (w ++ post).dropWhile ofKind = post := by
  rw [List.dropWhile_append_of_pos hw]
  cases post with
  | nil => rfl
  | cons c cs =>
    have hc : ofKind c = false := hpost
    rw [List.dropWhile_cons_of_neg (by simp [hc])]

theorem head?_dropWhile_any (cs : List Char) : (cs.dropWhile ofKind).head?.any ofKind = false := by
  induction cs with
  | nil => rfl
  | cons c cs ih =>
    rw [List.dropWhile_cons]
    split
    · exact ih
    · rename_i hc
      simpa using hc

/-- A run starts at a character of the kind after one that is not. -/
theorem mem_runsFrom (pre : List Char) {cs : List Char} :
    r ∈ runsFrom ofKind (pre.getLast?.any ofKind) (byteLength pre) cs ↔
      ∃ mid post, cs = mid ++ r.chars ++ post ∧ r.span = ⟨byteLength (pre ++ mid), byteLength (pre ++ mid ++ r.chars)⟩ ∧
        r.chars ≠ [] ∧ (∀ c ∈ r.chars, ofKind c = true) ∧
        (pre ++ mid).getLast?.any ofKind = false ∧ post.head?.any ofKind = false := by
  induction cs generalizing pre with
  | nil =>
    constructor
    · intro h
      cases h
    · rintro ⟨mid, post, hcs, -, hne, -⟩
      simp only [List.nil_eq, List.append_eq_nil_iff] at hcs
      exact absurd hcs.1.2 hne
  | cons c cs ih =>
    have hlater : runsFrom ofKind (ofKind c) (byteLength pre + c.utf8Size) cs =
        runsFrom ofKind ((pre ++ [c]).getLast?.any ofKind) (byteLength (pre ++ [c])) cs := by simp
    have hnew : (ofKind c && !pre.getLast?.any ofKind) = true ↔ ofKind c = true ∧ pre.getLast?.any ofKind = false := by
      rw [Bool.and_eq_true, Bool.not_eq_true']
    rw [runsFrom, hlater]
    constructor
    · intro h
      have hmem : (ofKind c = true ∧ pre.getLast?.any ofKind = false ∧
          r = ⟨⟨byteLength pre, byteLength pre + byteLength ((c :: cs).takeWhile ofKind)⟩, (c :: cs).takeWhile ofKind⟩) ∨
          r ∈ runsFrom ofKind ((pre ++ [c]).getLast?.any ofKind) (byteLength (pre ++ [c])) cs := by
        simp only at h
        split at h
        · rename_i hc
          rcases List.mem_cons.1 h with h | h
          · exact .inl ⟨(hnew.1 hc).1, (hnew.1 hc).2, h⟩
          · exact .inr h
        · exact .inr h
      rcases hmem with ⟨hc, hpre, rfl⟩ | h
      · refine ⟨[], (c :: cs).dropWhile ofKind, by simp, by simp, ?_, ?_, by simpa using hpre, head?_dropWhile_any _⟩
        · simp [hc]
        · exact fun d hd => List.all_eq_true.1 List.all_takeWhile d hd
      · obtain ⟨mid, post, rfl, hspan, hne, hall, hmid, hpost⟩ := (ih (pre ++ [c])).1 h
        exact ⟨c :: mid, post, by simp, by simpa using hspan, hne, hall, by simpa using hmid, hpost⟩
    · rintro ⟨mid, post, hcs, hspan, hne, hall, hmid, hpost⟩
      cases mid with
      | nil =>
        rw [List.nil_append] at hcs
        rw [List.append_nil] at hspan hmid
        have htaken : (c :: cs).takeWhile ofKind = r.chars := by rw [hcs, takeWhile_eq_of_edge hall hpost]
        have hc : ofKind c = true := by
          obtain ⟨d, ds, hchars⟩ := List.exists_cons_of_ne_nil hne
          rw [hchars, List.cons_append] at hcs
          rw [(List.cons.inj hcs).1]
          exact hall d (hchars ▸ List.mem_cons_self)
        simp only [hnew.2 ⟨hc, hmid⟩, if_true, htaken]
        refine List.mem_cons.2 (.inl ?_)
        obtain ⟨span, chars⟩ := r
        change span = _ at hspan
        rw [hspan, byteLength_append]
      | cons d mid =>
        rw [List.cons_append, List.cons_append] at hcs
        obtain ⟨rfl, rfl⟩ := List.cons.inj hcs
        have hmem := (ih (pre ++ [c])).2
          ⟨mid, post, rfl, by simpa using hspan, hne, hall, by simpa using hmid, hpost⟩
        simp only
        split
        · exact List.mem_cons_of_mem _ hmem
        · exact hmem

/-- **The runs are the stretches of a kind that cannot be made longer.** -/
theorem mem_runs : r ∈ runs ofKind text ↔ IsRun ofKind text r := by
  refine (mem_runsFrom []).trans ⟨?_, ?_⟩
  · rintro ⟨mid, post, htext, hspan, hne, hall, hmid, hpost⟩
    exact ⟨hne, hall, mid, post, htext, hspan, hmid, hpost⟩
  · rintro ⟨hne, hall, pre, post, htext, hspan, hpre, hpost⟩
    exact ⟨pre, post, htext, hspan, hne, hall, hpre, hpost⟩

example : runs Char.isAlpha "ab, c".toList = [⟨⟨0, 2⟩, ['a', 'b']⟩, ⟨⟨4, 5⟩, ['c']⟩] := by decide

/-- A run ends before the next one starts. Inside a run, what is left of it comes first. -/
theorem runsFrom_apart (ofKind : Char → Bool) (inside : Bool) (offset : Nat) (cs : List Char) :
    (∀ r ∈ runsFrom ofKind inside offset cs,
        (if inside then offset + byteLength (cs.takeWhile ofKind) else offset) ≤ r.span.start) ∧
      (runsFrom ofKind inside offset cs).Pairwise fun a b => a.span.stop ≤ b.span.start := by
  induction cs generalizing inside offset with
  | nil =>
    refine ⟨?_, List.Pairwise.nil⟩
    intro r hr
    cases hr
  | cons c cs ih =>
    obtain ⟨hle, hapart⟩ := ih (ofKind c) (offset + c.utf8Size)
    rw [runsFrom]
    by_cases hc : ofKind c = true
    · have hlater : ∀ r ∈ runsFrom ofKind (ofKind c) (offset + c.utf8Size) cs,
          offset + byteLength ((c :: cs).takeWhile ofKind) ≤ r.span.start := by
        intro r hr
        have := hle r hr
        rw [if_pos hc] at this
        rw [List.takeWhile_cons_of_pos hc, byteLength_cons]
        omega
      cases inside with
      | true =>
        rw [Bool.not_true, Bool.and_false]
        exact ⟨hlater, hapart⟩
      | false =>
        rw [Bool.not_false, Bool.and_true, if_pos hc]
        refine ⟨List.forall_mem_cons.2 ⟨Nat.le_refl _, fun r hr => ?_⟩, List.pairwise_cons.2 ⟨hlater, hapart⟩⟩
        exact Nat.le_trans (Nat.le_add_right _ _) (hlater r hr)
    · rw [Bool.not_eq_true] at hc
      rw [hc] at hle hapart
      rw [hc, Bool.false_and, if_neg Bool.false_ne_true, List.takeWhile_cons_of_neg (by simp [hc])]
      refine ⟨fun r hr => ?_, hapart⟩
      have := hle r hr
      simp only [Bool.false_eq_true, if_false] at this
      simp only [byteLength_nil, Nat.add_zero, ite_self]
      omega

/-- **A run ends before the next one starts.** -/
theorem runs_apart (ofKind : Char → Bool) (text : List Char) :
    (runs ofKind text).Pairwise fun a b => a.span.stop ≤ b.span.start := (runsFrom_apart _ _ _ _).2

theorem IsRun.start_lt_stop (h : IsRun ofKind text r) : r.span.start < r.span.stop := by
  obtain ⟨pre, post, -, hspan, -⟩ := h.between
  have hpos : 0 < byteLength r.chars := Nat.pos_of_ne_zero fun hzero => h.ne_nil (byteLength_eq_zero.1 hzero)
  rw [hspan, byteLength_append]
  exact Nat.lt_add_of_pos_right hpos

/-- Two runs have no place in common. -/
theorem eq_of_mem_runs {r' : Run} (hr : r ∈ runs ofKind text) (hr' : r' ∈ runs ofKind text)
    (hle : r'.span.start ≤ r.span.start) (hlt : r.span.start < r'.span.stop) : r = r' := by
  by_contra hne
  have hapart : (runs ofKind text).Pairwise fun a b => a.span.stop ≤ b.span.start ∨ b.span.stop ≤ a.span.start :=
    (runs_apart ofKind text).imp .inl
  have : Std.Symm fun a b : Run => a.span.stop ≤ b.span.start ∨ b.span.stop ≤ a.span.start := ⟨fun _ _ => Or.symm⟩
  have h1 := (mem_runs.1 hr).start_lt_stop
  have h2 := hapart.forall hr hr' hne
  omega

end ProseLint.Text
