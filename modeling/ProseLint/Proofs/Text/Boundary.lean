/-
Where characters end. An offset is a boundary of a text when a prefix of the text has that many bytes
(`IsBoundary`); cutting a text succeeds exactly at boundaries (`dropBytes?_eq_some`,
`takeBytes?_eq_some`, `slice?_eq_some`, `isSome_slice?_iff`). `bytes` is the UTF-8 form of a text.
-/
import ProseLint.Text.Bytes

namespace ProseLint.Text

/-- A character of the text ends at an offset, or the text starts there. -/
def IsBoundary (cs : List Char) (n : Nat) : Prop := ∃ pre post, cs = pre ++ post ∧ byteLength pre = n

theorem IsBoundary.le {cs : List Char} {n : Nat} (h : IsBoundary cs n) : n ≤ byteLength cs := by
  obtain ⟨pre, post, rfl, rfl⟩ := h
  simp

theorem isBoundary_zero (cs : List Char) : IsBoundary cs 0 := ⟨[], cs, rfl, rfl⟩

theorem isBoundary_prefix (a b : List Char) : IsBoundary (a ++ b) (byteLength a) := ⟨a, b, rfl, rfl⟩

theorem byteLength_eq_zero {cs : List Char} : byteLength cs = 0 ↔ cs = [] := by
  cases cs with
  | nil => simp
  | cons c cs =>
    have := c.utf8Size_pos
    simp only [byteLength_cons, reduceCtorEq, iff_false]
    omega

/-- Two prefixes of a text: the shorter one starts the longer one. -/
theorem prefix_of_byteLength_le {a b c d : List Char} (h : a ++ b = c ++ d)
    (hle : byteLength a ≤ byteLength c) : ∃ e, c = a ++ e ∧ b = e ++ d := by
  rcases List.append_eq_append_iff.1 h with ⟨e, rfl, rfl⟩ | ⟨e, rfl, rfl⟩
  · exact ⟨e, rfl, rfl⟩
  · have he : e = [] := by
      rw [byteLength_append] at hle
      exact byteLength_eq_zero.1 (by omega)
    subst he
    exact ⟨[], by simp, by simp⟩

/-- Two prefixes of a text with as many bytes are the same. -/
theorem prefix_unique {a b c d : List Char} (h : a ++ b = c ++ d) (hab : byteLength a = byteLength c) :
    a = c ∧ b = d := by
  obtain ⟨e, rfl, rfl⟩ := prefix_of_byteLength_le h (Nat.le_of_eq hab)
  have he : e = [] := by
    rw [byteLength_append] at hab
    exact byteLength_eq_zero.1 (by omega)
  subst he
  simp

/-- A boundary in the first part of a text. -/
theorem IsBoundary.left {a b : List Char} {n : Nat} (h : IsBoundary (a ++ b) n)
    (hn : n ≤ byteLength a) : IsBoundary a n := by
  obtain ⟨pre, post, heq, rfl⟩ := h
  obtain ⟨e, rfl, rfl⟩ := prefix_of_byteLength_le heq.symm hn
  exact isBoundary_prefix pre e

/-- A boundary in the second part of a text. -/
theorem IsBoundary.right {a b : List Char} {n : Nat} (h : IsBoundary (a ++ b) n)
    (hn : byteLength a ≤ n) : IsBoundary b (n - byteLength a) := by
  obtain ⟨pre, post, heq, rfl⟩ := h
  obtain ⟨e, rfl, rfl⟩ := prefix_of_byteLength_le heq hn
  exact ⟨e, post, rfl, by simp⟩

theorem IsBoundary.append_left {b : List Char} {n : Nat} (a : List Char) (h : IsBoundary b n) :
    IsBoundary (a ++ b) (byteLength a + n) := by
  obtain ⟨pre, post, rfl, rfl⟩ := h
  exact ⟨a ++ pre, post, by simp, by simp⟩

/-! ## Cutting -/

theorem dropBytes?_eq_some {cs post : List Char} {n : Nat} :
    dropBytes? cs n = some post ↔ ∃ pre, cs = pre ++ post ∧ byteLength pre = n := by
  induction cs generalizing n with
  | nil =>
    cases n with
    | zero =>
      simp only [dropBytes?, Option.some.injEq, byteLength_eq_zero]
      exact ⟨fun h => ⟨[], h, rfl⟩, fun ⟨_, h, hp⟩ => by simpa [hp] using h⟩
    | succ n =>
      simp only [dropBytes?, reduceCtorEq, List.nil_eq, List.append_eq_nil_iff, false_iff]
      rintro ⟨pre, ⟨rfl, -⟩, h⟩
      cases h
  | cons c cs ih =>
    cases n with
    | zero =>
      simp only [dropBytes?, Option.some.injEq, byteLength_eq_zero]
      exact ⟨fun h => ⟨[], h, rfl⟩, fun ⟨_, h, hp⟩ => by simpa [hp] using h⟩
    | succ n =>
      have hc := c.utf8Size_pos
      rw [dropBytes?]
      split
      · rename_i hle
        rw [ih]
        constructor
        · rintro ⟨pre, rfl, h⟩
          exact ⟨c :: pre, rfl, by rw [byteLength_cons]; omega⟩
        · rintro ⟨pre, heq, h⟩
          cases pre with
          | nil => cases h
          | cons d pre =>
            obtain ⟨rfl, rfl⟩ := List.cons.inj heq
            exact ⟨pre, rfl, by rw [byteLength_cons] at h; omega⟩
      · rename_i hlt
        simp only [reduceCtorEq, false_iff]
        rintro ⟨pre, heq, h⟩
        cases pre with
        | nil => cases h
        | cons d pre =>
          obtain ⟨rfl, rfl⟩ := List.cons.inj heq
          rw [byteLength_cons] at h
          omega

theorem takeBytes?_eq_some {cs pre : List Char} {n : Nat} :
    takeBytes? cs n = some pre ↔ ∃ post, cs = pre ++ post ∧ byteLength pre = n := by
  induction cs generalizing n pre with
  | nil =>
    cases n with
    | zero =>
      simp only [takeBytes?, Option.some.injEq, byteLength_eq_zero]
      exact ⟨fun h => ⟨[], by simp [← h], h.symm⟩, fun ⟨_, _, h⟩ => h.symm⟩
    | succ n =>
      simp only [takeBytes?, reduceCtorEq, List.nil_eq, List.append_eq_nil_iff, false_iff]
      rintro ⟨post, ⟨rfl, -⟩, h⟩
      cases h
  | cons c cs ih =>
    cases n with
    | zero =>
      simp only [takeBytes?, Option.some.injEq, byteLength_eq_zero]
      exact ⟨fun h => ⟨c :: cs, by simp [← h], h.symm⟩, fun ⟨_, _, h⟩ => h.symm⟩
    | succ n =>
      have hc := c.utf8Size_pos
      rw [takeBytes?]
      split
      · rename_i hle
        rw [Option.map_eq_some_iff]
        constructor
        · rintro ⟨pre, h, rfl⟩
          obtain ⟨post, rfl, h⟩ := ih.1 h
          exact ⟨post, rfl, by rw [byteLength_cons]; omega⟩
        · rintro ⟨post, heq, h⟩
          cases pre with
          | nil => cases h
          | cons d pre =>
            obtain ⟨rfl, rfl⟩ := List.cons.inj heq
            exact ⟨pre, ih.2 ⟨post, rfl, by rw [byteLength_cons] at h; omega⟩, rfl⟩
      · rename_i hlt
        simp only [reduceCtorEq, false_iff]
        rintro ⟨post, heq, h⟩
        cases pre with
        | nil => cases h
        | cons d pre =>
          obtain ⟨rfl, rfl⟩ := List.cons.inj heq
          rw [byteLength_cons] at h
          omega

/-- **A slice is the text between two boundaries.** -/
theorem slice?_eq_some {cs mid : List Char} {s : Span} :
    slice? cs s = some mid ↔
      ∃ pre post, cs = pre ++ mid ++ post ∧ byteLength pre = s.start ∧
        byteLength (pre ++ mid) = s.stop := by
  unfold slice?
  split
  · rename_i hle
    simp only [Option.bind_eq_some_iff, dropBytes?_eq_some, takeBytes?_eq_some, Span.length]
    constructor
    · rintro ⟨_, ⟨pre, rfl, hpre⟩, post, rfl, hmid⟩
      exact ⟨pre, post, by simp, hpre, by rw [byteLength_append]; omega⟩
    · rintro ⟨pre, post, rfl, hpre, hmid⟩
      rw [byteLength_append] at hmid
      exact ⟨mid ++ post, ⟨pre, by simp, hpre⟩, post, rfl, by omega⟩
  · rename_i hlt
    simp only [reduceCtorEq, false_iff]
    rintro ⟨pre, post, -, hpre, hmid⟩
    rw [byteLength_append] at hmid
    omega

/-- A text can be cut at a span exactly if the ends of the span are boundaries in order. -/
theorem isSome_slice?_iff {cs : List Char} {s : Span} :
    (slice? cs s).isSome ↔ s.start ≤ s.stop ∧ IsBoundary cs s.start ∧ IsBoundary cs s.stop := by
  rw [Option.isSome_iff_exists]
  constructor
  · rintro ⟨mid, h⟩
    obtain ⟨pre, post, rfl, hstart, hstop⟩ := slice?_eq_some.1 h
    rw [← hstart, ← hstop]
    refine ⟨by simp, ?_, isBoundary_prefix _ _⟩
    rw [List.append_assoc]
    exact isBoundary_prefix _ _
  · rintro ⟨hle, ⟨pre, rest, rfl, hpre⟩, upto, post, heq, hupto⟩
    obtain ⟨mid, rfl, rfl⟩ := prefix_of_byteLength_le heq (by omega)
    exact ⟨mid, slice?_eq_some.2 ⟨pre, post, by rw [List.append_assoc], hpre, hupto⟩⟩

/-- Every offset is a boundary where every character takes one byte. -/
theorem isBoundary_of_utf8Size_eq_one {cs : List Char} (hcs : ∀ c ∈ cs, c.utf8Size = 1) {n : Nat}
    (hn : n ≤ byteLength cs) : IsBoundary cs n := by
  induction cs generalizing n with
  | nil =>
    obtain rfl := Nat.le_zero.1 hn
    exact isBoundary_zero []
  | cons c cs ih =>
    cases n with
    | zero => exact isBoundary_zero _
    | succ n =>
      have hc := hcs c List.mem_cons_self
      rw [byteLength_cons, hc] at hn
      have hrest := (ih (fun d hd => hcs d (List.mem_cons_of_mem c hd)) (by omega : n ≤ byteLength cs)).append_left [c]
      rwa [byteLength_cons, byteLength_nil, hc, Nat.add_zero, Nat.add_comm] at hrest

/-! ## Bytes -/

/-- The UTF-8 form of a text. -/
def bytes (cs : List Char) : List UInt8 := cs.flatMap String.utf8EncodeChar

@[simp] theorem bytes_nil : bytes [] = [] := rfl

@[simp] theorem bytes_append (a b : List Char) : bytes (a ++ b) = bytes a ++ bytes b := by
  simp [bytes]

@[simp] theorem length_bytes (cs : List Char) : (bytes cs).length = byteLength cs := by
  induction cs with
  | nil => rfl
  | cons c cs ih =>
    rw [byteLength_cons, ← ih]
    simp [bytes]

end ProseLint.Text
