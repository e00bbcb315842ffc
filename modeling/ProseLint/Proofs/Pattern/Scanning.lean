/-
Readers of parts of a pattern do not look further than the part. What one answers on a text it answers
on the text with more after it, and leaves that over (`readBracket?_append`, `readEscape?_append`).
Where the text after the part counts, it starts with the character that ends a branch of a group.
-/
import Mathlib.Data.List.TakeWhile
import ProseLint.Pattern.Reader

namespace ProseLint.Pattern

/-- The characters that end a branch of a group. -/
inductive EndsBranch : Char → Prop
  | paren : EndsBranch ')'
  | bar : EndsBranch '|'

variable {f : Flags} {cs rest : List Char} {c z : Char}

/-- None of the signs that a reader looks ahead for ends a branch. -/
theorem EndsBranch.ne (hz : EndsBranch z) {d : Char} (hd : d ∈ ['?', '#', '&', '-', '~', '\x7b', ':', ']', '^']) :
    z ≠ d := by
  rintro rfl
  cases hz <;> simp at hd

/-! ## Blanks and digits -/

theorem EndsBranch.isBlank (hz : EndsBranch z) : Unicode.isBlank z = false := by cases hz <;> decide +kernel

theorem dropWhile_append_of_cons {p : Char → Bool} (h : cs.dropWhile p = c :: rest) (t : List Char) :
    (cs ++ t).dropWhile p = c :: (rest ++ t) := by
  rw [List.dropWhile_append, h]
  rfl

theorem takeWhile_append_of_cons {p : Char → Bool} (h : cs.dropWhile p = c :: rest) (t : List Char) :
    (cs ++ t).takeWhile p = cs.takeWhile p := by
  induction cs with
  | nil => cases h
  | cons d ds ih =>
    by_cases hd : p d = true
    · rw [List.dropWhile_cons_of_pos hd] at h
      rw [List.cons_append, List.takeWhile_cons_of_pos hd, List.takeWhile_cons_of_pos hd, ih h]
    · rw [List.cons_append, List.takeWhile_cons_of_neg hd, List.takeWhile_cons_of_neg hd]

theorem skipBlanks_append {b : Bool} (h : skipBlanks b cs = c :: rest) (t : List Char) :
    skipBlanks b (cs ++ t) = c :: (rest ++ t) := by
  fun_induction skipBlanks b cs with
  | case1 => cases h
  | case2 d ds ih =>
    simp only [List.cons_append, skipBlanks, ↓reduceIte]
    exact ih h
  | case3 b d ds hb hd ih =>
    simp only [List.cons_append, skipBlanks, hb, hd, Bool.false_eq_true, ↓reduceIte]
    exact ih h
  | case4 b ds hb hd ih =>
    simp only [List.cons_append, skipBlanks, hb, hd, Bool.false_eq_true, ↓reduceIte]
    exact ih h
  | case5 b d ds hb hd hsharp =>
    obtain ⟨rfl, rfl⟩ := List.cons.inj h
    simp only [List.cons_append, skipBlanks, hb, hd, hsharp, Bool.false_eq_true, ↓reduceIte]

theorem skip_append (h : f.skip cs = c :: rest) (t : List Char) : f.skip (cs ++ t) = c :: (rest ++ t) := by
  unfold Flags.skip at h ⊢
  by_cases hv : f.verbose = true
  · rw [if_pos hv] at h ⊢
    exact skipBlanks_append h t
  · rw [if_neg hv] at h ⊢
    rw [h]
    rfl

/-- A remark that nothing ends takes everything. -/
theorem skipBlanks_remark {t : List Char} (h : '\n' ∉ t) : skipBlanks true t = [] := by
  induction t with
  | nil => rfl
  | cons d ds ih =>
    have hd : d ≠ '\n' := fun he => h (by simp [he])
    simp only [skipBlanks, hd, ne_eq, not_false_eq_true, decide_true, ↓reduceIte]
    exact ih fun hm => h (List.mem_cons_of_mem _ hm)

theorem EndsBranch.skip (hz : EndsBranch z) (f : Flags) (t : List Char) : f.skip (z :: t) = z :: t := by
  unfold Flags.skip
  split
  · simp [skipBlanks, hz.isBlank, hz.ne]
  · rfl

/-- Where everything is skipped, the end of the branch is left over, or a remark has been left open. -/
theorem skipBlanks_eq_nil {b : Bool} (h : skipBlanks b cs = []) :
    (∀ z t, EndsBranch z → skipBlanks b (cs ++ z :: t) = z :: t) ∨
      ∀ z t, EndsBranch z → '\n' ∉ t → skipBlanks b (cs ++ z :: t) = [] := by
  fun_induction skipBlanks b cs with
  | case1 b =>
    cases b with
    | false => exact .inl fun z t hz => by simp [skipBlanks, hz.isBlank, hz.ne]
    | true =>
      refine .inr fun z t hz ht => skipBlanks_remark ?_
      rw [List.nil_append, List.mem_cons, not_or]
      exact ⟨by cases hz <;> decide, ht⟩
  | case2 d ds ih =>
    simp only [List.cons_append, skipBlanks, ↓reduceIte]
    exact ih h
  | case3 b d ds hb hd ih =>
    simp only [List.cons_append, skipBlanks, hb, hd, Bool.false_eq_true, ↓reduceIte]
    exact ih h
  | case4 b ds hb hd ih =>
    simp only [List.cons_append, skipBlanks, hb, hd, Bool.false_eq_true, ↓reduceIte]
    exact ih h
  | case5 => cases h

theorem skip_eq_nil (h : f.skip cs = []) :
    (∀ z t, EndsBranch z → f.skip (cs ++ z :: t) = z :: t) ∨
      ∀ z t, EndsBranch z → '\n' ∉ t → f.skip (cs ++ z :: t) = [] := by
  unfold Flags.skip at h ⊢
  by_cases hv : f.verbose = true
  · simp only [hv, ↓reduceIte] at h ⊢
    exact skipBlanks_eq_nil h
  · simp only [hv, Bool.false_eq_true, ↓reduceIte] at h ⊢
    subst h
    exact .inl fun _ _ _ => rfl

theorem readBraced?_append {verbose b : Bool} {word : List Char}
    (h : readBraced? verbose b cs = some (word, rest)) (t : List Char) :
    readBraced? verbose b (cs ++ t) = some (word, rest ++ t) := by
  fun_induction readBraced? verbose b cs generalizing word with
  | case1 => cases h
  | case2 d ds ih =>
    simp only [List.cons_append, readBraced?, ↓reduceIte]
    exact ih h
  | case3 b d ds hb hblank ih =>
    simp only [List.cons_append, readBraced?, hb, hblank, Bool.false_eq_true, ↓reduceIte]
    exact ih h
  | case4 b d ds hb hblank hsharp ih =>
    simp only [List.cons_append, readBraced?, hb, hblank, hsharp, Bool.false_eq_true, ↓reduceIte]
    exact ih h
  | case5 b ds hb hblank hsharp =>
    obtain ⟨rfl, rfl⟩ := Prod.mk.inj (Option.some.inj h)
    simp only [List.cons_append, readBraced?, hb, hblank, hsharp, Bool.false_eq_true, ↓reduceIte]
  | case6 b d ds hb hblank hsharp hd ih =>
    obtain ⟨⟨word', rest'⟩, hw, heq⟩ := Option.map_eq_some_iff.1 h
    obtain ⟨rfl, rfl⟩ := Prod.mk.inj heq
    simp only [List.cons_append, readBraced?, hb, hblank, hsharp, hd, Bool.false_eq_true, ↓reduceIte, ih hw]
    rfl

theorem readDigits_append {verbose b : Bool} {digits : List Char}
    (h : readDigits verbose b cs = (digits, c :: rest)) (t : List Char) :
    readDigits verbose b (cs ++ t) = (digits, c :: (rest ++ t)) := by
  fun_induction readDigits verbose b cs generalizing digits with
  | case1 => cases h
  | case2 d ds ih =>
    simp only [List.cons_append, readDigits, ↓reduceIte]
    exact ih h
  | case3 b d ds hb hdigit digits' rest' hread ih =>
    obtain ⟨rfl, rfl⟩ := Prod.mk.inj h
    simp only [List.cons_append, readDigits, hb, hdigit, Bool.false_eq_true, ↓reduceIte, ih hread]
  | case4 b d ds hb hdigit hblank ih =>
    simp only [List.cons_append, readDigits, hb, hdigit, hblank, Bool.false_eq_true, ↓reduceIte]
    exact ih h
  | case5 b d ds hb hdigit hblank hsharp ih =>
    simp only [List.cons_append, readDigits, hb, hdigit, hblank, hsharp, Bool.false_eq_true, ↓reduceIte]
    exact ih h
  | case6 b d ds hb hdigit hblank hsharp =>
    obtain ⟨rfl, heq⟩ := Prod.mk.inj h
    obtain ⟨rfl, rfl⟩ := List.cons.inj heq
    simp only [List.cons_append, readDigits, hb, hdigit, hblank, hsharp, Bool.false_eq_true, ↓reduceIte]

theorem skip_nil (f : Flags) : f.skip [] = [] := by
  unfold Flags.skip
  split <;> rfl

theorem exists_of_readCount? {n : Nat} (h : readCount? f cs = some (n, rest)) : ∃ d ds, cs = d :: ds := by
  cases cs with
  | nil => simp [readCount?, readDigits] at h
  | cons d ds => exact ⟨d, ds, rfl⟩

theorem readCount?_append {n : Nat} (h : readCount? f cs = some (n, c :: rest)) (t : List Char) :
    readCount? f (cs ++ t) = some (n, c :: (rest ++ t)) := by
  unfold readCount? at h ⊢
  obtain ⟨⟨digits, more⟩, hread⟩ : ∃ x, readDigits f.verbose false (cs.dropWhile Unicode.isBlank) = x := ⟨_, rfl⟩
  simp only [hread] at h
  split at h
  · cases h
  · rename_i hdigits
    obtain ⟨rfl, hskip⟩ := Prod.mk.inj (Option.some.inj h)
    obtain ⟨d, ds, hmore⟩ : ∃ d ds, more.dropWhile Unicode.isBlank = d :: ds := by
      cases hd : more.dropWhile Unicode.isBlank with
      | nil => simp [hd, skip_nil] at hskip
      | cons d ds => exact ⟨d, ds, rfl⟩
    obtain ⟨e, es, rfl⟩ : ∃ e es, more = e :: es := by
      cases more with
      | nil => cases hmore
      | cons e es => exact ⟨e, es, rfl⟩
    obtain ⟨x, xs, hcs⟩ : ∃ x xs, cs.dropWhile Unicode.isBlank = x :: xs := by
      cases hx : cs.dropWhile Unicode.isBlank with
      | nil => simp [hx, readDigits] at hread
      | cons x xs => exact ⟨x, xs, rfl⟩
    rw [hcs] at hread
    rw [hmore] at hskip
    rw [dropWhile_append_of_cons hcs, ← List.cons_append, readDigits_append hread]
    simp only [← @List.cons_append _ _ es]
    rw [if_neg hdigits, dropWhile_append_of_cons hmore, ← List.cons_append, skip_append hskip]

/-- A count is followed by the rest of what was skipped to, with more after it. -/
theorem readCount?_skip_append {n : Nat} (h : readCount? f (f.skip cs) = some (n, c :: rest)) (t : List Char) :
    readCount? f (f.skip (cs ++ t)) = some (n, c :: (rest ++ t)) := by
  obtain ⟨d, ds, hskip⟩ := exists_of_readCount? h
  rw [hskip] at h
  rw [skip_append hskip, ← List.cons_append, readCount?_append h]

theorem readCounts?_append {least : Nat} {most : Option Nat}
    (h : Reader.readCounts? f cs = some (least, most, rest)) (t : List Char) :
    Reader.readCounts? f (cs ++ t) = some (least, most, rest ++ t) := by
  unfold Reader.readCounts? at h ⊢
  simp only [Option.bind_eq_bind] at h ⊢
  obtain ⟨⟨n, more⟩, hcount, h⟩ := Option.bind_eq_some_iff.1 h
  simp only at h
  split at h
  · rename_i more
    rw [readCount?_skip_append hcount]
    simp only [Option.bind_some]
    split at h
    · rename_i last hskip
      rw [skip_append hskip]
      simp only [Option.bind_some] at h ⊢
      split at h
      · obtain ⟨rfl, rfl, rfl⟩ := by simpa using h
        rfl
      · cases h
    · rename_i hbrace
      obtain ⟨⟨m, last⟩, hm, h⟩ := Option.bind_eq_some_iff.1 h
      obtain ⟨⟨k, last'⟩, hk, heq⟩ := Option.map_eq_some_iff.1 hm
      obtain ⟨rfl, rfl⟩ := Prod.mk.inj heq
      simp only at h
      split at h
      · rename_i last
        split at h
        · rename_i hall
          obtain ⟨rfl, rfl, rfl⟩ := by simpa using h
          obtain ⟨d, ds, hskip⟩ := exists_of_readCount? hk
          have hk' := readCount?_skip_append hk t
          rw [skip_append hskip] at hk' ⊢
          split
          · rename_i hd
            exact absurd (hskip.trans (congrArg (· :: ds) (List.cons.inj hd).1)) (hbrace ds)
          · simp [hk', hall]
        · cases h
      · cases h
  · rename_i hcomma
    simp only [Option.bind_some] at h
    split at h
    · rename_i more
      split at h
      · rename_i hall
        obtain ⟨rfl, rfl, rfl⟩ := by simpa using h
        rw [readCount?_skip_append hcount]
        simp
      · cases h
    · cases h

theorem readLetters?_append {seen : List Char} {off lone any colon : Bool} {g : Flags}
    (h : f.readLetters? seen off lone cs = some (g, any, colon, rest)) (t : List Char) :
    f.readLetters? seen off lone (cs ++ t) = some (g, any, colon, rest ++ t) := by
  induction cs generalizing f seen off lone with
  | nil => cases h
  | cons d ds ih =>
    rw [Flags.readLetters?] at h
    rw [List.cons_append, Flags.readLetters?]
    by_cases hend : d = ':' ∨ d = ')'
    · rw [if_pos hend] at h ⊢
      cases lone with
      | true => cases h
      | false =>
        simp only [Bool.false_eq_true, if_false, Option.some.injEq, Prod.mk.injEq] at h ⊢
        obtain ⟨rfl, rfl, rfl, rfl⟩ := h
        exact ⟨rfl, rfl, rfl, rfl⟩
    · rw [if_neg hend] at h ⊢
      by_cases hhyphen : d = '-'
      · rw [if_pos hhyphen] at h ⊢
        cases off with
        | true => cases h
        | false => exact ih h
      · rw [if_neg hhyphen] at h ⊢
        by_cases hseen : seen.contains d = true
        · rw [if_pos hseen] at h
          cases h
        · rw [if_neg hseen] at h ⊢
          cases hswitch : f.switch? (!off) d with
          | none => simp [hswitch] at h
          | some g' =>
            simp only [hswitch] at h ⊢
            exact ih h

/-! ## Escapes -/

theorem readHexDigits?_append {n : Nat} {word : List Char} (h : readHexDigits? f n cs = some (word, rest))
    (t : List Char) : readHexDigits? f n (cs ++ t) = some (word, rest ++ t) := by
  induction n generalizing cs word with
  | zero =>
    obtain ⟨rfl, rfl⟩ := Prod.mk.inj (Option.some.inj h)
    rfl
  | succ n ih =>
    rw [readHexDigits?] at h ⊢
    cases hskip : f.skip cs with
    | nil => simp [hskip] at h
    | cons d ds =>
      rw [skip_append hskip]
      simp only [hskip] at h ⊢
      by_cases hd : (Text.hexDigit? d).isSome = true
      · rw [if_pos hd] at h ⊢
        obtain ⟨⟨word', rest'⟩, hw, heq⟩ := Option.map_eq_some_iff.1 h
        obtain ⟨rfl, rfl⟩ := Prod.mk.inj heq
        rw [ih hw]
        rfl
      · rw [if_neg hd] at h
        cases h

theorem readCodePoint?_append {n : Nat} (hn : n ≠ 0) {d : Char} (h : readCodePoint? f n cs = some (d, rest))
    (t : List Char) : readCodePoint? f n (cs ++ t) = some (d, rest ++ t) := by
  unfold readCodePoint? at h ⊢
  cases hskip : f.skip cs with
  | nil =>
    obtain ⟨n, rfl⟩ := Nat.exists_eq_succ_of_ne_zero hn
    simp [hskip, readHexDigits?, skip_nil] at h
  | cons e es =>
    rw [skip_append hskip]
    simp only [hskip, Option.bind_eq_bind] at h ⊢
    split at h
    · rename_i heq
      obtain ⟨rfl, rfl⟩ := List.cons.inj heq
      obtain ⟨⟨word, more⟩, hword, h⟩ := Option.bind_eq_some_iff.1 h
      simp only [readBraced?_append hword, Option.bind_some]
      simp only at h
      split at h
      · cases h
      · rename_i hdigits
        rw [if_neg hdigits]
        obtain ⟨c, hc, h⟩ := Option.bind_eq_some_iff.1 h
        obtain ⟨rfl, rfl⟩ := Prod.mk.inj (Option.some.inj h)
        rw [hc]
        rfl
    · rename_i hbrace
      split
      · rename_i heq
        exact absurd (congrArg (· :: es) (List.cons.inj heq).1) (hbrace es)
      · obtain ⟨⟨word, more⟩, hword, h⟩ := Option.bind_eq_some_iff.1 h
        obtain ⟨c, hc, h⟩ := Option.bind_eq_some_iff.1 h
        simp only at h
        split at h
        · cases h
        · rename_i hbyte
          obtain ⟨rfl, rfl⟩ := Prod.mk.inj (Option.some.inj h)
          simp only [← List.cons_append, readHexDigits?_append hword, Option.bind_some, hc, if_neg hbyte]
          rfl

/-- The inside of `\p{…}`, or the one character that stands for it. -/
def readWord? (f : Flags) (cs : List Char) : Option (List Char × List Char) :=
  match f.skip cs with
  | [] => none
  | '{' :: cs => readBraced? f.verbose false cs
  | c :: cs => if c = '\\' then none else some ([c], cs)

/-- The set that the inside of `\p{…}` asks for. -/
def propertySet? (f : Flags) (negated : Bool) (word : List Char) : Option CharSet :=
  (propertyTables? word).bind fun x => f.negate? (negated != x.2) (f.fold (.ofTables x.1))

theorem readProperty?_eq (f : Flags) (negated : Bool) (cs : List Char) : readProperty? f negated cs =
    if !f.unicode then none else (readWord? f cs).bind fun w => (propertySet? f negated w.1).map (·, w.2) := by
  have hset : ∀ w : List Char × List Char, ((propertyTables? w.1).bind fun x =>
      (f.negate? (negated != x.2) (f.fold (.ofTables x.1))).bind fun s => some (s, w.2)) =
      (propertySet? f negated w.1).map (·, w.2) := by
    intro w
    rw [propertySet?, Option.map_bind]
    refine Option.bind_congr fun x _ => ?_
    rw [Function.comp_apply, Option.map_eq_bind]
    rfl
  unfold readProperty? readWord?
  split
  · rfl
  · simp only [Option.bind_eq_bind, Option.pure_def]
    generalize f.skip cs = x
    split
    · rfl
    · exact Option.bind_congr fun w _ => hset w
    · rename_i c cs hbrace
      by_cases hslash : c = '\\'
      · simp [hslash]
      · simp only [hslash, if_false]
        exact hset _

theorem readWord?_append {word : List Char} (h : readWord? f cs = some (word, rest)) (t : List Char) :
    readWord? f (cs ++ t) = some (word, rest ++ t) := by
  unfold readWord? at h ⊢
  cases hskip : f.skip cs with
  | nil => simp [hskip] at h
  | cons d ds =>
    rw [skip_append hskip]
    rw [hskip] at h
    split at h
    · cases h
    · rename_i heq
      obtain ⟨rfl, rfl⟩ := List.cons.inj heq
      exact readBraced?_append h t
    · rename_i hbrace heq
      obtain ⟨rfl, rfl⟩ := List.cons.inj heq
      split at h
      · cases h
      · rename_i hslash
        obtain ⟨rfl, rfl⟩ := Prod.mk.inj (Option.some.inj h)
        simp [hslash]

theorem readProperty?_append {negated : Bool} {s : CharSet} (h : readProperty? f negated cs = some (s, rest))
    (t : List Char) : readProperty? f negated (cs ++ t) = some (s, rest ++ t) := by
  rw [readProperty?_eq] at h ⊢
  split at h
  · cases h
  · rename_i hunicode
    obtain ⟨⟨word, more⟩, hword, h⟩ := Option.bind_eq_some_iff.1 h
    obtain ⟨s, hs, heq⟩ := Option.map_eq_some_iff.1 h
    obtain ⟨rfl, rfl⟩ := Prod.mk.inj heq
    rw [if_neg hunicode, readWord?_append hword, Option.bind_some]
    simp only [hs, Option.map_some]

theorem readBoundary?_append {edge : WordEdge} (h : readBoundary? f cs = some (edge, rest)) (hz : EndsBranch z)
    (t : List Char) : readBoundary? f (cs ++ z :: t) = some (edge, rest ++ z :: t) := by
  unfold readBoundary? at h ⊢
  split at h
  · rename_i inside
    cases hskip : f.skip inside with
    | nil => simp [hskip] at h
    | cons d ds =>
      rw [List.cons_append]
      simp only [skip_append hskip]
      simp only [hskip, Option.bind_eq_bind] at h ⊢
      split at h
      · rename_i hletter
        rw [if_pos hletter]
        obtain ⟨⟨word, more⟩, hword, h⟩ := Option.bind_eq_some_iff.1 h
        obtain ⟨e, he, h⟩ := Option.bind_eq_some_iff.1 h
        obtain ⟨rfl, rfl⟩ := Prod.mk.inj (Option.some.inj h)
        rw [readBraced?_append hword, Option.bind_some, he]
        rfl
      · rename_i hletter
        rw [if_neg hletter]
        obtain ⟨rfl, rfl⟩ := Prod.mk.inj (Option.some.inj h)
        rfl
  · rename_i hbrace
    obtain ⟨rfl, rfl⟩ := Prod.mk.inj (Option.some.inj h)
    split
    · rename_i inside heq
      cases cs with
      | nil => exact absurd (List.cons.inj heq).1 (hz.ne (by decide))
      | cons d ds => exact absurd (congrArg (· :: ds) (List.cons.inj heq).1) (hbrace ds)
    · rfl

/-- An escape that has been read is read the same with more after it. -/
theorem readEscape?_append {atom : Atom} (h : readEscape? f cs = some (atom, rest)) (hz : EndsBranch z)
    (t : List Char) : readEscape? f (cs ++ z :: t) = some (atom, rest ++ z :: t) := by
  cases cs with
  | nil => cases h
  | cons c cs =>
    rw [List.cons_append]
    unfold readEscape? at h ⊢
    simp only at h ⊢
    split at h
    case h_1 | h_2 | h_3 =>
      obtain ⟨⟨d, more⟩, hd, heq⟩ := Option.map_eq_some_iff.1 h
      obtain ⟨rfl, rfl⟩ := Prod.mk.inj heq
      simp [readCodePoint?_append _ hd]
    case h_4 | h_5 =>
      obtain ⟨⟨s, more⟩, hs, heq⟩ := Option.map_eq_some_iff.1 h
      obtain ⟨rfl, rfl⟩ := Prod.mk.inj heq
      simp [readProperty?_append hs]
    case h_9 | h_10 | h_11 =>
      obtain ⟨s, hs, heq⟩ := Option.map_eq_some_iff.1 h
      obtain ⟨rfl, rfl⟩ := Prod.mk.inj heq
      simp only [hs, Option.map_some]
    case h_20 =>
      obtain ⟨⟨edge, more⟩, hedge, heq⟩ := Option.map_eq_some_iff.1 h
      obtain ⟨rfl, rfl⟩ := Prod.mk.inj heq
      simp [readBoundary?_append hedge hz]
    case h_24 =>
      split at h
      · rename_i hself
        obtain ⟨rfl, rfl⟩ := Prod.mk.inj (Option.some.inj h)
        simp only [hself, if_true]
      · cases h
    all_goals
      obtain ⟨rfl, rfl⟩ := Prod.mk.inj (Option.some.inj h)
      rfl

/-! ## Sets in brackets -/

/-- A character of the pattern, or what is escaped. -/
def readAtom? (f : Flags) (c : Char) (cs : List Char) : Option (Atom × List Char) :=
  if c = '\\' then readEscape? f cs else some (.char c, cs)

/-- Whether an atom can stand in a set. -/
def Atom.fitsSet (f : Flags) : Atom → Bool
  | char c => f.unicode || c.toNat < 0x80
  | set _ => true
  | assert _ => false

theorem readMember?_eq (f : Flags) (c : Char) (cs : List Char) :
    readMember? f (c :: cs) = (readAtom? f c cs).filter (·.1.fitsSet f) := by
  have hchar : ∀ (d : Char) (more : List Char),
      (if (!f.unicode) = true ∧ 0x80 ≤ d.toNat then none else some (Atom.char d, more)) =
        (some (Atom.char d, more)).filter (·.1.fitsSet f) := by
    intro d more
    cases hu : f.unicode <;> by_cases hd : 0x80 ≤ d.toNat <;> simp [Option.filter, Atom.fitsSet, hu, hd]
  unfold readMember? readAtom?
  simp only [Option.bind_eq_bind, Option.pure_def]
  split
  · cases readEscape? f cs with
    | none => rfl
    | some x =>
      obtain ⟨a, more⟩ := x
      cases a with
      | char d => exact hchar d more
      | set s => rfl
      | assert a => rfl
  · exact hchar c cs

theorem readAtom?_append {atom : Atom} (h : readAtom? f c cs = some (atom, rest)) (hz : EndsBranch z)
    (t : List Char) : readAtom? f c (cs ++ z :: t) = some (atom, rest ++ z :: t) := by
  unfold readAtom? at h ⊢
  split at h
  · rename_i hc
    rw [if_pos hc, readEscape?_append h hz]
  · rename_i hc
    obtain ⟨rfl, rfl⟩ := Prod.mk.inj (Option.some.inj h)
    rw [if_neg hc]

theorem readMember?_append {atom : Atom} (h : readMember? f cs = some (atom, rest)) (hz : EndsBranch z)
    (t : List Char) : readMember? f (cs ++ z :: t) = some (atom, rest ++ z :: t) := by
  cases cs with
  | nil => cases h
  | cons c cs =>
    rw [readMember?_eq, Option.filter_eq_some_iff] at h
    rw [List.cons_append, readMember?_eq, Option.filter_eq_some_iff]
    exact ⟨readAtom?_append h.1 hz t, h.2⟩

theorem peek_append (h : f.peek cs = some c) (t : List Char) : f.peek (cs ++ t) = some c := by
  have hhead : ∀ {ds : List Char}, ds.head? = some c → (ds ++ t).head? = some c := by
    intro ds hds
    rw [List.head?_append, hds, Option.some_or]
  unfold Flags.peek at h ⊢
  by_cases hv : f.verbose = true
  · simp only [hv, if_true] at h ⊢
    cases hd : cs.dropWhile Unicode.isBlank with
    | nil => simp [hd] at h
    | cons d ds =>
      rw [dropWhile_append_of_cons hd]
      rw [hd] at h
      split at h
      · rename_i heq
        obtain ⟨rfl, rfl⟩ := List.cons.inj heq
        simp only
        cases he : ds.dropWhile Unicode.isBlank with
        | nil => simp [he] at h
        | cons e es =>
          rw [dropWhile_append_of_cons he]
          rw [he] at h
          exact h
      · rename_i hsharp
        simp_all
  · simp only [hv, Bool.false_eq_true, if_false] at h ⊢
    exact hhead h

theorem skipBlanks_blanks {b : Bool} (h : ∀ d ∈ cs, Unicode.isBlank d = true) : skipBlanks b cs = [] := by
  induction cs generalizing b with
  | nil => rfl
  | cons d ds ih =>
    have hds : ∀ e ∈ ds, Unicode.isBlank e = true := fun e he => h e (List.mem_cons_of_mem _ he)
    cases b with
    | true =>
      simp only [skipBlanks, if_true]
      exact ih hds
    | false =>
      simp only [skipBlanks, Bool.false_eq_true, if_false, h d (by simp), if_true]
      exact ih hds

theorem skipBlanks_dropWhile (cs : List Char) :
    skipBlanks false (cs.dropWhile Unicode.isBlank) = skipBlanks false cs := by
  induction cs with
  | nil => rfl
  | cons d ds ih =>
    by_cases hd : Unicode.isBlank d = true
    · rw [List.dropWhile_cons_of_pos hd, ih]
      simp [skipBlanks, hd]
    · rw [List.dropWhile_cons_of_neg hd]

/-- Where a hyphen sees nothing ahead, nothing is left over. -/
theorem skip_of_peek (h : f.peek cs = none) : f.skip cs = [] := by
  unfold Flags.peek at h
  unfold Flags.skip
  by_cases hv : f.verbose = true
  · simp only [hv, if_true] at h ⊢
    rw [← skipBlanks_dropWhile]
    split at h
    · rename_i ds heq
      rw [List.head?_eq_none_iff] at h
      rw [heq]
      have hsharp : Unicode.isBlank '#' = false := by decide +kernel
      simp only [skipBlanks, hsharp, Bool.false_eq_true, if_false, if_true]
      exact skipBlanks_blanks (List.dropWhile_eq_nil_iff.1 h)
    · rw [List.head?_eq_none_iff] at h
      rw [h]
      rfl
  · simp only [hv, Bool.false_eq_true, if_false, List.head?_eq_none_iff] at h ⊢
    exact h

/-- The set of an atom that stands alone. -/
def Atom.alone? : Atom → Option CharSet
  | char c => some (.single c)
  | set s => some s
  | assert _ => none

/-- The range between two atoms. -/
def Atom.range? : Atom → Atom → Option CharSet
  | char a, char b => if a ≤ b then some (.range a b) else none
  | _, _ => none

/-- What follows the first atom of a member. -/
def readRangeEnd? (f : Flags) (first : Atom) : List Char → Option (CharSet × List Char)
  | [] => none
  | '-' :: more =>
    if f.peek more = some ']' ∨ f.peek more = some '-' then first.alone?.map (·, '-' :: more)
    else (readMember? f (f.skip more)).bind fun x => (first.range? x.1).map (·, x.2)
  | c :: more => first.alone?.map (·, c :: more)

theorem readRange?_eq (f : Flags) (cs : List Char) :
    readRange? f cs = (readMember? f cs).bind fun x => readRangeEnd? f x.1 (f.skip x.2) := by
  unfold readRange?
  simp only [Option.bind_eq_bind, Option.pure_def]
  refine Option.bind_congr fun x _ => ?_
  obtain ⟨first, more⟩ := x
  simp only
  generalize f.skip more = rest
  unfold readRangeEnd?
  split
  · rfl
  · rename_i more
    simp only
    by_cases hnext : f.peek more = some ']' ∨ f.peek more = some '-'
    · rw [if_pos hnext, if_pos hnext]
      cases first <;> rfl
    · rw [if_neg hnext, if_neg hnext]
      refine Option.bind_congr fun y _ => ?_
      obtain ⟨last, rest⟩ := y
      cases first <;> cases last <;> try rfl
      simp only [Atom.range?]
      split <;> rfl
  · rename_i hnil hhyphen
    cases rest with
    | nil => exact absurd rfl hnil
    | cons c more =>
      have hc : c = '-' → False := fun hc => hhyphen more (by rw [hc])
      cases first <;> simp [Atom.alone?]

/-- Some character follows the first atom of a member. -/
theorem exists_of_readRangeEnd? {first : Atom} {s : CharSet} (h : readRangeEnd? f first cs = some (s, rest)) :
    ∃ d ds, cs = d :: ds := by
  cases cs with
  | nil => cases h
  | cons d ds => exact ⟨d, ds, rfl⟩

theorem readRangeEnd?_append {first : Atom} {s : CharSet} (h : readRangeEnd? f first cs = some (s, rest))
    (hz : EndsBranch z) (t : List Char) :
    readRangeEnd? f first (cs ++ z :: t) = some (s, rest ++ z :: t) := by
  unfold readRangeEnd? at h ⊢
  split at h
  · cases h
  · rename_i more
    simp only [List.cons_append]
    have hpeek : ∀ d, f.peek more = some d → f.peek (more ++ z :: t) = some d := fun d hd => peek_append hd _
    split at h
    · rename_i hnext
      obtain ⟨s, hs, heq⟩ := Option.map_eq_some_iff.1 h
      obtain ⟨rfl, rfl⟩ := Prod.mk.inj heq
      rw [if_pos (hnext.imp (hpeek _) (hpeek _)), hs]
      rfl
    · rename_i hnext
      obtain ⟨⟨last, rest⟩, hlast, h⟩ := Option.bind_eq_some_iff.1 h
      obtain ⟨s, hs, heq⟩ := Option.map_eq_some_iff.1 h
      obtain ⟨rfl, rfl⟩ := Prod.mk.inj heq
      cases hp : f.peek more with
      | none =>
        rw [skip_of_peek hp] at hlast
        cases hlast
      | some d =>
        cases hskip : f.skip more with
        | nil =>
          rw [hskip] at hlast
          cases hlast
        | cons e es =>
          rw [hskip] at hlast
          rw [hpeek d hp, ← hp, if_neg hnext, skip_append hskip, ← List.cons_append, readMember?_append hlast hz,
            Option.bind_some, hs]
          rfl
  · rename_i c more hhyphen
    obtain ⟨s, hs, heq⟩ := Option.map_eq_some_iff.1 h
    obtain ⟨rfl, rfl⟩ := Prod.mk.inj heq
    rw [List.cons_append]
    simp [hs]

theorem readRange?_append {s : CharSet} (h : readRange? f cs = some (s, rest)) (hz : EndsBranch z) (t : List Char) :
    readRange? f (cs ++ z :: t) = some (s, rest ++ z :: t) := by
  rw [readRange?_eq] at h ⊢
  obtain ⟨⟨first, more⟩, hfirst, h⟩ := Option.bind_eq_some_iff.1 h
  obtain ⟨d, ds, hskip⟩ := exists_of_readRangeEnd? h
  rw [hskip] at h
  rw [readMember?_append hfirst hz, Option.bind_some, skip_append hskip, ← List.cons_append,
    readRangeEnd?_append h hz]

/-- What ends a branch does not stand in the name of a class. -/
theorem EndsBranch.not_mem (hz : EndsBranch z) {name : List Char} {s : CharSet} (h : namedClass? name = some s) :
    z ∉ name := by
  unfold namedClass? at h
  intro hmem
  rw [← String.toList_ofList (l := name)] at hmem
  split at h
  case h_15 => cases h
  all_goals
    rename_i heq
    rw [heq] at hmem
    revert hmem
    cases hz <;> decide +kernel

theorem EndsBranch.mem_takeWhile (hz : EndsBranch z) (t : List Char) (h : ∀ d ∈ cs, d ≠ ':') :
    z ∈ (cs ++ z :: t).takeWhile (· ≠ ':') := by
  have hcolon : z ≠ ':' := hz.ne (by decide)
  rw [List.takeWhile_append_of_pos (by simpa using h), List.takeWhile_cons_of_pos (by simpa using hcolon)]
  simp

/-- The rest of a named class, from its name on. -/
def readClassName? (f : Flags) (negated : Bool) (cs : List Char) : Option (Option CharSet × List Char) :=
  match cs.dropWhile (· ≠ ':') with
  | ':' :: ']' :: rest =>
    (namedClass? (cs.takeWhile (· ≠ ':'))).map fun s => (f.negate? negated (f.fold s), rest)
  | _ => none

theorem readNamedClass?_colon (f : Flags) (cs : List Char) : readNamedClass? f (':' :: cs) =
    if cs.head? = some '^' then readClassName? f true cs.tail else readClassName? f false cs := by
  cases cs with
  | nil => rfl
  | cons d ds =>
    by_cases hd : d = '^'
    · subst hd
      rfl
    · rw [if_neg (by simpa using hd)]
      unfold readNamedClass?
      split
      · rename_i heq
        obtain ⟨-, rfl⟩ := List.cons.inj heq
        split
        rename_i hcaret
        split at hcaret
        · rename_i heq
          exact absurd (List.cons.inj heq).1 hd
        · obtain ⟨rfl, rfl⟩ := Prod.mk.inj hcaret
          rfl
      · rename_i hne
        exact absurd rfl (hne _)

theorem readNamedClass?_of_ne {c : Char} (h : c ≠ ':') (f : Flags) (cs : List Char) :
    readNamedClass? f (c :: cs) = none := by
  unfold readNamedClass?
  split
  · rename_i heq
    exact absurd (List.cons.inj heq).1 h
  · rfl

theorem readClassName?_append (f : Flags) (negated : Bool) (hz : EndsBranch z) (cs t : List Char) :
    readClassName? f negated (cs ++ z :: t) = (readClassName? f negated cs).map fun x => (x.1, x.2 ++ z :: t) := by
  cases hname : cs.dropWhile (· ≠ ':') with
  | nil =>
    have hnone : namedClass? ((cs ++ z :: t).takeWhile (· ≠ ':')) = none := by
      rw [Option.eq_none_iff_forall_not_mem]
      intro s hs
      exact hz.not_mem hs (hz.mem_takeWhile t (by simpa using List.dropWhile_eq_nil_iff.1 hname))
    unfold readClassName?
    rw [hname, hnone]
    split <;> rfl
  | cons d ds =>
    unfold readClassName?
    rw [hname, dropWhile_append_of_cons hname, takeWhile_append_of_cons hname]
    cases ds with
    | nil =>
      split
      · rename_i heq
        exact absurd (List.cons.inj (List.cons.inj heq).2).1 (hz.ne (by decide))
      · simp
    | cons e es =>
      by_cases hde : d = ':' ∧ e = ']'
      · obtain ⟨rfl, rfl⟩ := hde
        simp only [List.cons_append]
        cases namedClass? (cs.takeWhile (· ≠ ':')) <;> rfl
      · have hleft : ∀ rest, d :: (e :: es ++ z :: t) ≠ ':' :: ']' :: rest := by
          intro rest heq
          simp only [List.cons_append, List.cons.injEq] at heq
          exact hde ⟨heq.1, heq.2.1⟩
        have hright : ∀ rest, d :: e :: es ≠ ':' :: ']' :: rest := by
          intro rest heq
          simp only [List.cons.injEq] at heq
          exact hde ⟨heq.1, heq.2.1⟩
        split
        · rename_i heq
          exact absurd heq (hleft _)
        · rfl

/-- What `[` opens is a named class with more after it just when it is one without. -/
theorem readNamedClass?_append (f : Flags) (hz : EndsBranch z) (cs t : List Char) :
    readNamedClass? f (cs ++ z :: t) = (readNamedClass? f cs).map fun x => (x.1, x.2 ++ z :: t) := by
  cases cs with
  | nil => cases hz <;> rfl
  | cons c cs =>
    rw [List.cons_append]
    by_cases hc : c = ':'
    · subst hc
      rw [readNamedClass?_colon, readNamedClass?_colon]
      cases cs with
      | nil =>
        have hcaret : z ≠ '^' := hz.ne (by decide)
        simpa [hcaret] using readClassName?_append f false hz [] t
      | cons d ds =>
        by_cases hd : d = '^'
        · subst hd
          exact readClassName?_append f true hz ds t
        · rw [if_neg (by simpa using hd), if_neg (by simpa using hd)]
          exact readClassName?_append f false hz (d :: ds) t
    · rw [readNamedClass?_of_ne hc, readNamedClass?_of_ne hc]
      rfl

theorem leadingHyphens_append {verbose b : Bool} {n : Nat} (h : leadingHyphens verbose b cs = (n, c :: rest))
    (t : List Char) : leadingHyphens verbose b (cs ++ t) = (n, c :: (rest ++ t)) := by
  fun_induction leadingHyphens verbose b cs generalizing n with
  | case1 => cases h
  | case2 d ds ih =>
    simp only [List.cons_append, leadingHyphens, ↓reduceIte]
    exact ih h
  | case3 b ds hb n' rest' hread ih =>
    obtain ⟨rfl, rfl⟩ := Prod.mk.inj h
    simp only [List.cons_append, leadingHyphens, hb, Bool.false_eq_true, ↓reduceIte, ih hread]
  | case4 b d ds hb hhyphen hblank ih =>
    simp only [List.cons_append, leadingHyphens, hb, hhyphen, hblank, Bool.false_eq_true, ↓reduceIte]
    exact ih h
  | case5 b d ds hb hhyphen hblank hsharp ih =>
    simp only [List.cons_append, leadingHyphens, hb, hhyphen, hblank, hsharp, Bool.false_eq_true, ↓reduceIte]
    exact ih h
  | case6 b d ds hb hhyphen hblank hsharp =>
    obtain ⟨rfl, heq⟩ := Prod.mk.inj h
    obtain ⟨rfl, rfl⟩ := List.cons.inj heq
    simp only [List.cons_append, leadingHyphens, hb, hhyphen, hblank, hsharp, Bool.false_eq_true, ↓reduceIte]

/-- What follows an opening bracket and perhaps `^`. -/
def openMembers (f : Flags) (negated : Bool) (cs : List Char) : Bool × Members × List Char :=
  let (hyphens, cs) := leadingHyphens f.verbose false cs
  let members := (List.replicate hyphens '-').foldl (fun m c => m.add (.single c) 0) .none
  match hyphens, cs with
  | 0, ']' :: cs => (negated, members.add (.single ']') 0, f.skip cs)
  | _, cs => (negated, members, cs)

theorem openBracket_eq (f : Flags) (cs : List Char) : openBracket f cs =
    if (f.skip cs).head? = some '^' then openMembers f true (f.skip (f.skip cs).tail)
    else openMembers f false (f.skip cs) := by
  unfold openBracket
  cases hskip : f.skip cs with
  | nil => rfl
  | cons d ds =>
    by_cases hd : d = '^'
    · subst hd
      rfl
    · simp [hd]
      rfl

theorem openMembers_append {negated negated' : Bool} {m : Members}
    (h : openMembers f negated cs = (negated', m, c :: rest)) (t : List Char) :
    openMembers f negated (cs ++ t) = (negated', m, c :: (rest ++ t)) := by
  unfold openMembers at h ⊢
  obtain ⟨n, more, hread⟩ : ∃ n more, leadingHyphens f.verbose false cs = (n, more) := ⟨_, _, rfl⟩
  rw [hread] at h
  cases more with
  | nil => simp at h
  | cons d ds =>
    rw [leadingHyphens_append hread]
    simp only at h ⊢
    split at h
    · rename_i heq
      obtain ⟨rfl, rfl⟩ := List.cons.inj heq
      simp only [Prod.mk.injEq] at h ⊢
      exact ⟨h.1, h.2.1, skip_append h.2.2 t⟩
    · rename_i hfirst
      simp only [Prod.mk.injEq, List.cons.injEq] at h
      obtain ⟨rfl, rfl, rfl, rfl⟩ := h
      split
      · rename_i heq
        exact absurd (congrArg (· :: ds) (List.cons.inj heq).1) (hfirst ds rfl)
      · rfl

theorem openBracket_append {negated : Bool} {m : Members} (h : openBracket f cs = (negated, m, c :: rest))
    (t : List Char) : openBracket f (cs ++ t) = (negated, m, c :: (rest ++ t)) := by
  rw [openBracket_eq] at h ⊢
  have hnil : ∀ b, openMembers f b [] = (b, .none, []) := fun _ => rfl
  cases hskip : f.skip cs with
  | nil => simp [hskip, hnil] at h
  | cons d ds =>
    rw [skip_append hskip]
    rw [hskip] at h
    split at h
    · rename_i hd
      rw [if_pos (by simpa using hd)]
      cases hskip' : f.skip ds with
      | nil => simp [hskip', hnil] at h
      | cons e es =>
        rw [List.tail_cons, hskip'] at h
        rw [List.tail_cons, skip_append hskip', ← List.cons_append, openMembers_append h]
    · rename_i hd
      rw [if_neg (by simpa using hd), ← List.cons_append, openMembers_append h]

theorem exists_of_readMembers? {steps : Nat} {pending : List Pending} {m : Members} {x : CharSet × Nat × List Char}
    (h : readMembers? f steps pending m cs = some x) : ∃ d ds, cs = d :: ds := by
  cases cs with
  | nil =>
    cases steps with
    | zero => cases h
    | succ steps => simp [readMembers?, skip_nil] at h
  | cons d ds => exact ⟨d, ds, rfl⟩

/-- Members that have been read up to the closing bracket are read the same with more after it. -/
theorem readMembers?_append {steps steps' : Nat} {pending : List Pending} {m : Members} {s : CharSet} {depth : Nat}
    (h : readMembers? f steps pending m cs = some (s, depth, rest)) (hle : steps ≤ steps') (hz : EndsBranch z)
    (t : List Char) : readMembers? f steps' pending m (cs ++ z :: t) = some (s, depth, rest ++ z :: t) := by
  induction steps generalizing steps' pending m cs with
  | zero => cases h
  | succ steps ih =>
    obtain ⟨steps', rfl⟩ : ∃ n, steps' = n + 1 := ⟨steps' - 1, by omega⟩
    have hle : steps ≤ steps' := by omega
    unfold readMembers? at h ⊢
    simp only [Option.bind_eq_bind] at h ⊢
    cases hskip : f.skip cs with
    | nil => simp [hskip] at h
    | cons d ds =>
      rw [skip_append hskip]
      rw [hskip] at h
      split at h
      case h_1 => cases h
      case h_2 heq =>
        obtain ⟨rfl, rfl⟩ := List.cons.inj heq
        simp only [readNamedClass?_append f hz]
        split at h
        · rename_i hclass
          obtain ⟨set, hset, h⟩ := Option.bind_eq_some_iff.1 h
          simp only [hclass, Option.map_some, hset, Option.bind_some]
          exact ih h hle
        · rename_i hclass
          simp only [hclass, Option.map_none]
          obtain ⟨negated, inner, more, hopen⟩ : ∃ negated inner more, openBracket f ds = (negated, inner, more) :=
            ⟨_, _, _, rfl⟩
          simp only [hopen] at h
          obtain ⟨e, es, rfl⟩ := exists_of_readMembers? h
          simp only [openBracket_append hopen]
          exact ih h hle
      case h_3 heq =>
        obtain ⟨rfl, rfl⟩ := List.cons.inj heq
        simp only at h ⊢
        split at h
        · rename_i hclose
          obtain ⟨set, hset, h⟩ := Option.bind_eq_some_iff.1 h
          simp only [hset, Option.bind_some]
          split at h
          · rename_i hlast
            rw [if_pos hlast]
            obtain ⟨rfl, rfl, rfl⟩ := by simpa using h
            rfl
          · rename_i hlast
            rw [if_neg hlast]
            exact ih h hle
        · cases h
      case h_4 heq | h_5 heq | h_6 heq =>
        obtain ⟨rfl, rfl⟩ := List.cons.inj heq
        exact ih h hle
      case h_7 hbracket hclose hand hminus htilde =>
        obtain ⟨⟨set, more⟩, hrange, h⟩ := Option.bind_eq_some_iff.1 h
        have hrange' := readRange?_append hrange hz t
        rw [List.cons_append] at hrange'
        -- What did not start with an operation does not start with one now.
        have hpair : ∀ e, z ≠ e → (∀ rest, d :: ds = e :: e :: rest → False) →
            ∀ rest, d :: (ds ++ z :: t) ≠ e :: e :: rest := by
          intro e he hne rest heq
          obtain ⟨rfl, heq⟩ := List.cons.inj heq
          cases ds with
          | nil => exact he (List.cons.inj heq).1
          | cons a as => exact hne as (by rw [(List.cons.inj heq).1])
        split
        case h_1 heq => cases heq
        case h_2 heq => exact (hbracket ds (by rw [(List.cons.inj heq).1])).elim
        case h_3 heq => exact (hclose ds (by rw [(List.cons.inj heq).1])).elim
        case h_4 heq => exact absurd heq (hpair '&' (hz.ne (by decide)) hand _)
        case h_5 heq => exact absurd heq (hpair '-' (hz.ne (by decide)) hminus _)
        case h_6 heq => exact absurd heq (hpair '~' (hz.ne (by decide)) htilde _)
        case h_7 =>
          rw [hrange', Option.bind_some]
          exact ih h hle

theorem readBracket?_append {s : CharSet} {depth : Nat} (h : readBracket? f cs = some (s, depth, rest))
    (hz : EndsBranch z) (t : List Char) : readBracket? f (cs ++ z :: t) = some (s, depth, rest ++ z :: t) := by
  unfold readBracket? at h ⊢
  obtain ⟨negated, m, more, hopen⟩ : ∃ negated m more, openBracket f cs = (negated, m, more) := ⟨_, _, _, rfl⟩
  simp only [hopen] at h
  obtain ⟨d, ds, rfl⟩ := exists_of_readMembers? h
  simp only [openBracket_append hopen]
  exact readMembers?_append h (by simp) hz t

/-! ## Steps of the reader -/

theorem takeLazy_append (hz : EndsBranch z) (cs t : List Char) :
    Reader.takeLazy (cs ++ z :: t) = ((Reader.takeLazy cs).1, (Reader.takeLazy cs).2 ++ z :: t) := by
  cases cs with
  | nil => cases hz <;> rfl
  | cons c cs =>
    by_cases hc : c = '?'
    · subst hc
      rfl
    · simp [Reader.takeLazy, hc]

end ProseLint.Pattern
