/-
Reading what was written. A text in quotes, a number, an array and an object are read as what they were
written from, wherever a value may end (`Written`): `written_text`, `written_nat`, `written_array` and
`written_object`. So the text of a value spells the value (`Written.read?_eq`).
-/
import ProseLint.Json.Reader
import ProseLint.Json.Writer
import Mathlib.Data.List.Forall2

namespace ProseLint.Json

open Text

/-! ## Texts -/

theorem hexDigit?_hexDigitChar : ∀ n < 16, hexDigit? (hexDigitChar n) = some n := by decide

theorem charOfNat?_toNat (c : Char) : charOfNat? c.toNat = some c := by
  have hvalid : c.toNat.isValidChar := c.valid
  rw [charOfNat?, dif_pos hvalid]
  exact congrArg some (Char.ext (UInt32.toNat_inj.1 rfl))

@[simp] theorem unpaired_none (read : Option (Option (List Char) × Symbols)) : unpaired none read = read := rfl

/-- A control character is read from the four digits that it is written with. -/
theorem readText?_control {c : Char} (hc : c.toNat < 0x20) (rest : Symbols) :
    readText? none (some '\\' :: some 'u' :: some '0' :: some '0' :: some (hexDigitChar (c.toNat / 16)) ::
      some (hexDigitChar (c.toNat % 16)) :: rest) = before (some c) (readText? none rest) := by
  have hunit : hexUnit? (some '0') (some '0') (some (hexDigitChar (c.toNat / 16)))
      (some (hexDigitChar (c.toNat % 16))) = some c.toNat := by
    have hzero : hexDigit? '0' = some 0 := by decide
    simp only [hexUnit?, Option.bind_eq_bind, Option.bind_some, hzero,
      hexDigit?_hexDigitChar (c.toNat / 16) (by omega), hexDigit?_hexDigitChar (c.toNat % 16) (by omega)]
    exact congrArg some (by omega)
  rw [readText?]
  simp only [hunit]
  rw [if_neg (by omega), if_neg (by omega), charOfNat?_toNat, unpaired_none]

/-- A character is read from its escape of one letter. -/
theorem readText?_escape {e c : Char} (he : escaped? e = some c) (rest : Symbols) :
    readText? none (some '\\' :: some e :: rest) = before (some c) (readText? none rest) := by
  rw [readText?, he]
  · rfl
  · rintro _ _ _ _ _ - rfl
    cases he

/-- A character that needs no escape is read as it stands. -/
theorem readText?_plain {c : Char} (hquote : c ≠ '"') (hslash : c ≠ '\\') (hc : ¬c.toNat < 0x20) (rest : Symbols) :
    readText? none (some c :: rest) = before (some c) (readText? none rest) := by
  rw [readText?, if_neg hc]
  · rfl
  · exact hquote
  · exact fun _ _ _ _ _ _ => hslash
  · exact fun _ _ _ => hslash
  · exact hslash

/-- A character is written as an escape of one letter, as an escape of its number, or as it stands. -/
theorem writeChar_cases (c : Char) :
    (∃ e, writeChar c = ['\\', e] ∧ escaped? e = some c) ∨
      (c.toNat < 0x20 ∧
        writeChar c = ['\\', 'u', '0', '0', hexDigitChar (c.toNat / 16), hexDigitChar (c.toNat % 16)]) ∨
      (c ≠ '"' ∧ c ≠ '\\' ∧ ¬c.toNat < 0x20 ∧ writeChar c = [c]) := by
  unfold writeChar
  split_ifs with hquote hslash hline hreturn htab hback hfeed hcontrol
  · exact .inl ⟨_, rfl, by rw [hquote]; rfl⟩
  · exact .inl ⟨_, rfl, by rw [hslash]; rfl⟩
  · exact .inl ⟨_, rfl, by rw [hline]; rfl⟩
  · exact .inl ⟨_, rfl, by rw [hreturn]; rfl⟩
  · exact .inl ⟨_, rfl, by rw [htab]; rfl⟩
  · exact .inl ⟨_, rfl, by rw [hback]; rfl⟩
  · exact .inl ⟨_, rfl, by rw [hfeed]; rfl⟩
  · exact .inr (.inl ⟨hcontrol, rfl⟩)
  · exact .inr (.inr ⟨hquote, hslash, hcontrol, rfl⟩)

/-- **A character is read from what it is written as.** -/
theorem readText?_writeChar (c : Char) (rest : Symbols) :
    readText? none ((writeChar c).map some ++ rest) = before (some c) (readText? none rest) := by
  rcases writeChar_cases c with ⟨e, hwrite, he⟩ | ⟨hcontrol, hwrite⟩ | ⟨hquote, hslash, hcontrol, hwrite⟩
  · rw [hwrite]
    exact readText?_escape he rest
  · rw [hwrite]
    exact readText?_control hcontrol rest
  · rw [hwrite]
    exact readText?_plain hquote hslash hcontrol rest

theorem readText?_write (cs : List Char) (rest : Symbols) :
    readText? none ((cs.flatMap writeChar).map some ++ some '"' :: rest) = some (some cs, rest) := by
  induction cs with
  | nil => rw [List.flatMap_nil, List.map_nil, List.nil_append, readText?, unpaired_none]
  | cons c cs ih => rw [List.flatMap_cons, List.map_append, List.append_assoc, readText?_writeChar, ih]; rfl

/-! ## Numbers -/

/-- What may come after a value: a comma, a bracket or a brace that closes, or nothing. -/
inductive Closes : Symbols → Prop
  | nil : Closes []
  | comma (rest : Symbols) : Closes (some ',' :: rest)
  | bracket (rest : Symbols) : Closes (some ']' :: rest)
  | brace (rest : Symbols) : Closes (some '}' :: rest)

theorem digit?_digitChar : ∀ n < 10, digit? 10 n.digitChar = some n := by decide

theorem natOfDigits_concat (base : Nat) (ds : List Char) (d : Char) :
    natOfDigits base (ds ++ [d]) = natOfDigits base ds * base + (digit? base d).getD 0 := by
  rw [natOfDigits, List.foldl_append, List.foldl_cons, List.foldl_nil, ← natOfDigits]

theorem natOfDigits_writeNat (n : Nat) : natOfDigits 10 (writeNat n) = n := by
  induction n using Nat.strongRecOn with
  | ind n ih =>
    rcases Nat.lt_or_ge n 10 with hn | hn
    · rw [writeNat, Nat.toDigits_of_lt_base hn, ← List.nil_append [n.digitChar], natOfDigits_concat,
        digit?_digitChar n hn]
      exact Nat.zero_add n
    · rw [writeNat, Nat.toDigits_of_base_le (by decide) hn, natOfDigits_concat, ← writeNat, ih _ (by omega),
        digit?_digitChar _ (by omega)]
      exact Nat.div_add_mod' n 10

/-- Only zero is written with a zero in front. -/
theorem eq_zero_of_head?_writeNat {n : Nat} (h : (writeNat n).head? = some '0') : n = 0 := by
  induction n using Nat.strongRecOn with
  | ind n ih =>
    rcases Nat.lt_or_ge n 10 with hn | hn
    · rw [writeNat, Nat.toDigits_of_lt_base hn, List.head?_cons, Option.some_inj] at h
      exact (Nat.digitChar_eq_zero).1 h
    · rw [writeNat, Nat.toDigits_of_base_le (by decide) hn, List.head?_append_of_ne_nil _ Nat.toDigits_ne_nil] at h
      have := ih (n / 10) (by omega) h
      omega

theorem readDigits?_writeNat (n : Nat) {rest : Symbols} (h : Closes rest) :
    readDigits? ((writeNat n).map some ++ rest) = some ((writeNat n).map some, rest) := by
  have hdigits : ∀ c ∈ (writeNat n).map some, isDigitAt c = true :=
    List.forall_mem_map.2 fun _ hc => isDigit_of_mem_toDigits hc
  have hrest : rest.takeWhile isDigitAt = [] ∧ rest.dropWhile isDigitAt = rest := by
    cases h <;> exact ⟨rfl, rfl⟩
  rw [readDigits?, List.takeWhile_append_of_pos hdigits, List.dropWhile_append_of_pos hdigits, hrest.1, hrest.2,
    List.append_nil]
  split
  · rename_i hnil
    exact absurd (List.map_eq_nil_iff.1 hnil) Nat.toDigits_ne_nil
  · rfl

theorem readMagnitude?_writeNat {n : Nat} (hn : n < Nat.pow 2 64) {rest : Symbols} (h : Closes rest) :
    readMagnitude? ((writeNat n).map some ++ rest) = some (some n, rest) := by
  have hhead : ¬(((writeNat n).map some).head? = some (some '0') ∧ 1 < ((writeNat n).map some).length) := by
    rintro ⟨hzero, hlong⟩
    rw [List.head?_map, Option.map_eq_some_iff] at hzero
    obtain ⟨c, hzero, hc⟩ := hzero
    obtain rfl := Option.some_inj.1 hc
    obtain rfl := eq_zero_of_head?_writeNat hzero
    exact absurd hlong (by decide)
  have hvalue : natOf ((writeNat n).map some) = n := by
    rw [natOf, List.filterMap_map, Function.id_comp, List.filterMap_some, natOfDigits_writeNat]
  rw [readMagnitude?, readDigits?_writeNat n h]
  simp only [Option.bind_eq_bind, Option.bind_some, if_neg hhead, hvalue]
  have hnatural : (if True ∧ n < Nat.pow 2 64 then some n else none) = some n := if_pos ⟨trivial, hn⟩
  cases h <;> exact congrArg (fun m => some (m, _)) hnatural

/-! ## Values -/

/-- The characters are how a value is written: no blank and no closing bracket is in front, and the value is
read from them wherever it may end, in no more steps than there are characters. -/
structure Written (cs : List Char) (v : Json) : Prop where
  opens : ∃ c tail, cs = c :: tail ∧ isBlank (some c) = false ∧ c ≠ ']'
  read : ∀ {steps rest}, cs.length ≤ steps → Closes rest → readValue? steps (cs.map some ++ rest) = some (v, rest)

theorem skip_cons {c : Char} (hc : isBlank (some c) = false) (cs : Symbols) : skip (some c :: cs) = some c :: cs := by
  rw [skip, List.dropWhile_cons_of_neg (by rw [hc]; decide)]

theorem written_text (s : String) : Written (writeText s) (text (some s)) := by
  refine ⟨⟨'"', _, rfl, rfl, by decide⟩, fun {steps rest} hsteps _ => ?_⟩
  cases steps with
  | zero => cases hsteps
  | succ steps =>
    rw [writeText, List.cons_append, List.map_cons, List.cons_append, List.map_append, List.append_assoc, readValue?,
      skip_cons rfl]
    simp only [List.map_cons, List.map_nil, List.singleton_append]
    rw [readText?_write, Option.map_some, Option.map_some, String.ofList_toList]

theorem isBlank_of_isDigit {c : Char} (hc : isDigit c = true) : isBlank (some c) = false := by
  by_contra hblank
  rw [Bool.not_eq_false, isBlank] at hblank
  rcases (by simpa using hblank : ((c = ' ' ∨ c = '\n') ∨ c = '\t') ∨ c = '\r') with ((rfl | rfl) | rfl) | rfl <;>
    cases hc

/-- A digit starts a number. -/
theorem readValue?_digit {c : Char} (hc : isDigit c = true) (steps : Nat) (cs : Symbols) :
    readValue? (steps + 1) (some c :: cs) =
      (readMagnitude? (some c :: cs)).map fun (n, rest) => (number n, rest) := by
  rw [readValue?, skip_cons (isBlank_of_isDigit hc)]
  split
  case h_7 =>
    rw [readNumber?]
    rintro _ ⟨rfl, -⟩
    cases hc
  all_goals
    rename_i heq
    cases heq
    cases hc

theorem written_nat {n : Nat} (hn : n < Nat.pow 2 64) : Written (writeNat n) (number (some n)) := by
  obtain ⟨c, tail, hwrite⟩ := List.exists_cons_of_ne_nil (Nat.toDigits_ne_nil (n := n) (b := 10))
  have hdigit : isDigit c = true :=
    isDigit_of_mem_toDigits (n := n) (by rw [hwrite]; exact List.mem_cons_self)
  refine ⟨⟨c, tail, hwrite, isBlank_of_isDigit hdigit, ?_⟩, fun {steps rest} hsteps hrest => ?_⟩
  · rintro rfl
    cases hdigit
  · have hread := readMagnitude?_writeNat hn hrest
    cases steps with
    | zero => rw [writeNat, hwrite] at hsteps; cases hsteps
    | succ steps =>
      rw [writeNat, hwrite, List.map_cons, List.cons_append] at hread ⊢
      rw [readValue?_digit hdigit, hread, Option.map_some]

/-- Texts with commas between them start as the first of them. -/
theorem intercalate_opens (c : Char) (tail : List Char) (ws : List (List Char)) :
    ∃ joined, [','].intercalate ((c :: tail) :: ws) = c :: joined := by
  cases ws with
  | nil => exact ⟨tail, List.intercalate_singleton⟩
  | cons w ws => exact ⟨_, List.intercalate_cons_cons⟩

/-- Items with commas between them are read up to the bracket that closes. -/
theorem readItems?_written {ws : List (List Char)} {vs : List Json} (h : List.Forall₂ Written ws vs)
    (hne : ws ≠ []) {steps : Nat} (hsteps : ([','].intercalate ws).length < steps) (rest : Symbols) :
    readItems? steps (([','].intercalate ws).map some ++ some ']' :: rest) = some (vs, rest) := by
  induction h generalizing steps with
  | nil => exact absurd rfl hne
  | @cons w v ws vs hw hws ih =>
    cases steps with
    | zero => cases hsteps
    | succ steps =>
      cases hws with
      | nil =>
        rw [List.intercalate_singleton] at hsteps ⊢
        rw [readItems?, hw.read (by omega) (.bracket _)]
        rfl
      | cons hw' hws' =>
        rw [List.intercalate_cons_cons] at hsteps ⊢
        rw [List.length_append, List.length_append, List.length_singleton] at hsteps
        rw [List.map_append, List.map_append, List.append_assoc, List.append_assoc, List.map_singleton,
          List.singleton_append, readItems?, hw.read (by omega) (.comma _)]
        simp only [skip_cons (c := ',') rfl]
        rw [ih (List.cons_ne_nil _ _) (by omega), Option.map_some]

theorem written_array {ws : List (List Char)} {vs : List Json} (h : List.Forall₂ Written ws vs) :
    Written (writeArray ws) (array vs) := by
  refine ⟨⟨'[', _, rfl, rfl, by decide⟩, fun {steps rest} hsteps _ => ?_⟩
  cases steps with
  | zero => cases hsteps
  | succ steps =>
    rw [writeArray, List.cons_append, List.map_cons, List.cons_append, List.map_append, List.append_assoc, readValue?,
      skip_cons rfl]
    cases h with
    | nil => rfl
    | @cons w v ws vs hw hws =>
      have hlength : ([','].intercalate (w :: ws)).length < steps :=
        Nat.lt_of_succ_le (by simpa [writeArray] using hsteps)
      have hitems := readItems?_written (.cons hw hws) (List.cons_ne_nil _ _) hlength rest
      obtain ⟨c, tail, rfl, hblank, hclose⟩ := hw.opens
      obtain ⟨joined, hjoined⟩ := intercalate_opens c tail ws
      rw [hjoined, List.map_cons, List.cons_append] at hitems ⊢
      simp only [List.map_cons, List.map_nil, List.singleton_append, skip_cons hblank]
      split
      · rename_i heq
        cases heq
        exact absurd rfl hclose
      · rw [hitems, Option.map_some]

/-- An entry of an object as it is written. -/
def writeEntry (f : String × List Char) : List Char := writeText f.1 ++ ':' :: f.2

/-- What is read of an object after one of its entries. -/
def readAfter? (steps : Nat) (entry : Option String × Json) (rest : Symbols) :
    Option (List (Option String × Json) × Symbols) :=
  match skip rest with
  | some ',' :: rest => (readEntries? steps rest).map fun (entries, rest) => (entry :: entries, rest)
  | some '}' :: rest => some ([entry], rest)
  | _ => none

/-- An entry is read up to the comma or the brace after it. -/
theorem readEntries?_writeEntry {key : String} {w : List Char} {v : Json} (hw : Written w v) {steps : Nat}
    (hsteps : w.length ≤ steps) {rest : Symbols} (hrest : Closes rest) :
    readEntries? (steps + 1) ((writeEntry (key, w)).map some ++ rest) = readAfter? steps (some key, v) rest := by
  rw [writeEntry, writeText, List.cons_append, List.cons_append, List.map_cons, List.cons_append, List.append_assoc,
    List.map_append, List.append_assoc, readEntries?, skip_cons rfl]
  simp only [List.map_cons, List.cons_append, List.nil_append]
  rw [readText?_write]
  simp only [skip_cons (c := ':') rfl]
  rw [hw.read hsteps hrest, Option.map_some, String.ofList_toList]
  rfl

/-- Entries with commas between them are read up to the brace that closes. -/
theorem readEntries?_written {fields : List (String × List Char)} {entries : List (Option String × Json)}
    (h : List.Forall₂ (fun f e => e.1 = some f.1 ∧ Written f.2 e.2) fields entries) (hne : fields ≠ [])
    {steps : Nat} (hsteps : ([','].intercalate (fields.map writeEntry)).length < steps) (rest : Symbols) :
    readEntries? steps (([','].intercalate (fields.map writeEntry)).map some ++ some '}' :: rest) =
      some (entries, rest) := by
  induction h generalizing steps with
  | nil => exact absurd rfl hne
  | @cons f e fields entries hf hfields ih =>
    obtain ⟨key, w⟩ := f
    obtain ⟨_, v⟩ := e
    obtain ⟨rfl, hw⟩ := hf
    replace hw : Written w v := hw
    have hlength : w.length < (writeEntry (key, w)).length := by
      simp only [writeEntry, List.length_append, List.length_cons]
      omega
    cases steps with
    | zero => cases hsteps
    | succ steps =>
      cases hfields with
      | nil =>
        rw [List.map_cons, List.map_nil, List.intercalate_singleton] at hsteps ⊢
        rw [readEntries?_writeEntry hw (by omega) (.brace _)]
        rfl
      | cons hf' hfields' =>
        rw [List.map_cons, List.map_cons, List.intercalate_cons_cons] at hsteps ⊢
        rw [List.length_append, List.length_append, List.length_singleton] at hsteps
        rw [List.map_append, List.map_append, List.append_assoc, List.append_assoc, List.map_singleton,
          List.singleton_append, readEntries?_writeEntry hw (by omega) (.comma _), readAfter?]
        simp only [skip_cons (c := ',') rfl]
        rw [← List.map_cons, ih (List.cons_ne_nil _ _) (by rw [List.map_cons]; omega), Option.map_some]

theorem written_object {fields : List (String × List Char)} {entries : List (Option String × Json)}
    (h : List.Forall₂ (fun f e => e.1 = some f.1 ∧ Written f.2 e.2) fields entries) :
    Written (writeObject fields) (object entries) := by
  refine ⟨⟨'{', _, rfl, rfl, by decide⟩, fun {steps rest} hsteps _ => ?_⟩
  cases steps with
  | zero => cases hsteps
  | succ steps =>
    have hwrite : writeObject fields = '{' :: [','].intercalate (fields.map writeEntry) ++ ['}'] := rfl
    rw [hwrite, List.cons_append, List.length_cons, List.length_append, List.length_singleton] at hsteps
    rw [hwrite, List.cons_append, List.map_cons, List.cons_append, List.map_append, List.append_assoc, readValue?,
      skip_cons rfl]
    cases h with
    | nil => rfl
    | @cons f e fields entries hf hfields =>
      have hlength : ([','].intercalate ((f :: fields).map writeEntry)).length < steps := by omega
      have hentries := readEntries?_written (.cons hf hfields) (List.cons_ne_nil _ _) hlength rest
      obtain ⟨joined, hjoined⟩ := intercalate_opens '"' (f.1.toList.flatMap writeChar ++ ['"'] ++ ':' :: f.2)
        (fields.map writeEntry)
      rw [List.map_cons, writeEntry, writeText, List.cons_append, List.cons_append, hjoined, List.map_cons,
        List.cons_append] at hentries ⊢
      simp only [List.map_cons, List.map_nil, List.singleton_append, skip_cons (c := '"') rfl]
      split
      · rename_i heq
        cases heq
      · rw [hentries, Option.map_some]

/-- **The text of a value spells the value.** -/
theorem Written.read?_eq {cs : List Char} {v : Json} (h : Written cs v) : read? (cs.map some) = some v := by
  have hsteps : cs.length ≤ 2 * (cs.map some).length + 2 := by rw [List.length_map]; omega
  have hread := h.read hsteps .nil
  rw [List.append_nil] at hread
  rw [read?, hread]
  rfl

end ProseLint.Json
