/-
Decoding what was encoded. The bytes of a character decode to it, whatever bytes come after them
(`decode_char`), so the bytes of a text decode to its characters (`decode_encode`).
-/
import ProseLint.Text.Utf8

namespace ProseLint.Text

theorem charOr_toNat (c : Char) : charOr c.toNat = c := by
  have hvalid : c.toNat.isValidChar := c.valid
  rw [charOr, dif_pos hvalid]
  exact Char.ext (UInt32.toNat_inj.1 rfl)

/-! ## Bytes by their numbers -/

theorem between_iff {low high b : UInt8} :
    (low ≤ b && b ≤ high) = true ↔ low.toNat ≤ b.toNat ∧ b.toNat ≤ high.toNat := by
  simp [UInt8.le_iff_toNat_le]

/-- What may follow the first byte of a character, in numbers. -/
theorem follows_of {a b : UInt8} (hb : 128 ≤ b.toNat ∧ b.toNat ≤ 191) (hlow : a.toNat = 224 → 160 ≤ b.toNat)
    (hsurrogate : a.toNat = 237 → b.toNat ≤ 159) (hlow' : a.toNat = 240 → 144 ≤ b.toNat)
    (hhigh : a.toNat = 244 → b.toNat ≤ 143) : follows a b = true := by
  have heq (n : UInt8) : a = n ↔ a.toNat = n.toNat := UInt8.toNat_inj.symm
  simp only [follows, heq]
  split
  · rename_i h
    exact between_iff.2 ⟨hlow h, hb.2⟩
  · split
    · rename_i h
      exact between_iff.2 ⟨hb.1, hsurrogate h⟩
    · split
      · rename_i h
        exact between_iff.2 ⟨hlow' h, hb.2⟩
      · split
        · rename_i h
          exact between_iff.2 ⟨hb.1, hhigh h⟩
        · exact between_iff.2 hb

theorem decode_one {a : UInt8} (ha : a.toNat < 128) (rest : List UInt8) :
    decode (a :: rest) = some (charOr a.toNat) :: decode rest := by
  rw [decode.eq_def]
  exact if_pos (UInt8.lt_iff_toNat_lt.2 ha)

/-- The bytes that start a character of several bytes. -/
theorem not_lt_of_lead {a : UInt8} (ha : 128 ≤ a.toNat) : ¬a < 0x80 := fun h =>
  absurd (UInt8.lt_iff_toNat_lt.1 h) (Nat.not_lt.2 ha)

theorem decode_two {a b : UInt8} (ha : 194 ≤ a.toNat ∧ a.toNat ≤ 223) (hb : 128 ≤ b.toNat ∧ b.toNat ≤ 191)
    (rest : List UInt8) :
    decode (a :: b :: rest) = some (charOr (a.toNat % 32 * 64 + sixBits b)) :: decode rest := by
  have hlead : (0xC2 ≤ a && a ≤ 0xDF) = true := between_iff.2 ha
  have hnext : isContinuation b = true := between_iff.2 hb
  rw [decode.eq_def]
  simp only [if_neg (not_lt_of_lead (a := a) (by omega)), hlead, hnext, Bool.and_self, if_true]

theorem decode_three {a b c : UInt8} (ha : 224 ≤ a.toNat ∧ a.toNat ≤ 239) (hb : follows a b = true)
    (hc : 128 ≤ c.toNat ∧ c.toNat ≤ 191) (rest : List UInt8) :
    decode (a :: b :: c :: rest) =
      some (charOr ((a.toNat % 16 * 64 + sixBits b) * 64 + sixBits c)) :: decode rest := by
  have htwo : (0xC2 ≤ a && a ≤ 0xDF) = false := by
    rw [Bool.eq_false_iff, ne_eq, between_iff]
    simp
    omega
  have hlead : (0xE0 ≤ a && a ≤ 0xEF) = true := between_iff.2 ha
  have hnext : isContinuation c = true := between_iff.2 hc
  rw [decode.eq_def]
  simp only [if_neg (not_lt_of_lead (a := a) (by omega)), htwo, hlead, hb, hnext, Bool.false_and, Bool.and_self,
    if_true, Bool.false_eq_true, if_false]

theorem decode_four {a b c d : UInt8} (ha : 240 ≤ a.toNat ∧ a.toNat ≤ 244) (hb : follows a b = true)
    (hc : 128 ≤ c.toNat ∧ c.toNat ≤ 191) (hd : 128 ≤ d.toNat ∧ d.toNat ≤ 191) (rest : List UInt8) :
    decode (a :: b :: c :: d :: rest) =
      some (charOr (((a.toNat % 8 * 64 + sixBits b) * 64 + sixBits c) * 64 + sixBits d)) :: decode rest := by
  have htwo : (0xC2 ≤ a && a ≤ 0xDF) = false := by
    rw [Bool.eq_false_iff, ne_eq, between_iff]
    simp
    omega
  have hthree : (0xE0 ≤ a && a ≤ 0xEF) = false := by
    rw [Bool.eq_false_iff, ne_eq, between_iff]
    simp
    omega
  have hlead : (0xF0 ≤ a && a ≤ 0xF4) = true := between_iff.2 ha
  have hnext : isContinuation c = true := between_iff.2 hc
  have hlast : isContinuation d = true := between_iff.2 hd
  rw [decode.eq_def]
  simp only [if_neg (not_lt_of_lead (a := a) (by omega)), htwo, hthree, hlead, hb, hnext, hlast, Bool.false_and,
    Bool.and_self, if_true, Bool.false_eq_true, if_false]

/-! ## Characters and texts -/

/-- **The bytes of a character decode to it**, and what comes after them is decoded by itself. -/
theorem decode_char (c : Char) (rest : List UInt8) :
    decode (String.utf8EncodeChar c ++ rest) = some c :: decode rest := by
  have hvalid : c.toNat < 0xD800 ∨ (0xDFFF < c.toNat ∧ c.toNat < 0x110000) := c.valid
  have hchar : ∀ {n}, n = c.toNat → charOr n = c := fun h => h ▸ charOr_toNat c
  have hbyte : ∀ {n}, n < 256 → (UInt8.ofNat n).toNat = n := fun h => by
    rw [UInt8.toNat_ofNat', Nat.mod_eq_of_lt h]
  have htoNat : c.val.toNat = c.toNat := rfl
  unfold String.utf8EncodeChar
  simp only [htoNat]
  generalize hn : c.toNat = n at *
  split
  · have ha : (UInt8.ofNat n).toNat = n := hbyte (by omega)
    rw [List.singleton_append, decode_one (by omega), ha, hchar rfl]
  · split
    · have ha : (UInt8.ofNat (n / 64 % 32 + 192)).toNat = n / 64 % 32 + 192 := hbyte (by omega)
      have hb : (UInt8.ofNat (n % 64 + 128)).toNat = n % 64 + 128 := hbyte (by omega)
      simp only [List.cons_append, List.nil_append]
      rw [decode_two (by omega) (by omega), sixBits, ha, hb, hchar (by omega)]
    · split
      · have ha : (UInt8.ofNat (n / 4096 % 16 + 224)).toNat = n / 4096 % 16 + 224 := hbyte (by omega)
        have hb : (UInt8.ofNat (n / 64 % 64 + 128)).toNat = n / 64 % 64 + 128 := hbyte (by omega)
        have hc : (UInt8.ofNat (n % 64 + 128)).toNat = n % 64 + 128 := hbyte (by omega)
        have hfollows : follows (UInt8.ofNat (n / 4096 % 16 + 224)) (UInt8.ofNat (n / 64 % 64 + 128)) = true := by
          apply follows_of <;> rw [hb] <;> omega
        simp only [List.cons_append, List.nil_append]
        rw [decode_three (by omega) hfollows (by omega), sixBits, sixBits, ha, hb, hc, hchar (by omega)]
      · have ha : (UInt8.ofNat (n / 262144 % 8 + 240)).toNat = n / 262144 % 8 + 240 := hbyte (by omega)
        have hb : (UInt8.ofNat (n / 4096 % 64 + 128)).toNat = n / 4096 % 64 + 128 := hbyte (by omega)
        have hc : (UInt8.ofNat (n / 64 % 64 + 128)).toNat = n / 64 % 64 + 128 := hbyte (by omega)
        have hd : (UInt8.ofNat (n % 64 + 128)).toNat = n % 64 + 128 := hbyte (by omega)
        have hfollows : follows (UInt8.ofNat (n / 262144 % 8 + 240)) (UInt8.ofNat (n / 4096 % 64 + 128)) = true := by
          apply follows_of <;> rw [hb] <;> omega
        simp only [List.cons_append, List.nil_append]
        rw [decode_four (by omega) hfollows (by omega) (by omega), sixBits, sixBits, sixBits, ha, hb, hc, hd,
          hchar (by omega)]

theorem decode_flatMap (cs : List Char) (rest : List UInt8) :
    decode (cs.flatMap String.utf8EncodeChar ++ rest) = cs.map some ++ decode rest := by
  induction cs with
  | nil => rfl
  | cons c cs ih => rw [List.flatMap_cons, List.append_assoc, decode_char, ih, List.map_cons, List.cons_append]

/-- **The bytes of a text decode to its characters.** -/
theorem decode_encode (text : String) : decode (encode text) = text.toList.map some := by
  have h := decode_flatMap text.toList []
  rwa [List.append_nil, decode, List.append_nil] at h

end ProseLint.Text
