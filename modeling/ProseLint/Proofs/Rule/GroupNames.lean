/-
The names of the groups of consistency rules. Whatever characters the name of a check has, the names made of it
are made of plain letters, digits and underscores and start with no digit, so a pattern may have groups of these
names; and from the name of a group its number and the key of its check can be told (`Rule.legal_groupName`).
-/
import ProseLint.Proofs.Check.Isolation
import ProseLint.Proofs.Pattern.PlainWords
import ProseLint.Proofs.Rule.Consistency

namespace ProseLint

open Pattern (Reader)
open Text (isDigit)
open Unicode (isPlainWord)

/-! ## Legal names -/

/-- A name of plain letters, digits and underscores that starts with no digit. -/
def Pattern.LegalName (name : List Char) : Prop :=
  ∃ c cs, name = c :: cs ∧ (c.isAlpha = true ∨ c = '_') ∧ ∀ d ∈ cs, d.isAlpha = true ∨ isDigit d = true ∨ d = '_'

namespace Pattern.LegalName

variable {name : List Char}

theorem isPlainWord_iff {c : Char} : isPlainWord c = true ↔ c.isAlpha = true ∨ isDigit c = true ∨ c = '_' := by
  rw [isPlainWord, Bool.or_eq_true, Bool.or_eq_true, decide_eq_true_iff, or_assoc]

theorem of_cons {c : Char} {cs : List Char} (hc : isPlainWord c = true) (hdigit : isDigit c = false)
    (hcs : ∀ d ∈ cs, isPlainWord d = true) : LegalName (c :: cs) := by
  refine ⟨c, cs, rfl, ?_, fun d hd => isPlainWord_iff.1 (hcs d hd)⟩
  rcases isPlainWord_iff.1 hc with halpha | hc | hc
  · exact .inl halpha
  · rw [hdigit] at hc
    cases hc
  · exact .inr hc

theorem isNameChar_of_isPlainWord {c : Char} (h : isPlainWord c = true) : Reader.isNameChar false c = true := by
  have hlow := toNat_lt_of_isPlainWord h
  simp only [Reader.isNameChar, Unicode.isAlphanumeric, Unicode.isAlphabetic, Unicode.isNumeric, if_pos hlow]
  rcases isPlainWord_iff.1 h with halpha | hdigit | rfl
  · simp [halpha]
  · simp [hdigit]
  · rfl

theorem isNameChar_first {c : Char} (h : c.isAlpha = true ∨ c = '_') : Reader.isNameChar true c = true := by
  have hlow : c.toNat < 0x80 :=
    toNat_lt_of_isPlainWord (isPlainWord_iff.2 (h.imp id .inr))
  simp only [Reader.isNameChar, Unicode.isAlphabetic, if_pos hlow]
  rcases h with halpha | rfl
  · simp [halpha]
  · rfl

/-- **A reader opens a group of a legal name**, unless a group has the name already. -/
theorem openNamed? (h : LegalName name) (r : Reader) (rest : List Char) :
    (∃ i, (i, String.ofList name) ∈ r.names) ∨
      ∃ q, r.openNamed? (name ++ '>' :: rest) = some (q, rest) ∧
        q.names = (r.groups + 1, String.ofList name) :: r.names := by
  obtain ⟨c, cs, rfl, hc, hcs⟩ := h
  have hplain : ∀ d ∈ c :: cs, isPlainWord d = true :=
    List.forall_mem_cons.2 ⟨isPlainWord_iff.2 (hc.imp id .inr), fun d hd => isPlainWord_iff.2 (hcs d hd)⟩
  have hne : ∀ d ∈ c :: cs, decide (d ≠ '>') = true := by
    intro d hd
    refine decide_eq_true fun heq => ?_
    rw [heq] at hd
    exact absurd (hplain _ hd) (by decide)
  have hname : ((c :: cs) ++ '>' :: rest).takeWhile (· ≠ '>') = c :: cs := by
    rw [List.takeWhile_append_of_pos hne]
    simp
  have hrest : ((c :: cs) ++ '>' :: rest).dropWhile (· ≠ '>') = '>' :: rest := by
    rw [List.dropWhile_append_of_pos hne]
    simp
  by_cases hgiven : ∃ i, (i, String.ofList (c :: cs)) ∈ r.names
  · exact .inl hgiven
  · refine .inr ⟨Reader.openGroup { r with names := (r.groups + 1, String.ofList (c :: cs)) :: r.names } r.flags
      (some (r.groups + 1)), ?_, rfl⟩
    have hlegal : cs.all (Reader.isNameChar false) = true :=
      List.all_eq_true.2 fun d hd => isNameChar_of_isPlainWord (hplain d (List.mem_cons_of_mem c hd))
    have hnew : (r.names.any fun n => decide (n.2 = String.ofList (c :: cs))) = false := by
      refine List.any_eq_false.2 fun n hn heq => hgiven ⟨n.1, ?_⟩
      rwa [← of_decide_eq_true heq]
    rw [Reader.openNamed?]
    simp only [hname, hrest]
    rw [isNameChar_first hc, hlegal, hnew]
    rfl

end Pattern.LegalName

/-! ## The names of groups -/

namespace Rule

open Pattern (LegalName)

theorem isPlainWord_keyChar (c : Char) : isPlainWord (keyChar c) = true := by
  unfold keyChar
  split
  · rename_i hc
    rw [Bool.or_eq_true] at hc
    exact LegalName.isPlainWord_iff.2 (hc.imp id .inl)
  · rfl

/-- The name of a group is the key of the check, a character for each of its name, and a number. -/
theorem toList_groupName (name : CheckName) (i : Nat) :
    ∃ lead, (lead = ['_'] ∨ lead = [] ∧ (name.full.toList.map keyChar).head?.any isDigit = false) ∧
      (groupName name i).toList = lead ++ name.full.toList.map keyChar ++ '_' :: Nat.toDigits 10 i := by
  rw [groupName, groupKey, String.toList_append, String.toList_ofList, Nat.toString_eq_repr, Nat.toList_repr]
  split
  · exact ⟨_, .inl rfl, by simp⟩
  · rename_i hdigit
    exact ⟨_, .inr ⟨rfl, by simpa using hdigit⟩, by simp⟩

theorem legalName_groupName (name : CheckName) (i : Nat) : LegalName (groupName name i).toList := by
  obtain ⟨lead, hlead, hname⟩ := toList_groupName name i
  have hkey : ∀ d ∈ name.full.toList.map keyChar, isPlainWord d = true :=
    List.forall_mem_map.2 fun c _ => isPlainWord_keyChar c
  have hdigits : ∀ d ∈ Nat.toDigits 10 i, isPlainWord d = true := fun d hd =>
    LegalName.isPlainWord_iff.2 (.inr (.inl (Text.isDigit_of_mem_toDigits hd)))
  have hnumber : ∀ d ∈ '_' :: Nat.toDigits 10 i, isPlainWord d = true := List.forall_mem_cons.2 ⟨rfl, hdigits⟩
  rw [hname]
  rcases hlead with rfl | ⟨rfl, hdigit⟩
  · rw [List.append_assoc, List.singleton_append]
    exact .of_cons rfl rfl (List.forall_mem_append.2 ⟨hkey, hnumber⟩)
  · rw [List.nil_append]
    cases hfull : name.full.toList.map keyChar with
    | nil => exact .of_cons rfl rfl fun d hd => hnumber d (List.mem_cons_of_mem _ hd)
    | cons c cs =>
      rw [hfull] at hkey hdigit
      obtain ⟨hc, hcs⟩ := List.forall_mem_cons.1 hkey
      exact .of_cons hc hdigit (List.forall_mem_append.2 ⟨hcs, hnumber⟩)

/-- **The names of groups are legal, and tell the groups of checks apart.** Of a check of any name, the name of a
group is made of plain letters, digits and underscores with no digit in front, and readers of patterns take it;
two groups of one name have the same number, and their checks the same key. -/
theorem legal_groupName (name : CheckName) (i : Nat) :
    LegalName (groupName name i).toList ∧
      (∀ (name' : CheckName) (j : Nat),
        groupName name i = groupName name' j ↔ groupKey name = groupKey name' ∧ i = j) ∧
      ∀ (r : Reader) (rest : List Char), (∃ k, (k, groupName name i) ∈ r.names) ∨
        ∃ q, r.openNamed? ((groupName name i).toList ++ '>' :: rest) = some (q, rest) ∧
          q.names = (r.groups + 1, groupName name i) :: r.names := by
  have hlegal := legalName_groupName name i
  refine ⟨hlegal, fun name' j => ⟨fun heq => ?_, ?_⟩, fun r rest => ?_⟩
  · have hkey := groupKey_eq_of_groupName_eq heq
    have hnumber : groupName name' i = groupName name' j := by rw [← heq, groupName, groupName, hkey]
    exact ⟨hkey, groupName_injective hnumber⟩
  · rintro ⟨hkey, rfl⟩
    rw [groupName, groupName, hkey]
  · have hopen := hlegal.openNamed? r rest
    rwa [String.ofList_toList] at hopen

end Rule

end ProseLint
