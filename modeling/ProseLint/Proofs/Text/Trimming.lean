/-
Texts without the blanks around them. `Unicode.trim` drops the blanks at both ends and nothing else, and what it
leaves is told by that (`Unicode.trim_eq_iff`).
-/
import Mathlib.Data.List.Basic
import Mathlib.Data.List.TakeWhile
import ProseLint.Proofs.Text.Runs
import ProseLint.Unicode.Letter

namespace ProseLint.Unicode

variable {cs w : List Char}

/-- What stands between the blanks around it, and neither starts nor ends with one. -/
structure Trims (cs w : List Char) : Prop where
  between : ∃ pre post, cs = pre ++ w ++ post ∧ (∀ c ∈ pre, isBlank c = true) ∧ ∀ c ∈ post, isBlank c = true
  starts : w.head?.any isBlank = false
  ends : w.getLast?.any isBlank = false

theorem trims_trim (cs : List Char) : Trims cs (trim cs) := by
  have hback : cs.dropWhile isBlank = trim cs ++ ((cs.dropWhile isBlank).reverse.takeWhile isBlank).reverse := by
    rw [trim, ← List.reverse_append, List.takeWhile_append_dropWhile, List.reverse_reverse]
  have hblank : ∀ ds : List Char, ∀ c ∈ ds.takeWhile isBlank, isBlank c = true := by
    intro ds c hc
    exact List.all_eq_true.1 List.all_takeWhile c hc
  constructor
  case between =>
    refine ⟨cs.takeWhile isBlank, ((cs.dropWhile isBlank).reverse.takeWhile isBlank).reverse, ?_, hblank cs, ?_⟩
    · rw [List.append_assoc, ← hback, List.takeWhile_append_dropWhile]
    · intro c hc
      exact hblank _ c (List.mem_reverse.1 hc)
  case starts =>
    -- it comes first in what is left without the blanks in front
    have hhead : (cs.dropWhile isBlank).head?.any isBlank = false := Text.head?_dropWhile_any cs
    rw [hback] at hhead
    cases htrim : trim cs with
    | nil => rfl
    | cons c w =>
      rw [htrim] at hhead
      exact hhead
  case ends =>
    rw [trim, List.getLast?_reverse]
    exact Text.head?_dropWhile_any _

/-- **Trimming drops the blanks at both ends**, and there is one way to do so. -/
theorem trim_eq_iff : trim cs = w ↔ Trims cs w := by
  constructor
  · intro h
    exact h ▸ trims_trim cs
  · intro h
    obtain ⟨pre, post, rfl, hpre, hpost⟩ := h.between
    by_cases hw : w = []
    · have hall : ∀ c ∈ pre ++ w ++ post, isBlank c = true := by
        subst hw
        simpa [or_imp, forall_and] using ⟨hpre, hpost⟩
      rw [trim, List.dropWhile_eq_nil_iff.2 hall, hw]
      rfl
    · have hfront : (pre ++ w ++ post).dropWhile isBlank = w ++ post := by
        rw [List.append_assoc]
        refine Text.dropWhile_eq_of_edge hpre ?_
        rw [List.head?_append_of_ne_nil w hw]
        exact h.starts
      have hback : (post.reverse ++ w.reverse).dropWhile isBlank = w.reverse := by
        refine Text.dropWhile_eq_of_edge (fun c hc => hpost c (List.mem_reverse.1 hc)) ?_
        rw [List.head?_reverse]
        exact h.ends
      rw [trim, hfront, List.reverse_append, hback, List.reverse_reverse]

/-- A text without blanks is left as it is. -/
theorem trim_eq_self (hw : ∀ c ∈ w, isBlank c = false) : trim w = w := by
  refine trim_eq_iff.2 ⟨⟨[], [], by simp, by simp, by simp⟩, ?_, ?_⟩
  · rw [Option.any_eq_false]
    intro c hc
    simp [hw c (List.mem_of_head? hc)]
  · rw [Option.any_eq_false]
    intro c hc
    simp [hw c (List.mem_of_getLast? hc)]

end ProseLint.Unicode
