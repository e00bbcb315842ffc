/-
The numbers of groups that texts are joined as. A text may open groups of its own and lose them again, as
`(a){0}b` does: what is repeated no times is no part of the pattern, but its number is taken. So a pattern has
as many groups as texts were joined exactly if all of them but the last one open none
(`Reader.groupCount_eq_length_iff`), and then the group of each text has its number (`Reader.numbered_eq_zipIdx`).
-/
import Mathlib
import ProseLint.Proofs.Pattern.Named

namespace ProseLint.Pattern

namespace Reader

variable {f : Flags} {rs : List Reader}

/-- **The number of the last group counts the groups that were opened before it**, whether they are kept or not. -/
theorem getLast?_numbered (n : Nat) (hne : rs ≠ []) :
    ((numbered n rs).map (·.1)).getLast? = some (n + rs.length + (rs.dropLast.map (·.groups)).sum) := by
  induction rs generalizing n with
  | nil => exact absurd rfl hne
  | cons r rs ih =>
    cases rs with
    | nil => simp [numbered, groupAfter]
    | cons r' rs =>
      have hrest := ih (n + 1 + r.groups) (List.cons_ne_nil _ _)
      have hcons : numbered n (r :: r' :: rs) = groupAfter n r :: numbered (n + 1 + r.groups) (r' :: rs) := rfl
      have hnext : numbered (n + 1 + r.groups) (r' :: rs) ≠ [] := by simp [numbered]
      rw [hcons, List.map_cons, List.getLast?_cons_of_ne_nil (by simpa using hnext), hrest, List.dropLast_cons_cons,
        List.map_cons, List.sum_cons]
      simp only [List.length_cons, Option.some.injEq]
      omega

/-- Where no text but the last one opens a group, the groups are numbered like the texts. -/
theorem numbered_eq_zipIdx (n : Nat) (h : ∀ r ∈ rs.dropLast, r.groups = 0) :
    numbered n rs = (rs.zipIdx (n + 1)).map fun x => (x.2, x.1.body.expr.map id (x.2 + ·)) := by
  induction rs generalizing n with
  | nil => rfl
  | cons r rs ih =>
    rw [numbered, List.zipIdx_cons, List.map_cons]
    cases rs with
    | nil => rfl
    | cons r' rs =>
      rw [List.dropLast_cons_cons] at h
      obtain ⟨hfirst, hrest⟩ := List.forall_mem_cons.1 h
      rw [hfirst, Nat.add_zero, ih (n + 1) hrest]
      rfl

theorem noGroups_of_mem_numbered {n : Nat} (h : ∀ r ∈ rs, r.body.expr.NoGroups) :
    ∀ g ∈ numbered n rs, g.2.NoGroups := by
  induction rs generalizing n with
  | nil => simp [numbered]
  | cons r rs ih =>
    obtain ⟨hr, hrs⟩ := List.forall_mem_cons.1 h
    rw [numbered, List.forall_mem_cons]
    refine ⟨?_, ih hrs⟩
    rw [groupAfter, Expr.map_of_noGroups _ _ hr]
    exact hr

/-- **A pattern has as many groups as texts were joined, and those that all but the last one of them opened.** -/
theorem groupCount_of_joined {source : String} {p : Pattern} {r : Reader} (h : ofText? source = some p)
    (hr : initial.read? source.length source.toList = some r) (hchoice : r.body.expr.ChoiceOf (numbered 0 rs))
    (hrs : ∀ r ∈ rs, r.body.expr.NoGroups) (hne : rs ≠ []) :
    p.groupCount = rs.length + (rs.dropLast.map (·.groups)).sum := by
  rw [groupCount_eq h hr, hchoice.groupIndices, flatMap_groupIndices_groupsOf (noGroups_of_mem_numbered hrs),
    List.head?_reverse, getLast?_numbered 0 hne, Option.getD_some, Nat.zero_add]

/-- **As many groups as texts** are those of texts that open none, the last one apart. -/
theorem groupCount_eq_length_iff {source : String} {p : Pattern} {r : Reader} (h : ofText? source = some p)
    (hr : initial.read? source.length source.toList = some r) (hchoice : r.body.expr.ChoiceOf (numbered 0 rs))
    (hrs : ∀ r ∈ rs, r.body.expr.NoGroups) (hne : rs ≠ []) :
    p.groupCount = rs.length ↔ ∀ r ∈ rs.dropLast, r.groups = 0 := by
  have hsum : p.groupCount = rs.length ↔ (rs.dropLast.map (·.groups)).sum = 0 := by
    rw [groupCount_of_joined h hr hchoice hrs hne]
    omega
  rw [hsum, List.sum_eq_zero_iff_forall_eq_nat, List.forall_mem_map]

end Reader

end ProseLint.Pattern
