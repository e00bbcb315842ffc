/-
Registries: checks in the order they were registered, at most one for each name. The first that
comes with a name keeps it: `register_eq_error_iff` says when one is refused, `checks_register` what
the registry holds when it is not.
-/
import ProseLint.Check.Basic
import ProseLint.Rule.Error

namespace ProseLint

structure Registry where
  checks : List Check
  distinct : (checks.map (·.name.full)).Nodup

namespace Registry

def empty : Registry := ⟨[], by simp⟩

def names (r : Registry) : List String := r.checks.map (·.name.full)

def contains (r : Registry) (name : String) : Bool := r.names.contains name

def get? (r : Registry) (name : String) : Option Check := r.checks.find? (·.name.full == name)

def size (r : Registry) : Nat := r.checks.length

/-- A registry with one more check at its end, unless the name is taken. -/
def register (r : Registry) (c : Check) : Except RuleError Registry :=
  if h : c.name.full ∈ r.names then .error (.duplicate c.name.full)
  else .ok {
    checks := r.checks ++ [c]
    distinct := by
      simp only [List.map_append, List.map_cons, List.map_nil]
      exact List.nodup_append.2 ⟨r.distinct, by simp, by
        intro a ha b hb hab
        simp only [List.mem_singleton] at hb
        exact h (hb ▸ hab ▸ ha)⟩ }

theorem checks_register {r r' : Registry} {c : Check} (h : r.register c = .ok r') :
    r'.checks = r.checks ++ [c] := by
  unfold register at h
  split at h
  · cases h
  · cases h; rfl

/-- **A check is refused exactly when its name is taken.** -/
theorem register_eq_error_iff {r : Registry} {c : Check} :
    (∃ fault, r.register c = .error fault) ↔ c.name.full ∈ r.names := by
  unfold register
  split
  · rename_i h; exact ⟨fun _ => h, fun _ => ⟨_, rfl⟩⟩
  · rename_i h
    refine ⟨fun ⟨fault, hf⟩ => ?_, fun hn => absurd hn h⟩
    cases hf

end Registry

end ProseLint
