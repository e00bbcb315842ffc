/-
Registries after any calls. Checks are registered one after another, and a history holds what came of each call
(`History.ofChecks`). The first check with a name has it, whatever comes later (`FirstWins`): all that is read
of a registry says so, and agrees.
-/
import Mathlib.Data.List.Induction
import ProseLint.Registry

namespace ProseLint

/-- One more element counts when it is new. -/
theorem eraseDups_concat (l : List String) (a : String) :
    (l ++ [a]).eraseDups = l.eraseDups ++ if a ∈ l then [] else [a] := by
  rw [List.eraseDups_append]
  by_cases ha : a ∈ l <;> simp [List.removeAll, List.eraseDups_cons, ha]

namespace Registry

variable {r : Registry} {c : Check}

/-! ## One call -/

theorem register_of_mem (h : c.name.full ∈ r.names) : r.register c = .error (.duplicate c.name.full) := by
  rw [register, dif_pos h]

theorem register_of_not_mem (h : c.name.full ∉ r.names) :
    ∃ r', r.register c = .ok r' ∧ r'.checks = r.checks ++ [c] := by
  rw [register, dif_neg h]
  exact ⟨_, rfl, rfl⟩

theorem name_of_get? {name : String} (h : r.get? name = some c) : c.name.full = name := by
  have hname := List.find?_some h
  exact eq_of_beq hname

/-- A check of a registry is what the registry has under its name. -/
theorem get?_of_mem (h : c ∈ r.checks) : r.get? c.name.full = some c := by
  obtain ⟨before, after, hchecks⟩ := List.append_of_mem h
  have hdistinct := r.distinct
  rw [hchecks, List.map_append, List.map_cons, List.nodup_append] at hdistinct
  have hbefore : before.find? (·.name.full == c.name.full) = none := List.find?_eq_none.2 fun c' hc' heq =>
    hdistinct.2.2 _ (List.mem_map_of_mem hc') _ List.mem_cons_self (eq_of_beq heq)
  rw [get?, hchecks, List.find?_append, hbefore, Option.none_or]
  exact List.find?_cons_of_pos (beq_self_eq_true _)

theorem contains_iff {name : String} : r.contains name = true ↔ ∃ c, r.get? name = some c := by
  rw [contains, List.contains_iff_mem, names, List.mem_map]
  constructor
  · rintro ⟨c, hc, rfl⟩
    exact ⟨c, get?_of_mem hc⟩
  · rintro ⟨c, hc⟩
    exact ⟨c, List.mem_of_find?_eq_some hc, name_of_get? hc⟩

/-- The checks of a registry are what it has under its names. -/
theorem checks_eq_get? (r : Registry) : r.checks.map some = r.names.map r.get? := by
  rw [names, List.map_map]
  exact List.map_congr_left fun c hc => (get?_of_mem hc).symm

/-! ## Any calls -/

/-- A registry, and the calls that led to it: each check with what it was refused for, if it was. -/
structure History where
  registry : Registry
  calls : List (Check × Option RuleError)

namespace History

def start : History := ⟨.empty, []⟩

/-- One more call. When the check is refused the registry stays. -/
def next (h : History) (c : Check) : History :=
  match h.registry.register c with
  | .ok r => ⟨r, h.calls ++ [(c, none)]⟩
  | .error fault => ⟨h.registry, h.calls ++ [(c, some fault)]⟩

def ofChecks (cs : List Check) : History := cs.foldl next start

def registered (h : History) : List Check := (h.calls.filter (·.2.isNone)).map (·.1)

variable {h : History} {cs : List Check}

theorem ofChecks_concat (cs : List Check) (c : Check) : ofChecks (cs ++ [c]) = (ofChecks cs).next c := by
  rw [ofChecks, List.foldl_append, List.foldl_cons, List.foldl_nil, ← ofChecks]

/-- A check whose name is taken is refused as a duplicate; any other is registered after those there are. -/
theorem next_cases (h : History) (c : Check) :
    (c.name.full ∈ h.registry.names ∧
      h.next c = ⟨h.registry, h.calls ++ [(c, some (.duplicate c.name.full))]⟩) ∨
    (c.name.full ∉ h.registry.names ∧
      ∃ r, h.next c = ⟨r, h.calls ++ [(c, none)]⟩ ∧ r.checks = h.registry.checks ++ [c]) := by
  by_cases hc : c.name.full ∈ h.registry.names
  · exact .inl ⟨hc, by rw [next, register_of_mem hc]⟩
  · obtain ⟨r, hr, hchecks⟩ := register_of_not_mem hc
    exact .inr ⟨hc, r, by rw [next, hr], hchecks⟩

/-- A registry holds what calls have registered. -/
theorem checks_ofChecks (cs : List Check) : (ofChecks cs).registry.checks = (ofChecks cs).registered := by
  induction cs using List.reverseRecOn with
  | nil => rfl
  | append_singleton cs c ih =>
    rw [ofChecks_concat]
    rcases next_cases (ofChecks cs) c with ⟨-, hnext⟩ | ⟨-, r, hnext, hchecks⟩
    · rw [hnext, ih]
      simp [registered]
    · rw [hnext, hchecks, ih]
      simp [registered]

theorem calls_ofChecks (cs : List Check) : (ofChecks cs).calls.map (·.1) = cs := by
  induction cs using List.reverseRecOn with
  | nil => rfl
  | append_singleton cs c ih =>
    rw [ofChecks_concat]
    rcases next_cases (ofChecks cs) c with ⟨-, hnext⟩ | ⟨-, r, hnext, -⟩ <;>
      rw [hnext, List.map_append, ih, List.map_singleton]

theorem names_ofChecks (cs : List Check) : (ofChecks cs).registry.names = (cs.map (·.name.full)).eraseDups := by
  induction cs using List.reverseRecOn with
  | nil => rfl
  | append_singleton cs c ih =>
    have htaken : c.name.full ∈ cs.map (·.name.full) ↔ c.name.full ∈ (ofChecks cs).registry.names := by
      rw [ih, List.mem_eraseDups]
    rw [ofChecks_concat, List.map_append, List.map_singleton, eraseDups_concat, ← ih]
    rcases next_cases (ofChecks cs) c with ⟨hc, hnext⟩ | ⟨hc, r, hnext, hchecks⟩
    · rw [hnext, if_pos (htaken.2 hc), List.append_nil]
    · rw [hnext, if_neg (mt htaken.1 hc), names, hchecks, List.map_append, List.map_singleton, ← names]

theorem get?_ofChecks (cs : List Check) (name : String) :
    (ofChecks cs).registry.get? name = cs.find? (·.name.full == name) := by
  induction cs using List.reverseRecOn with
  | nil => rfl
  | append_singleton cs c ih =>
    rw [ofChecks_concat, List.find?_append, ← ih]
    rcases next_cases (ofChecks cs) c with ⟨hc, hnext⟩ | ⟨-, r, hnext, hchecks⟩
    · rw [hnext]
      by_cases hname : c.name.full = name
      · -- the name is taken, so the check is not come to
        obtain ⟨c', hc', heq⟩ := List.mem_map.1 hc
        rw [← hname, ← heq, get?_of_mem hc', Option.some_or]
      · simp [hname]
    · rw [hnext, get?, hchecks, List.find?_append, ← get?]

end History

/-- **The first check with a name has it.** This is so after any calls, and all that is asked of the registry
agrees. -/
structure FirstWins (cs : List Check) (h : History) : Prop where
  calls : h.calls.map (·.1) = cs
  /-- One more call is refused, as a duplicate, exactly when a call has registered the name, and the registry is
  left as it is. -/
  refuses : ∀ c, c.name.full ∈ h.registered.map (·.name.full) →
    h.next c = ⟨h.registry, h.calls ++ [(c, some (.duplicate c.name.full))]⟩
  accepts : ∀ c, c.name.full ∉ h.registered.map (·.name.full) →
    (h.next c).calls = h.calls ++ [(c, none)] ∧ (h.next c).registry.checks = h.registry.checks ++ [c]
  names : h.registry.names = (cs.map (·.name.full)).eraseDups
  checks : h.registry.checks.map some = h.registry.names.map fun name => cs.find? (·.name.full == name)
  get? : ∀ name, h.registry.get? name = cs.find? (·.name.full == name)
  contains : ∀ name, h.registry.contains name = true ↔ ∃ c, h.registry.get? name = some c
  keyed : ∀ name c, h.registry.get? name = some c → c.name.full = name
  size : h.registry.size = h.calls.countP (·.2.isNone)

/-- **After any calls the first check with a name has it.** -/
theorem firstWins_ofChecks (cs : List Check) : FirstWins cs (.ofChecks cs) := by
  have hchecks := History.checks_ofChecks cs
  have hget := History.get?_ofChecks cs
  have hnames : (History.ofChecks cs).registered.map (·.name.full) = (History.ofChecks cs).registry.names := by
    rw [← hchecks, names]
  refine ⟨History.calls_ofChecks cs, fun c hc => ?_, fun c hc => ?_, History.names_ofChecks cs, ?_, hget,
    fun name => contains_iff, fun name c => name_of_get?, ?_⟩
  · rcases History.next_cases (.ofChecks cs) c with ⟨-, hnext⟩ | ⟨hfree, -⟩
    · exact hnext
    · exact absurd (hnames ▸ hc) hfree
  · rcases History.next_cases (.ofChecks cs) c with ⟨htaken, -⟩ | ⟨-, r, hnext, hregistry⟩
    · exact absurd (hnames ▸ htaken) hc
    · rw [hnext]
      exact ⟨rfl, hregistry⟩
  · rw [checks_eq_get?]
    exact List.map_congr_left fun name _ => hget name
  · rw [size, hchecks, History.registered, List.length_map, List.countP_eq_length_filter]

end Registry

end ProseLint
