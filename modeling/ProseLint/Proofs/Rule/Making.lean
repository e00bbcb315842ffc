/-
What checks are made of. `Definition.Makes` says for each kind of matcher which definition it comes from
and which texts its patterns are the patterns of; every matcher of a definition is made so
(`Definition.makes_of_matcher`).
-/
import ProseLint.Rule.Compile

namespace ProseLint

open Rule

/-- What a definition makes: the kind of the rule, and the texts of its patterns. -/
def Definition.Makes (d : Definition) (stylesPath : Option String) (fs : Files) : Matcher → Prop
  | .existence p => ∃ tokens raw nonword, d.kind = .existence tokens raw nonword ∧
      Pattern.ofText? (d.existenceSource tokens raw nonword) = some p
  | .occurrence p max => ∃ token, d.kind = .occurrence token max ∧
      Pattern.ofText? (d.switch ++ token) = some p
  | .repetition p max => ∃ tokens, d.kind = .repetition tokens max ∧
      Pattern.ofText? (d.repetitionSource tokens) = some p
  | .substitution p replacements => ∃ swap nonword, d.kind = .substitution swap nonword ∧ usable swap ≠ [] ∧
      Pattern.ofText? (d.substitutionSource (usable swap) nonword) = some p ∧
      replacements = (usable swap).map (·.2)
  | .consistency p pairs => ∃ variants nonword, d.kind = .consistency variants nonword ∧
      Pattern.ofText? (d.consistencySource variants nonword) = some p ∧ pairs = pairNames d.name 0 variants
  | .conditional antecedent consequent exceptions => ∃ first second,
      d.kind = .conditional first second exceptions ∧
      Pattern.ofText? (d.switch ++ first) = some antecedent ∧ antecedent.groupCount ≠ 0 ∧
      Pattern.ofText? (d.switch ++ second) = some consequent
  | .script runtime path => ∃ exe base, d.kind = .script exe runtime ∧ stylesPath = some base ∧
      path = scriptPath base d.name.style exe ∧ fs.isFile path = true

namespace Rule

theorem exists_of_map_ok {α β : Type} {x : Except RuleError α} {f : α → β} {b : β} (h : x.map f = .ok b) :
    ∃ a, x = .ok a ∧ f a = b := by
  cases x with
  | error e => cases h
  | ok a => exact ⟨a, rfl, Except.ok.inj h⟩

theorem exists_of_toOption_map {α β : Type} {x : Except RuleError α} {f : α → β} {b : β}
    (h : x.toOption.map f = some b) : ∃ a, x = .ok a ∧ f a = b := by
  cases x with
  | error e => cases h
  | ok a => exact ⟨a, rfl, Option.some.inj h⟩

theorem ofText?_of_pattern {name : CheckName} {source : String} {p : Pattern}
    (h : pattern name source = .ok p) : Pattern.ofText? source = some p := by
  unfold pattern at h
  split at h
  · rename_i q hq
    rw [hq, Except.ok.inj h]
  · cases h

end Rule

namespace Definition

variable {d : Definition} {stylesPath : Option String} {fs : Files}

theorem makes_conditional {antecedent consequent : String} {exceptions : List String} {m : Matcher}
    (hkind : d.kind = .conditional antecedent consequent exceptions)
    (h : d.conditionalMatcher antecedent consequent exceptions = .ok m) : d.Makes stylesPath fs m := by
  simp only [conditionalMatcher, bind, Except.bind] at h
  split at h
  · cases h
  · rename_i first hfirst
    split at h
    · cases h
    · rename_i hcount
      split at h
      · cases h
      · rename_i second hsecond
        obtain rfl := Except.ok.inj h
        exact ⟨antecedent, consequent, hkind, ofText?_of_pattern hfirst, hcount, ofText?_of_pattern hsecond⟩

theorem makes_script {exe runtime : String} {m : Matcher} (hkind : d.kind = .script exe runtime)
    (h : d.scriptMatcher stylesPath fs exe runtime = .ok m) : d.Makes stylesPath fs m := by
  unfold scriptMatcher at h
  split at h
  · cases h
  · rename_i base
    simp only at h
    split at h
    · rename_i hfile
      obtain rfl := Except.ok.inj h
      exact ⟨exe, base, hkind, rfl, rfl, hfile⟩
    · cases h

/-- **The matcher of a definition is made of it.** -/
theorem makes_of_matcher {m : Matcher} (h : d.matcher stylesPath fs = .ok m) : d.Makes stylesPath fs m := by
  unfold matcher at h
  split at h
  case h_1 tokens raw nonword hkind =>
    obtain ⟨p, hp, rfl⟩ := exists_of_map_ok h
    exact ⟨tokens, raw, nonword, hkind, ofText?_of_pattern hp⟩
  case h_2 token max hkind =>
    obtain ⟨p, hp, rfl⟩ := exists_of_map_ok h
    exact ⟨token, hkind, ofText?_of_pattern hp⟩
  case h_3 tokens max hkind =>
    obtain ⟨p, hp, rfl⟩ := exists_of_map_ok h
    exact ⟨tokens, hkind, ofText?_of_pattern hp⟩
  case h_4 swap nonword hkind =>
    split at h
    · cases h
    · rename_i hne
      obtain ⟨p, hp, rfl⟩ := exists_of_map_ok h
      exact ⟨swap, nonword, hkind, hne, ofText?_of_pattern hp, rfl⟩
  case h_5 variants nonword hkind =>
    obtain ⟨p, hp, rfl⟩ := exists_of_map_ok h
    exact ⟨variants, nonword, hkind, ofText?_of_pattern hp, rfl⟩
  case h_6 hkind => exact makes_conditional hkind h
  case h_7 hkind => exact makes_script hkind h
  case h_8 => cases h

theorem makes_of_compile {c : Check} (h : d.compile stylesPath fs = .ok c) :
    c.name = d.name ∧ d.Makes stylesPath fs c.matcher := by
  obtain ⟨m, hm, rfl⟩ := exists_of_map_ok h
  exact ⟨rfl, makes_of_matcher hm⟩

/-- **A check is of the kind of its definition.** -/
theorem Makes.kindName {m : Matcher} (h : d.Makes stylesPath fs m) : m.kindName = d.kind.name := by
  cases m with
  | existence =>
    obtain ⟨_, _, _, hkind, -⟩ := h
    rw [hkind]
    rfl
  | substitution | consistency | conditional | script =>
    obtain ⟨_, _, hkind, -⟩ := h
    rw [hkind]
    rfl
  | occurrence | repetition =>
    obtain ⟨_, hkind, -⟩ := h
    rw [hkind]
    rfl

end Definition

end ProseLint
