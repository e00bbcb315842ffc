/-
Reading rules. `RuleKind.Takes` says for each kind which fields of a record count and what they have to be
like; a kind that a record extends takes them so (`RuleKind.takes_of_ofRecord`). A rule that has been read
looks for something and has one replacement for each pattern (`Definition.wellKeyed`).
-/
import ProseLint.Proofs.Toml.Keys
import ProseLint.Rule.Definition

namespace ProseLint

namespace RuleRecord

variable {text : String} {entries : List (String × Toml.Value)} {r : RuleRecord}

theorem kind_of_ofEntries? (h : ofEntries? entries = some r) :
    Toml.field? ["extends", "type"] present? none entries = some r.kind := by
  unfold ofEntries? at h
  obtain ⟨_, hkind, h⟩ := Option.bind_eq_some_iff.1 h
  iterate 17 obtain ⟨_, -, h⟩ := Option.bind_eq_some_iff.1 h
  obtain rfl := Option.some.inj h
  exact hkind

theorem swap_of_ofEntries? (h : ofEntries? entries = some r) :
    Toml.field? ["swap", "map"] (Toml.Value.mapOf? Toml.Value.string?) [] entries = some r.swap := by
  unfold ofEntries? at h
  -- The fields are read one after the other, eleven of them before the map.
  iterate 11 obtain ⟨_, -, h⟩ := Option.bind_eq_some_iff.1 h
  obtain ⟨_, hswap, h⟩ := Option.bind_eq_some_iff.1 h
  iterate 6 obtain ⟨_, -, h⟩ := Option.bind_eq_some_iff.1 h
  obtain rfl := Option.some.inj h
  exact hswap

theorem nodup_swap (h : RuleRecord.ofToml? text = some r) : (r.swap.map (·.1)).Nodup := by
  obtain ⟨entries, hentries, h⟩ := Option.bind_eq_some_iff.1 h
  rcases Toml.field?_cases (swap_of_ofEntries? h) with ⟨hnone, -⟩ | ⟨key, v, -, hmem, hswap, -⟩
  · exact hnone ▸ .nil
  · cases Toml.readEntries?_distinct hentries with
    | table _ hvalues => exact Toml.nodup_mapOf? (hvalues _ hmem) hswap

end RuleRecord

/-- What a kind takes from a record, and what the record has to give. -/
def RuleKind.Takes (r : RuleRecord) : RuleKind → Prop
  | .existence tokens raw nonword =>
    tokens = r.tokens ∧ raw = r.raw ∧ nonword = r.nonword ∧ (tokens = [] → raw ≠ [])
  | .occurrence token max => r.tokens.head? = some token ∧ max = r.max ∧ 1 ≤ max
  | .repetition tokens max => tokens = r.tokens ∧ max = r.max ∧ tokens ≠ []
  | .substitution swap nonword => swap = r.swap ∧ nonword = r.nonword ∧ swap ≠ []
  | .consistency pairs nonword => pairs = r.swap ∧ nonword = r.nonword ∧ pairs ≠ []
  | .conditional antecedent consequent exceptions =>
    r.antecedent = some antecedent ∧ r.consequent = some consequent ∧ exceptions = r.exceptions
  | .script exe runtime => r.exe = some exe ∧ r.runtime = some runtime
  | .unknown name => r.kind = some name

/-- **A kind takes what counts for it from its record.** -/
theorem RuleKind.takes_of_ofRecord {r : RuleRecord} {k : RuleKind} (h : RuleKind.ofRecord r = .ok k) :
    k.Takes r := by
  unfold ofRecord at h
  split at h
  case h_1 => cases h
  case h_2 =>
    split at h
    · cases h
    · rename_i hempty
      obtain rfl := Except.ok.inj h
      exact ⟨rfl, rfl, rfl, by simpa using hempty⟩
  case h_3 =>
    split at h
    · cases h
    · rename_i htokens
      split at h
      · cases h
      · rename_i hmax
        obtain rfl := Except.ok.inj h
        exact ⟨by rw [htokens]; rfl, rfl, Nat.not_lt.1 hmax⟩
  case h_4 =>
    split at h
    · cases h
    · rename_i hempty
      obtain rfl := Except.ok.inj h
      exact ⟨rfl, rfl, by simpa using hempty⟩
  case h_5 | h_6 =>
    split at h
    · cases h
    · rename_i hempty
      obtain rfl := Except.ok.inj h
      exact ⟨rfl, rfl, by simpa using hempty⟩
  case h_7 =>
    split at h
    · rename_i hif hthen
      obtain rfl := Except.ok.inj h
      exact ⟨hif, hthen, rfl⟩
    · cases h
  case h_8 =>
    split at h
    · rename_i hexe hruntime
      obtain rfl := Except.ok.inj h
      exact ⟨hexe, hruntime⟩
    · cases h
  case h_9 hkind =>
    obtain rfl := Except.ok.inj h
    exact hkind

namespace Definition

variable {name : CheckName} {toml : String} {d : Definition}

theorem exists_record (h : Definition.ofToml name toml = .ok d) :
    ∃ r, RuleRecord.ofToml? toml = some r ∧ d.kind.Takes r := by
  unfold ofToml at h
  split at h
  · cases h
  · rename_i r hr
    unfold ofRecord at h
    split at h
    · cases h
    · rename_i kind hkind
      obtain rfl := Except.ok.inj h
      exact ⟨r, hr, RuleKind.takes_of_ofRecord hkind⟩

/-- An existence rule looks for something, and a substitution rule has one replacement for each pattern. -/
def WellKeyed (d : Definition) : Prop :=
  match d.kind with
  | .existence tokens raw _ => tokens = [] → raw ≠ []
  | .substitution swap _ => (swap.map (·.1)).Nodup
  | _ => True

/-- **What has been read is well keyed.** -/
theorem wellKeyed (h : Definition.ofToml name toml = .ok d) : d.WellKeyed := by
  obtain ⟨r, hr, htakes⟩ := exists_record h
  unfold WellKeyed
  split
  · rename_i hkind
    rw [hkind] at htakes
    exact htakes.2.2.2
  · rename_i hkind
    rw [hkind] at htakes
    exact htakes.1 ▸ RuleRecord.nodup_swap hr
  · trivial

end Definition

end ProseLint
