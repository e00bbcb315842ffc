/-
What is accepted as a rule. A record is one exactly if it extends a kind and gives what the kind needs
(`RuleRecord.Gives`); the fields of other kinds may hold anything (`RuleRecord.Agrees`), and a map keeps the
order in which the text declares its pairs.
-/
import ProseLint.Proofs.Rule.Reading
import ProseLint.Proofs.Toml.Order

namespace ProseLint

def RuleKind.known : List String :=
  ["existence", "occurrence", "repetition", "substitution", "consistency", "conditional", "script"]

namespace RuleRecord

/-- A record has what rules of a kind need. -/
def Gives (r : RuleRecord) : (kind : String) → Prop
  | "existence" => r.tokens ≠ [] ∨ r.raw ≠ []
  | "occurrence" => r.tokens ≠ [] ∧ 1 ≤ r.max
  | "repetition" => r.tokens ≠ []
  | "substitution" => r.swap ≠ []
  | "consistency" => r.swap ≠ []
  | "conditional" => r.antecedent ≠ none ∧ r.consequent ≠ none
  | "script" => r.exe ≠ none ∧ r.runtime ≠ none
  | _ => True

/-- Two records have the same in the fields that count for rules of a kind. Of the tokens of an occurrence
rule the first counts. -/
def SameFor (r r' : RuleRecord) : (kind : String) → Prop
  | "existence" => r.tokens = r'.tokens ∧ r.raw = r'.raw ∧ r.nonword = r'.nonword
  | "occurrence" => r.tokens.head? = r'.tokens.head? ∧ r.max = r'.max
  | "repetition" => r.tokens = r'.tokens ∧ r.max = r'.max
  | "substitution" => r.swap = r'.swap ∧ r.nonword = r'.nonword
  | "consistency" => r.swap = r'.swap ∧ r.nonword = r'.nonword
  | "conditional" =>
    r.antecedent = r'.antecedent ∧ r.consequent = r'.consequent ∧ r.exceptions = r'.exceptions
  | "script" => r.exe = r'.exe ∧ r.runtime = r'.runtime
  | _ => True

/-- Two records agree on the kind, on what every rule has and on what rules of the kind have. -/
structure Agrees (r r' : RuleRecord) : Prop where
  kind : r.kind = r'.kind
  message : r.message = r'.message
  description : r.description = r'.description
  level : r.level = r'.level
  scope : r.scope = r'.scope
  link : r.link = r'.link
  ignoreCase : r.ignoreCase = r'.ignoreCase
  negate : r.negate = r'.negate
  own : ∀ kind, r.kind = some kind → r.SameFor r' kind

end RuleRecord

namespace RuleKind

variable {r r' : RuleRecord} {kind : String}

theorem exists_ok_ite {p : Prop} [Decidable p] {lack : Lack} {k : RuleKind} :
    (∃ k', (if p then Except.error lack else Except.ok k) = Except.ok k') ↔ ¬ p := by
  split
  · simp [*]
  · simp [*]

/-- **A record of a kind is accepted exactly if it has what the kind needs.** -/
theorem exists_ofRecord_iff (hkind : r.kind = some kind) : (∃ k, ofRecord r = .ok k) ↔ r.Gives kind := by
  unfold RuleRecord.Gives
  split
  all_goals simp only [ofRecord, hkind]
  case h_1 =>
    rw [exists_ok_ite]
    simp [List.isEmpty_iff, imp_iff_not_or]
  case h_2 =>
    cases r.tokens with
    | nil => simp
    | cons token others =>
      rw [exists_ok_ite, Nat.not_lt]
      simp
  case h_3 | h_4 | h_5 =>
    rw [exists_ok_ite]
    simp [List.isEmpty_iff]
  case h_6 => cases r.antecedent <;> cases r.consequent <;> simp
  case h_7 => cases r.exe <;> cases r.runtime <;> simp
  case h_8 => simp

theorem exists_kind_of_ofRecord {k : RuleKind} (h : ofRecord r = .ok k) : ∃ kind, r.kind = some kind := by
  cases hkind : r.kind with
  | none => simp [ofRecord, hkind] at h
  | some kind => exact ⟨kind, rfl⟩

/-- A kind that there is not is taken as it is. -/
theorem ofRecord_unknown (hkind : r.kind = some kind) (hunknown : kind ∉ known) :
    ofRecord r = .ok (.unknown kind) := by
  have hne : ∀ name ∈ known, kind ≠ name := fun name hname h => hunknown (h ▸ hname)
  simp only [known, List.forall_mem_cons] at hne
  unfold ofRecord
  rw [hkind]
  split
  all_goals simp_all

theorem ofRecord_congr (hkind : r.kind = r'.kind) (hown : ∀ kind, r.kind = some kind → r.SameFor r' kind) :
    ofRecord r = ofRecord r' := by
  cases hr : r.kind with
  | none => simp [ofRecord, ← hkind, hr]
  | some kind =>
    have hsame := hown kind hr
    have hr' := hkind ▸ hr
    unfold RuleRecord.SameFor at hsame
    split at hsame
    all_goals simp only [ofRecord, hr, hr']
    case h_1 =>
      obtain ⟨htokens, hraw, hnonword⟩ := hsame
      rw [htokens, hraw, hnonword]
    case h_2 =>
      obtain ⟨hhead, hmax⟩ := hsame
      rw [hmax]
      cases htokens : r.tokens <;> cases htokens' : r'.tokens <;> simp_all
    case h_3 | h_4 | h_5 =>
      obtain ⟨hlist, hother⟩ := hsame
      rw [hlist, hother]
    case h_6 =>
      obtain ⟨hantecedent, hconsequent, hexceptions⟩ := hsame
      rw [hantecedent, hconsequent, hexceptions]
    case h_7 =>
      obtain ⟨hexe, hruntime⟩ := hsame
      rw [hexe, hruntime]

end RuleKind

namespace RuleRecord

open Toml

variable {text : String} {entries : List (String × Value)} {r : RuleRecord}

/-- What a record has of a kind and a map, its table has under one of their two names. -/
structure Keyed (r : RuleRecord) (entries : List (String × Value)) : Prop where
  kind (kind : String) : r.kind = some kind ↔ ∃ key ∈ ["extends", "type"], (key, .string kind) ∈ entries
  swap : ∀ key ∈ ["swap", "map"], ∀ v, (key, v) ∈ entries →
    v.entries? = some (r.swap.map fun pair => (pair.1, .string pair.2))
  given : r.swap ≠ [] → ∃ key ∈ ["swap", "map"], ∃ v, (key, v) ∈ entries

theorem keyed_of_ofEntries? (h : ofEntries? entries = some r) : r.Keyed entries where
  kind kind := by
    constructor
    · intro hkind
      rcases field?_cases (kind_of_ofEntries? h) with ⟨hnone, -⟩ | ⟨key, v, hkey, hmem, hv, -⟩
      · rw [hkind] at hnone
        cases hnone
      · rw [hkind] at hv
        cases v with
        | string s =>
          obtain rfl := Option.some.inj (Option.some.inj hv)
          exact ⟨key, hkey, hmem⟩
        | _ => cases hv
    · rintro ⟨key, hkey, hmem⟩
      rcases field?_cases (kind_of_ofEntries? h) with ⟨-, hnone⟩ | ⟨_, v, -, -, hv, hone⟩
      · exact absurd hkey (hnone _ hmem)
      · obtain ⟨-, rfl⟩ := Prod.mk.inj (hone _ hmem hkey)
        exact (Option.some.inj hv).symm
  swap := by
    intro key hkey v hmem
    rcases field?_cases (swap_of_ofEntries? h) with ⟨-, hnone⟩ | ⟨_, w, -, -, hw, hone⟩
    · exact absurd hkey (hnone _ hmem)
    · obtain ⟨-, rfl⟩ := Prod.mk.inj (hone _ hmem hkey)
      exact entries_of_mapOf? hw
  given := by
    intro hne
    rcases field?_cases (swap_of_ofEntries? h) with ⟨hempty, -⟩ | ⟨key, v, hkey, hmem, -, -⟩
    · exact absurd hempty hne
    · exact ⟨key, hkey, v, hmem⟩

/-- **A map has its pairs in the order in which the text declares them.** The one that is no table is a date;
it has its text for its only pair. -/
theorem declares_swap (h : RuleRecord.ofToml? text = some r) :
    (∃ date, r.swap = [(Value.dateKey, date)]) ∨ Declares text.toList r.swap := by
  obtain ⟨entries, hentries, h⟩ := Option.bind_eq_some_iff.1 h
  have hevery := (lasting_inOrder _).of_readEntries? hentries
  rcases field?_cases (swap_of_ofEntries? h) with ⟨hempty, -⟩ | ⟨key, v, -, hmem, hv, -⟩
  · exact .inr (hempty ▸ ⟨[], .nil, .nil, fun _ h => absurd h List.not_mem_nil⟩)
  · have hpairs := entries_of_mapOf? hv
    cases v with
    | table form es =>
      obtain rfl := Option.some.inj hpairs
      exact .inr (InOrder.declares (hevery.entry _ hmem).own)
    | date date =>
      obtain ⟨pair, others, hswap, hpair, hothers⟩ := List.map_eq_cons_iff.1 (Option.some.inj hpairs).symm
      obtain rfl := List.map_eq_nil_iff.1 hothers
      obtain ⟨hkey, hdate⟩ := Prod.mk.inj hpair
      refine .inl ⟨date, hswap.trans ?_⟩
      rw [← hkey, ← Value.string.inj hdate]
    | _ => cases hpairs

end RuleRecord

namespace Definition

open Toml

variable {name : CheckName} {text : String} {r : RuleRecord}

/-- What reading makes of the record that a text holds. -/
structure Judges (name : CheckName) (text : String) (r : RuleRecord) : Prop where
  /-- The record is accepted exactly if it extends a kind and has what the kind needs. -/
  accepts : (∃ d, ofToml name text = .ok d) ↔ ∃ kind, r.kind = some kind ∧ r.Gives kind
  /-- A kind that there is not is accepted as it is. -/
  unknown : ∀ kind, r.kind = some kind → kind ∉ RuleKind.known →
    ∃ d, ofToml name text = .ok d ∧ d.kind = .unknown kind
  /-- The kind and the map stand under either of their names. -/
  keyed : ∃ entries, readEntries? text = some entries ∧ r.Keyed entries
  /-- Nothing is read of the fields of other kinds. -/
  blind : ∀ text' r', RuleRecord.ofToml? text' = some r' → r.Agrees r' → ofToml name text' = ofToml name text
  /-- The pairs of a definition are those of the record, in the order in which the text declares them. -/
  inOrder : ∀ d swap nonword, ofToml name text = .ok d →
    d.kind = .substitution swap nonword ∨ d.kind = .consistency swap nonword →
      swap = r.swap ∧ ((∃ date, swap = [(Value.dateKey, date)]) ∨ Declares text.toList swap)

theorem ofToml_eq (h : RuleRecord.ofToml? text = some r) : ofToml name text = ofRecord name r := by
  rw [ofToml, h]

theorem exists_ofRecord : (∃ d, ofRecord name r = .ok d) ↔ ∃ k, RuleKind.ofRecord r = .ok k := by
  unfold ofRecord
  cases RuleKind.ofRecord r <;> simp

/-- **Records that agree have one definition.** -/
theorem ofRecord_congr {r' : RuleRecord} (h : r.Agrees r') : ofRecord name r' = ofRecord name r := by
  unfold ofRecord
  rw [RuleKind.ofRecord_congr h.kind h.own, h.message, h.description, h.level, h.scope, h.link, h.ignoreCase,
    h.negate]

/-- **The records that are accepted as rules are those that have what their kind needs, whatever else they
hold.** -/
theorem judges_ofToml (h : RuleRecord.ofToml? text = some r) (name : CheckName) : Judges name text r where
  accepts := by
    rw [ofToml_eq h, exists_ofRecord]
    constructor
    · rintro ⟨k, hk⟩
      obtain ⟨kind, hkind⟩ := RuleKind.exists_kind_of_ofRecord hk
      exact ⟨kind, hkind, (RuleKind.exists_ofRecord_iff hkind).1 ⟨k, hk⟩⟩
    · rintro ⟨kind, hkind, hgives⟩
      exact (RuleKind.exists_ofRecord_iff hkind).2 hgives
  unknown := by
    intro kind hkind hunknown
    rw [ofToml_eq h, ofRecord, RuleKind.ofRecord_unknown hkind hunknown]
    exact ⟨_, rfl, rfl⟩
  keyed := by
    obtain ⟨entries, hentries, h⟩ := Option.bind_eq_some_iff.1 h
    exact ⟨entries, hentries, RuleRecord.keyed_of_ofEntries? h⟩
  blind := by
    intro text' r' h' hagrees
    rw [ofToml_eq h, ofToml_eq h', ofRecord_congr hagrees]
  inOrder := by
    intro d swap nonword hread hkind
    obtain ⟨r', hr', htakes⟩ := exists_record hread
    obtain rfl := Option.some.inj (h.symm.trans hr')
    have hswap : swap = r.swap := by
      rcases hkind with hkind | hkind
      all_goals
        rw [hkind] at htakes
        exact htakes.1
    exact ⟨hswap, hswap ▸ RuleRecord.declares_swap h⟩

/-- A substitution rule with fields that other kinds have. -/
def plainerToml : String :=
  "type = 'substitution'\nmax = 0\ntokens = ['is']\n[map]\nutilize = 'use'\nleverage = 'draw on'\n"

def plainerName : CheckName := ⟨"Wording", "Plainer", by decide +kernel, by decide +kernel⟩

def plainerRecord : RuleRecord where
  kind := some "substitution"
  tokens := ["is"]
  swap := [("utilize", "use"), ("leverage", "draw on")]

/-- The rule is accepted, and its pairs stand in its text as they do in its definition. -/
theorem judges_ofToml_map :
    RuleRecord.ofToml? plainerToml = some plainerRecord ∧ Judges plainerName plainerToml plainerRecord ∧
      ∃ d, ofToml plainerName plainerToml = .ok d ∧ d.kind = .substitution plainerRecord.swap false ∧
        Declares plainerToml.toList plainerRecord.swap := by
  have hrecord : RuleRecord.ofToml? plainerToml = some plainerRecord := by decide +kernel
  have hjudges := judges_ofToml hrecord plainerName
  obtain ⟨d, hread⟩ := hjudges.accepts.2 ⟨"substitution", rfl, List.cons_ne_nil _ _⟩
  have hkind : d.kind = .substitution plainerRecord.swap false := by
    rw [ofToml_eq hrecord] at hread
    obtain rfl := Except.ok.inj hread
    rfl
  refine ⟨hrecord, hjudges, d, hread, hkind, ?_⟩
  obtain ⟨-, hdate | hdeclares⟩ := hjudges.inOrder d _ _ hread (.inl hkind)
  · obtain ⟨date, hdate⟩ := hdate
    exact absurd (congrArg List.length hdate) (by simp [plainerRecord])
  · exact hdeclares

end Definition

end ProseLint
