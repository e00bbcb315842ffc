/-
The style that is built in. A definition whose patterns weigh little compiles (`Definition.exists_compile_of_isLight`),
which is found out without the sets of its patterns being worked out. All definitions of the style are such, so each of
its rules is a check (`BuiltinStyle.exists_check`), and these checks come before all others in a registry
(`Loader.resolve_builtins`).
-/
import ProseLint.Proofs.Pattern.PlainWords
import ProseLint.Proofs.Pattern.Size
import ProseLint.Proofs.Style.Order

namespace ProseLint

/-! ## Definitions whose patterns weigh little -/

/-- The number of groups of a text, in pieces, that is read to an expression of little weight. -/
def Pattern.lightGroups? (pieces : List String) : Option Nat :=
  let text := pieces.flatMap String.toList
  match Reader.initial.read? text.length text with
  | none => none
  | some r =>
    if r.body.depth ≤ maxDepth ∧ r.body.expr.weight ≤ Footprint.limit / 2 then
      some ((r.body.expr.groupIndices []).head?.getD 0)
    else none

/-- A text of little weight is a pattern. -/
theorem Pattern.ofText?_of_light {source : String} {pieces : List String}
    (hpieces : pieces.flatMap String.toList = source.toList) {n : Nat} (h : lightGroups? pieces = some n) :
    ∃ p, ofText? source = some p ∧ p.groupCount = n := by
  unfold lightGroups? at h
  simp only [hpieces, String.length_toList] at h
  cases hr : Reader.initial.read? source.length source.toList with
  | none =>
    rw [hr] at h
    cases h
  | some r =>
    simp only [hr] at h
    split at h
    · rename_i hlimits
      obtain rfl := Option.some.inj h
      have hp : (ofText? source).isSome := by
        rw [ofText?, hr]
        simp only
        rw [if_pos ⟨hlimits.1, Expr.fits_of_weight_le hlimits.2⟩]
        rfl
      obtain ⟨p, hp⟩ := Option.isSome_iff_exists.1 hp
      exact ⟨p, hp, groupCount_eq hp hr⟩
    · cases h

namespace Rule

def wrapped (patterns : List String) (nonword : Bool) : List String :=
  if nonword then "(?:" :: patterns.intersperse "|" ++ [")"] else "\\b(?:" :: patterns.intersperse "|" ++ [")\\b"]

theorem flatMap_intersperse (patterns : List String) :
    (patterns.intersperse "|").flatMap String.toList = (alternatives patterns).toList := by
  have hmap : ∀ ps : List String, (ps.intersperse "|").map String.toList = (ps.map String.toList).intersperse ['|'] := by
    intro ps
    induction ps with
    | nil => rfl
    | cons p ps ih =>
      cases ps with
      | nil => rfl
      | cons q qs =>
        simp only [List.map_cons, List.intersperse_cons_cons] at ih ⊢
        rw [ih]
        rfl
  rw [Pattern.toList_alternatives, List.intercalate, ← hmap, List.flatMap_def]

theorem flatMap_wrapped (patterns : List String) (nonword : Bool) :
    (wrapped patterns nonword).flatMap String.toList = (wrap (alternatives patterns) nonword).toList := by
  rw [wrapped, wrap]
  split <;> simp [flatMap_intersperse]

end Rule

namespace Definition

open Rule
open Pattern (lightGroups? ofText?_of_light)

variable {d : Definition} {source : String} {pieces : List String}

theorem exists_pattern_of_light (hpieces : pieces.flatMap String.toList = source.toList)
    (h : (lightGroups? pieces).isSome) (name : CheckName) : ∃ p, pattern name source = .ok p := by
  obtain ⟨n, hn⟩ := Option.isSome_iff_exists.1 h
  obtain ⟨p, hp, -⟩ := ofText?_of_light hpieces hn
  exact ⟨p, by rw [pattern, hp]⟩

theorem exists_map_pattern_of_light {α : Type} (hpieces : pieces.flatMap String.toList = source.toList)
    (h : (lightGroups? pieces).isSome) (name : CheckName) (f : Pattern → α) :
    ∃ m, (pattern name source).map f = .ok m := by
  obtain ⟨p, hp⟩ := exists_pattern_of_light hpieces h name
  exact ⟨f p, by rw [hp, Except.map]⟩

theorem flatMap_switch (d : Definition) (source : String) :
    [d.switch, source].flatMap String.toList = (d.switch ++ source).toList := by
  simp

/-- Whether the patterns of a definition weigh little. The entries of a substitution have to be usable. -/
def isLight (d : Definition) : Bool :=
  match d.kind with
  | .existence tokens raw nonword =>
    (lightGroups? (d.switch :: raw ++ wrapped tokens (nonword || tokens.isEmpty))).isSome
  | .occurrence token _ => (lightGroups? [d.switch, token]).isSome
  | .repetition tokens _ => (lightGroups? (d.switch :: "(" :: tokens.intersperse "|" ++ [")"])).isSome
  | .substitution swap nonword =>
    !swap.isEmpty && swap.all (lightGroups? [·.1] == some 0) &&
      (lightGroups? (d.switch :: wrapped (swap.map fun e => "(" ++ e.1 ++ ")") nonword)).isSome
  | .consistency pairs nonword =>
    (lightGroups? (d.switch :: wrapped (pairGroups (pairNames d.name 0 pairs) pairs) nonword)).isSome
  | .conditional antecedent consequent _ =>
    (lightGroups? [d.switch, antecedent]).any (0 < ·) && (lightGroups? [d.switch, consequent]).isSome
  | .script .. | .unknown _ => false

theorem usable_of_light {swap : List (String × String)} (h : swap.all (lightGroups? [·.1] == some 0) = true) :
    usable swap = swap := by
  refine List.filter_eq_self.2 fun e he => ?_
  have hpieces : [e.1].flatMap String.toList = e.1.toList := by simp
  obtain ⟨p, hp, hgroups⟩ := ofText?_of_light hpieces (eq_of_beq (List.all_eq_true.1 h e he))
  rw [isUsable, hp, Option.any_some, hgroups]
  rfl

/-- A definition of little weight has the matcher of its kind, with the patterns that it asks for. -/
theorem exists_matcher_of_isLight (h : d.isLight = true) (stylesPath : Option String) (fs : Files) :
    ∃ m, d.matcher stylesPath fs = .ok m := by
  unfold isLight at h
  unfold matcher
  cases hkind : d.kind with
  | existence tokens raw nonword =>
    have hpieces : (d.switch :: raw ++ wrapped tokens (nonword || tokens.isEmpty)).flatMap String.toList =
        (d.existenceSource tokens raw nonword).toList := by
      simp [existenceSource, flatMap_wrapped, String.toList_join]
    simp only [hkind] at h
    exact exists_map_pattern_of_light hpieces h d.name _
  | occurrence token max =>
    simp only [hkind] at h
    exact exists_map_pattern_of_light (d.flatMap_switch token) h d.name _
  | repetition tokens max =>
    have hpieces : (d.switch :: "(" :: tokens.intersperse "|" ++ [")"]).flatMap String.toList =
        (d.repetitionSource tokens).toList := by
      simp [repetitionSource, flatMap_intersperse]
    simp only [hkind] at h
    exact exists_map_pattern_of_light hpieces h d.name _
  | substitution swap nonword =>
    have hpieces : (d.switch :: wrapped (swap.map fun e => "(" ++ e.1 ++ ")") nonword).flatMap String.toList =
        (d.substitutionSource swap nonword).toList := by
      simp [substitutionSource, flatMap_wrapped]
    simp only [hkind, Bool.and_eq_true] at h
    obtain ⟨⟨hne, hentries⟩, hsource⟩ := h
    simp only [usable_of_light hentries]
    cases swap with
    | nil => cases hne
    | cons e swap => exact exists_map_pattern_of_light hpieces hsource d.name _
  | consistency pairs nonword =>
    have hpieces : (d.switch :: wrapped (pairGroups (pairNames d.name 0 pairs) pairs) nonword).flatMap String.toList =
        (d.consistencySource pairs nonword).toList := by
      simp [consistencySource, flatMap_wrapped]
    simp only [hkind] at h
    exact exists_map_pattern_of_light hpieces h d.name _
  | conditional antecedent consequent exceptions =>
    simp only [hkind, Bool.and_eq_true, Option.any_eq_true, decide_eq_true_eq] at h
    obtain ⟨⟨n, hn, hpos⟩, hconsequent⟩ := h
    obtain ⟨a, ha, rfl⟩ := ofText?_of_light (d.flatMap_switch antecedent) hn
    obtain ⟨p, hp⟩ := exists_pattern_of_light (d.flatMap_switch consequent) hconsequent d.name
    have hpattern : pattern d.name (d.switch ++ antecedent) = .ok a := by rw [pattern, ha]
    simp only [conditionalMatcher, hpattern, hp]
    exact ⟨_, if_neg (Nat.ne_of_gt hpos)⟩
  | script | unknown =>
    simp only [hkind] at h
    cases h

/-- **A definition of little weight compiles.** -/
theorem exists_compile_of_isLight (h : d.isLight = true) (stylesPath : Option String) (fs : Files) :
    ∃ c, d.compile stylesPath fs = .ok c := by
  obtain ⟨m, hm⟩ := exists_matcher_of_isLight h stylesPath fs
  rw [compile, hm]
  exact ⟨_, rfl⟩

end Definition

/-! ## The rules -/

namespace BuiltinStyle

theorem isLight_rules : ∀ r ∈ rules, ((CheckName.new? name r.1).bind fun n =>
    (Definition.ofRecord n r.2).toOption).any Definition.isLight = true := by
  decide +kernel

/-- **Each rule of the style is a check** with the name of the rule. -/
theorem exists_check {r : String × RuleRecord} (hr : r ∈ rules) :
    ∃ c, check r.1 r.2 = .ok c ∧ c.name.full = name ++ "." ++ r.1 := by
  obtain ⟨d, hd, hlight⟩ := (Option.any_eq_true _ _).1 (isLight_rules r hr)
  obtain ⟨n, hn, hrecord⟩ := Option.bind_eq_some_iff.1 hd
  obtain ⟨c, hc⟩ := Definition.exists_compile_of_isLight hlight none .empty
  have hcheck : check r.1 r.2 = .ok c := by
    unfold check
    cases hofRecord : Definition.ofRecord n r.2 with
    | error fault => simp [hofRecord, Except.toOption] at hrecord
    | ok d' =>
      obtain rfl : d' = d := by simpa [hofRecord, Except.toOption] using hrecord
      simp only [hn, hofRecord, hc]
  exact ⟨c, hcheck, CheckName.full_of_new? (new?_of_check hcheck)⟩

/-- The names of the rules, in the order in which they are loaded. -/
def ruleNames : List String := [
  "Abbreviations", "Annotations", "ComplexWords", "Editorializing", "GenderBias", "Hedging", "Litotes", "PassiveVoice",
  "Redundancy", "Repetition", "Uncomparables", "Wordiness"]

theorem map_name_rules : (rules.filterMap fun r => (check r.1 r.2).toOption).map (·.name.full) =
    ruleNames.map (name ++ "." ++ ·) := by
  have hnames : ruleNames = rules.map (·.1) := rfl
  rw [hnames, List.map_filterMap, List.map_map, ← List.filterMap_eq_map]
  refine List.filterMap_congr fun r hr => ?_
  obtain ⟨c, hc, hname⟩ := exists_check hr
  rw [hc, Except.toOption, Option.map_some, hname]
  rfl

end BuiltinStyle

namespace Loader

/-- **The rules that are built in come first**, all of them and in their order, whatever a configuration asks for and
whatever files there are. Without a path for styles there is nothing else, and no issue. -/
theorem resolve_builtins (fs : Files) (c : Config) :
    ∃ later, (resolve fs c).registry.names = BuiltinStyle.ruleNames.map (BuiltinStyle.name ++ "." ++ ·) ++ later ∧
      (c.stylesPath = none → later = [] ∧ (resolve fs c).issues = []) := by
  obtain ⟨rest, hrest, hpathless⟩ : ∃ rest, encounters fs c =
      (BuiltinStyle.rules.map fun r => .rule (.ofBuiltin r)) ++ rest ∧ (c.stylesPath = none → rest = []) :=
    ⟨_, rfl, fun hpath => by simp only [hpath]⟩
  have h := accounts_resolve fs c
  have hchecks := h.checks
  have hissues := h.issues
  rw [hrest, fates_append, List.filterMap_append] at hchecks hissues
  rw [checks_ofBuiltin] at hchecks
  rw [issues_ofBuiltin] at hissues
  generalize [] ++ loadedNames _ = taken at hchecks hissues
  refine ⟨((fates taken rest).filterMap Fate.check?).map (·.name.full), ?_, fun hpath => ⟨?_, ?_⟩⟩
  · rw [Registry.names, hchecks, List.map_append, BuiltinStyle.map_name_rules]
  · rw [hpathless hpath]
    rfl
  · rw [hissues, hpathless hpath, fates, List.filterMap_nil, List.append_nil, List.filterMap_eq_nil_iff]
    intro r hr
    obtain ⟨check, hcheck, -⟩ := BuiltinStyle.exists_check hr
    rw [hcheck]

end Loader

end ProseLint
