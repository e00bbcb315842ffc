/-
The groups of a consistency rule. Each variant has a group with a name of its own, by which a check tells
which variant a match uses. The names of a rule differ, and where each variant is a pattern alone and in
parentheses, every match uses exactly one variant (`Definition.consistency_distinguishes`). Other variants
may be put together to a pattern in which groups are missing (`Definition.consistency_absorbed`).
-/
import ProseLint.Check.Run
import ProseLint.Mask.Masker
import ProseLint.Proofs.Check.Isolation
import ProseLint.Proofs.Pattern.Named
import ProseLint.Proofs.Rule.Making
import ProseLint.Proofs.Rule.Substitution
import Std.Data.String.ToNat

namespace ProseLint

open Pattern (Expr Flags Reader joined enclosed standsAlone)
open Rule

/-! ## Names -/

namespace Rule

/-- The two sides of pairs, in order. -/
def sides (pairs : List (String × String)) : List String := pairs.flatMap fun p => [p.1, p.2]

theorem length_sides (pairs : List (String × String)) : (sides pairs).length = 2 * pairs.length := by
  induction pairs with
  | nil => rfl
  | cons p pairs ih =>
    rw [sides, List.flatMap_cons, List.length_append, ← sides, ih, List.length_cons]
    simp only [List.length_cons, List.length_nil]
    omega

theorem sides_pairNames (name : CheckName) (index : Nat) (pairs : List (String × String)) :
    sides (pairNames name index pairs) = (List.range' (2 * index) (2 * pairs.length)).map (groupName name) := by
  induction pairs generalizing index with
  | nil => rfl
  | cons p pairs ih =>
    have hlength : 2 * (p :: pairs).length = 2 * pairs.length + 2 := by
      rw [List.length_cons]
      omega
    have hnext : 2 * (index + 1) = 2 * index + 1 + 1 := by omega
    have hsides : sides (pairNames name index (p :: pairs)) =
        groupName name (2 * index) :: groupName name (2 * index + 1) :: sides (pairNames name (index + 1) pairs) := rfl
    rw [hsides, ih, hlength, hnext, List.range'_succ, List.range'_succ]
    rfl

theorem groupName_injective {name : CheckName} {i j : Nat} (h : groupName name i = groupName name j) : i = j := by
  have hlist := congrArg String.toList h
  rw [groupName, groupName, String.toList_append, String.toList_append] at hlist
  exact Nat.repr_injective (String.toList_injective (List.append_cancel_left hlist))

/-- **The groups of a rule have different names.** -/
theorem nodup_sides_pairNames (name : CheckName) (index : Nat) (pairs : List (String × String)) :
    (sides (pairNames name index pairs)).Nodup := by
  rw [sides_pairNames]
  exact List.Nodup.map (fun _ _ => groupName_injective) List.nodup_range'

theorem keyChar_ne_angle (c : Char) : keyChar c ≠ '>' := by
  unfold keyChar
  split
  · rintro rfl
    contradiction
  · decide

/-- The name of a group does not end before its last character. -/
theorem angle_not_mem_groupName (name : CheckName) (i : Nat) : '>' ∉ (groupName name i).toList := by
  have hkey : '>' ∉ (groupKey name).toList := by
    intro h
    rw [groupKey, String.toList_ofList, List.mem_append, List.mem_append] at h
    rcases h with (h | h) | h
    · split at h
      · exact absurd (List.mem_singleton.1 h) (by decide)
      · cases h
    · obtain ⟨c, -, hc⟩ := List.mem_map.1 h
      exact keyChar_ne_angle c hc
    · exact absurd (List.mem_singleton.1 h) (by decide)
  intro h
  rw [groupName, String.toList_append, List.mem_append] at h
  rcases h with h | h
  · exact hkey h
  · rw [Nat.toString_eq_repr, Nat.toList_repr] at h
    exact absurd (Nat.isDigit_of_mem_toDigits (by decide) (by decide) h) (by decide)

def named (names variants : List String) : List (Option (List Char) × List Char) :=
  (names.zip variants).map fun e => (some e.1.toList, e.2.toList)

theorem toList_alternatives_pairGroups (name : CheckName) (index : Nat) (pairs : List (String × String)) :
    (alternatives (pairGroups (pairNames name index pairs) pairs)).toList =
      joined (named (sides (pairNames name index pairs)) (sides pairs)) := by
  have hgroup : ∀ n e : String, (namedGroup n e).toList = enclosed (some n.toList) e.toList := by
    intro n e
    have hopen : "(?P<".toList = ['(', '?', 'P', '<'] := by decide
    have hangle : ">".toList = ['>'] := by decide
    have hclose : ")".toList = [')'] := by decide
    simp [namedGroup, enclosed, hopen, hangle, hclose]
  have hgroups : ∀ index, (pairGroups (pairNames name index pairs) pairs).map String.toList =
      (named (sides (pairNames name index pairs)) (sides pairs)).map fun e => enclosed e.1 e.2 := by
    induction pairs with
    | nil => exact fun _ => rfl
    | cons p pairs ih =>
      intro index
      have htail := ih (index + 1)
      simp only [pairGroups, sides, named] at htail
      simp only [pairGroups, sides, named, pairNames, List.zip_cons_cons, List.flatMap_cons, List.map_cons, hgroup,
        htail, List.cons_append, List.nil_append]
  rw [Pattern.toList_alternatives, joined, hgroups]

end Rule

/-! ## Groups -/

namespace Definition

/-- Variants that are patterns alone and in parentheses fit into their groups. -/
theorem exists_fits_named {f : Flags} (names : List String) {variants : List String}
    (h : ∀ e ∈ variants, standsAlone e = true) (hf : f.plain = .initial) :
    ∃ rs, List.Forall₂ (fun e r => Reader.Fits f e.2 r) (named names variants) rs := by
  have heach : ∀ e ∈ named names variants, ∃ r, Reader.Fits f e.2 r := by
    intro e he
    obtain ⟨⟨name, variant⟩, hmem, rfl⟩ := List.mem_map.1 he
    exact Reader.exists_fits (h variant (List.of_mem_zip hmem).2) hf
  exact Pattern.exists_forall₂ heach

/-- **Where the variants of a rule are patterns alone and in parentheses, each has its group, and exactly
one of the groups takes part in a match.** The groups of a rule always have different names. -/
theorem consistency_distinguishes {d : Definition} {pairs : List (String × String)} {nonword : Bool}
    (hkind : d.kind = .consistency pairs nonword) (hne : pairs ≠ []) {stylesPath : Option String} {fs : Files}
    {c : Check} (h : d.compile stylesPath fs = .ok c) :
    ∃ p, c.matcher = .consistency p (pairNames d.name 0 pairs) ∧ (sides (pairNames d.name 0 pairs)).Nodup ∧
      ((∀ e ∈ sides pairs, standsAlone e = true) →
        (∀ n ∈ sides (pairNames d.name 0 pairs), (p.indexOf? n).isSome) ∧
        ∀ text, ∀ m ∈ p.findAll text,
          ∃! n, n ∈ sides (pairNames d.name 0 pairs) ∧ ((p.indexOf? n).bind m.group?).isSome) := by
  obtain ⟨matcher, hmatcher, rfl⟩ := exists_of_map_ok h
  simp only [Definition.matcher, hkind] at hmatcher
  obtain ⟨p, hp, rfl⟩ := exists_of_map_ok hmatcher
  have hp := ofText?_of_pattern hp
  refine ⟨p, rfl, nodup_sides_pairNames d.name 0 pairs, fun halone => ?_⟩
  have hlength : (sides (pairNames d.name 0 pairs)).length = (sides pairs).length := by
    rw [sides_pairNames, List.length_map, List.length_range', length_sides]
  generalize hnames : sides (pairNames d.name 0 pairs) = names at hlength ⊢
  obtain ⟨r, hr, -⟩ := Pattern.exists_of_ofText? hp
  have htext := hr
  rw [consistencySource, String.toList_append] at htext
  obtain ⟨m, s, hbare, -, hread⟩ := exists_bare htext
  obtain ⟨rs, hfits⟩ := exists_fits_named (f := d.flags) names halone rfl
  have hangle : ∀ e ∈ named names (sides pairs), ∀ n ∈ e.1, '>' ∉ n := by
    intro e he n hn
    obtain ⟨⟨name, variant⟩, hmem, rfl⟩ := List.mem_map.1 he
    obtain rfl := Option.some.inj hn
    have hname := (List.of_mem_zip hmem).1
    rw [← hnames, sides_pairNames] at hname
    obtain ⟨i, -, rfl⟩ := List.mem_map.1 hname
    exact angle_not_mem_groupName d.name i
  have hsome : named names (sides pairs) ≠ [] := by
    intro hnone
    have hzero := congrArg List.length hnone
    rw [named, List.length_map, List.length_zip, hlength, Nat.min_self, length_sides, List.length_nil] at hzero
    exact hne (List.length_eq_zero_iff.1 (by omega))
  obtain ⟨hchoice, hgiven⟩ := Reader.choiceOf_wrap rfl hbare hfits hangle hsome
    (hnames ▸ toList_alternatives_pairGroups d.name 0 pairs) hread
  have hgroups : Reader.numbered 0 rs ≠ [] := by
    intro hnone
    rw [hnone, List.forall₂_nil_right_iff] at hgiven
    exact hsome hgiven
  refine Pattern.existsUnique_name hp hr hchoice hgroups ?_
  have hfirst : (names.zip (sides pairs)).map Prod.fst = names := List.map_fst_zip (Nat.le_of_eq hlength)
  rw [← hfirst, List.forall₂_map_left_iff]
  refine (List.forall₂_map_left_iff.1 hgiven).imp fun e g he => ?_
  have hname := he e.1.toList rfl
  rwa [String.ofList_toList] at hname

def variantsRule (pairs : List (String × String)) : Definition where
  name := ⟨"T", "S", isSegment_t, isSegment_s⟩
  message := ""
  description := ""
  severity := .suggestion
  scope := "text"
  link := none
  ignoreCase := false
  negate := false
  kind := .consistency pairs true

def variantsCheck (pairs : List (String × String)) (p : Pattern) : Check where
  name := (variantsRule pairs).name
  severity := .suggestion
  scope := "text"
  message := ""
  description := ""
  link := none
  matcher := .consistency p (pairNames (variantsRule pairs).name 0 pairs)

theorem compile_variantsRule {pairs : List (String × String)} {p : Pattern}
    (h : Pattern.ofText? ((variantsRule pairs).consistencySource pairs true) = some p) :
    (variantsRule pairs).compile none .empty = .ok (variantsCheck pairs p) := by
  have hkind : (variantsRule pairs).kind = .consistency pairs true := rfl
  rw [compile, matcher, hkind]
  simp only [pattern, h]
  rfl

/-- Variants of which one has a group of its own. -/
def greyPairs : List (String × String) := [("gr(e)y", "gray")]

theorem consistency_distinguishes_grey :
    ∃ c p, (variantsRule greyPairs).compile none .empty = .ok c ∧ c.matcher = .consistency p [("T_S_0", "T_S_1")] ∧
      (p.findAll "gray or grey".toList).length = 2 ∧
      ∀ text, ∀ m ∈ p.findAll text, ∃! n, n ∈ ["T_S_0", "T_S_1"] ∧ ((p.indexOf? n).bind m.group?).isSome := by
  have hread : (Pattern.ofText? ((variantsRule greyPairs).consistencySource greyPairs true)).any
      fun p => (p.findAll "gray or grey".toList).length = 2 := by decide +kernel
  have halone : ∀ e ∈ sides greyPairs, standsAlone e = true := by decide +kernel
  have hnames : pairNames (variantsRule greyPairs).name 0 greyPairs = [("T_S_0", "T_S_1")] := by decide +kernel
  obtain ⟨p, hp, hfound⟩ := (Option.any_eq_true _ _).1 hread
  have hcompile := compile_variantsRule hp
  obtain ⟨p', hmatcher, -, hall⟩ := consistency_distinguishes rfl (by decide) hcompile
  obtain rfl : p = p' := (Matcher.consistency.inj hmatcher).1
  have hboth : sides [("T_S_0", "T_S_1")] = ["T_S_0", "T_S_1"] := rfl
  rw [hnames] at hmatcher hall
  exact ⟨_, p, hcompile, hmatcher, of_decide_eq_true hfound, hboth ▸ (hall halone).2⟩

/-! ## A variant that is taken for a remark -/

/-- Variants of which the first ends in the sign that starts a remark. -/
def remarkPairs : List (String × String) := [("(?x)a #", "b\nc")]

/-- **A variant may be lost in a remark.** Each variant alone is a pattern without groups, and the rule
compiles, but the name of the second one names no group, and a text that uses both has no match. -/
theorem consistency_absorbed :
    (∀ e ∈ sides remarkPairs, isUsable e) ∧
    ∃ c p names, (variantsRule remarkPairs).compile none .empty = .ok c ∧ c.matcher = .consistency p names ∧
      (∃ n ∈ sides names, p.indexOf? n = none) ∧ p.findAll "a b\nc".toList = [] := by
  have husable : ∀ e ∈ sides remarkPairs, isUsable e := by decide +kernel
  have hlost : (Pattern.ofText? ((variantsRule remarkPairs).consistencySource remarkPairs true)).any fun p =>
      (∃ n ∈ sides (pairNames (variantsRule remarkPairs).name 0 remarkPairs), p.indexOf? n = none) ∧
        p.findAll "a b\nc".toList = [] := by
    decide +kernel
  obtain ⟨p, hp, hlost⟩ := (Option.any_eq_true _ _).1 hlost
  exact ⟨husable, variantsCheck remarkPairs p, p, _, compile_variantsRule hp, rfl, of_decide_eq_true hlost⟩

end Definition

end ProseLint
