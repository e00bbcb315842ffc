/-
Entries of a substitution rule that cannot be used. An entry is left out when its pattern is none by itself or has
groups (`Rule.unusable_iff`), so entries of this kind may be put in anywhere and the rule becomes what it becomes
without them (`Definition.compile_padded`): the same check, or refused for the same reason.
-/
import ProseLint.Proofs.Pattern.Groups
import ProseLint.Proofs.Rule.Substitution

namespace ProseLint

open Rule

namespace Rule

/-- An entry whose pattern, by itself, is none or has groups. A group that is repeated no times, as in `(a){0}b`, is
not one of the groups that a pattern has. -/
inductive Unusable (e : String × String) : Prop
  | unreadable (h : Pattern.ofText? e.1 = none)
  | grouped (p : Pattern) (h : Pattern.ofText? e.1 = some p) (hgroups : 0 < p.groupCount)

theorem unusable_iff {e : String × String} : Unusable e ↔ isUsable e.1 = false := by
  rw [isUsable]
  constructor
  · rintro (h | ⟨p, h, hgroups⟩)
    · rw [h]
      rfl
    · rw [h]
      simpa using Nat.ne_of_gt hgroups
  · intro h
    cases hp : Pattern.ofText? e.1 with
    | none => exact .unreadable hp
    | some p =>
      rw [hp] at h
      exact .grouped p hp (Nat.pos_of_ne_zero (by simpa using h))

theorem usable_cons (e : String × String) (swap : List (String × String)) :
    usable (e :: swap) = if isUsable e.1 then e :: usable swap else usable swap := List.filter_cons

/-- Entries, and the same with unusable ones put in at any places. -/
inductive Padded : (swap padded : List (String × String)) → Prop
  | nil : Padded [] []
  | entry (e : String × String) {swap padded : List (String × String)} (h : Padded swap padded) :
    Padded (e :: swap) (e :: padded)
  | unusable {e : String × String} (he : Unusable e) {swap padded : List (String × String)} (h : Padded swap padded) :
    Padded swap (e :: padded)

/-- **What is put in is left out.** -/
theorem Padded.usable_eq {swap padded : List (String × String)} (h : Padded swap padded) :
    usable padded = usable swap := by
  induction h with
  | nil => rfl
  | entry e _ ih => rw [usable_cons, usable_cons, ih]
  | unusable he _ ih => rw [usable_cons, unusable_iff.1 he, ih, if_neg Bool.false_ne_true]

/-- Entries are those that can be used, with unusable ones put in. -/
theorem padded_usable (swap : List (String × String)) : Padded (usable swap) swap := by
  induction swap with
  | nil => exact .nil
  | cons e swap ih =>
    rw [usable_cons]
    cases he : isUsable e.1 with
    | true => exact .entry e ih
    | false => exact .unusable (unusable_iff.2 he) ih

theorem not_unusable_of_mem {swap : List (String × String)} {e : String × String} (he : e ∈ usable swap) :
    ¬ Unusable e := by
  rw [unusable_iff, Bool.not_eq_false]
  exact (List.mem_filter.1 he).2

/-- There is one way to have the usable entries without the others. -/
theorem Padded.eq_usable {kept swap : List (String × String)} (h : Padded kept swap) (hkept : ∀ e ∈ kept, ¬ Unusable e) :
    kept = usable swap := by
  have hself : usable kept = kept := List.filter_eq_self.2 fun e he => by
    rw [← Bool.not_eq_false, ← unusable_iff]
    exact hkept e he
  rw [h.usable_eq, hself]

theorem usable_eq_nil_iff {swap : List (String × String)} : usable swap = [] ↔ ∀ e ∈ swap, Unusable e := by
  simp only [usable, List.filter_eq_nil_iff, unusable_iff, Bool.not_eq_true]

end Rule

namespace Definition

variable {d : Definition} {swap padded : List (String × String)} {nonword : Bool}

/-- What a substitution rule becomes, as its usable entries say. -/
structure Substitutes (d : Definition) (kept : List (String × String)) (nonword : Bool)
    (outcome : Except RuleError Check) : Prop where
  /-- Without a usable entry the definition is at fault, and in no other case. -/
  definition : ∀ fault, outcome = .error (.invalidDefinition fault) ↔ kept = [] ∧ fault = .lacks d.name .usableSwap
  /-- The pattern at fault is the one that the entries are joined to. -/
  pattern : ∀ fault, outcome = .error (.invalidPattern fault) ↔ kept ≠ [] ∧
    Pattern.ofText? (d.substitutionSource kept nonword) = none ∧
      fault = .unreadable d.name (d.substitutionSource kept nonword)
  check : ∀ c, outcome = .ok c → ∃ p, c.matcher = .substitution p (kept.map (·.2)) ∧
    p.source = d.substitutionSource kept nonword
  /-- Nothing else keeps the rule from being a check. -/
  total : (∃ c, outcome = .ok c) ∨ (∃ fault, outcome = .error (.invalidDefinition fault)) ∨
    ∃ fault, outcome = .error (.invalidPattern fault)

theorem substitutes_compile (hkind : d.kind = .substitution swap nonword) (stylesPath : Option String) (fs : Files) :
    d.Substitutes (usable swap) nonword (d.compile stylesPath fs) := by
  cases hkept : usable swap with
  | nil =>
    have hcompile : d.compile stylesPath fs = .error (.invalidDefinition (.lacks d.name .usableSwap)) := by
      rw [compile, matcher, hkind]
      simp only [hkept]
      rfl
    rw [hcompile]
    exact ⟨by simp [eq_comm], by simp, by simp, .inr (.inl ⟨_, rfl⟩)⟩
  | cons e kept =>
    rw [compile, matcher, hkind]
    simp only [hkept, Rule.pattern]
    cases hp : Pattern.ofText? (d.substitutionSource (e :: kept) nonword) with
    | none => exact ⟨by simp [Except.map], by simp [Except.map, hp, eq_comm], by simp [Except.map], .inr (.inr ⟨_, rfl⟩)⟩
    | some p =>
      obtain ⟨_, -, -, -, hsource⟩ := Pattern.exists_of_ofText? hp
      refine ⟨by simp [Except.map], by simp [Except.map, hp], fun c hc => ⟨p, ?_, hsource⟩, .inl ⟨_, rfl⟩⟩
      obtain rfl := Except.ok.inj hc
      rfl

/-- **Unusable entries are as if they were not there.** Wherever they are put in, the rule becomes what it becomes
without them, and this only the usable entries decide. -/
theorem compile_padded (hkind : d.kind = .substitution swap nonword) (h : Padded swap padded)
    (stylesPath : Option String) (fs : Files) :
    ({ d with kind := .substitution padded nonword } : Definition).compile stylesPath fs = d.compile stylesPath fs ∧
      ∃ kept, Padded kept swap ∧ (∀ e ∈ kept, ¬ Unusable e) ∧ (kept = [] ↔ ∀ e ∈ swap, Unusable e) ∧
        d.Substitutes kept nonword (d.compile stylesPath fs) := by
  refine ⟨?_, usable swap, padded_usable swap, fun e he => not_unusable_of_mem he, usable_eq_nil_iff,
    substitutes_compile hkind stylesPath fs⟩
  have hmatcher : ({ d with kind := .substitution padded nonword } : Definition).matcher stylesPath fs =
      d.matcher stylesPath fs := by
    rw [matcher, matcher, hkind]
    simp only [h.usable_eq]
    rfl
  rw [compile, hmatcher]
  rfl

def pointSwap : List (String × String) := [("utilize", "use"), ("(?:at|in) this point in time", "now")]

/-- The same with an entry that has a group between them and one that is no pattern after them. -/
def paddedPointSwap : List (String × String) :=
  [("utilize", "use"), ("(in)?to", "into"), ("(?:at|in) this point in time", "now"), ("[bad", "x")]

def wordsRule (swap : List (String × String)) : Definition :=
  { droppedRule with kind := .substitution swap false }

theorem compile_padded_point : Padded pointSwap paddedPointSwap ∧
    ∃ c p, (wordsRule paddedPointSwap).compile none .empty = .ok c ∧ c.matcher = .substitution p ["use", "now"] ∧
      p.source = "\\b(?:(utilize)|((?:at|in) this point in time))\\b" := by
  have hpadded : Padded pointSwap paddedPointSwap :=
    .entry _ (.unusable (unusable_iff.2 (by decide +kernel)) (.entry _ (.unusable (unusable_iff.2 (by decide +kernel)) .nil)))
  have hcompiles : ((wordsRule pointSwap).compile none .empty).isOk = true := by decide +kernel
  obtain ⟨hsame, kept, hkept, hnone, -, hbecomes⟩ := compile_padded (d := wordsRule pointSwap) rfl hpadded none .empty
  obtain rfl : kept = pointSwap := (hkept.eq_usable hnone).trans (by decide +kernel)
  cases hcompile : (wordsRule pointSwap).compile none .empty with
  | error fault =>
    rw [hcompile] at hcompiles
    cases hcompiles
  | ok c =>
    obtain ⟨p, hmatcher, hsource⟩ := hbecomes.check c hcompile
    exact ⟨hpadded, c, p, hsame.trans hcompile, hmatcher, hsource.trans (by decide +kernel)⟩

end Definition

end ProseLint
