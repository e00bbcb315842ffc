/-
Names of checks as they are written. A text is read as a name exactly when it is how the name is written
(`CheckName.parse?_eq_some_iff`), and a style and a rule have a name exactly when it is read from the two with a
dot between them (`CheckName.new?_iff_parse?`): neither half has a dot of its own, so the one in the text is
where it is cut.
-/
import ProseLint.CheckName.Json
import ProseLint.Proofs.Json.Written
import ProseLint.Proofs.Text.Boundary

namespace ProseLint

/-! ## The halves of a name -/

/-- A text that may be half of a name: it is not empty, and is made of letters and numbers of any script, hyphens
and underscores. -/
def Nameable (s : String) : Prop :=
  s ≠ "" ∧ ∀ c ∈ s.toList, Unicode.isAlphanumeric c = true ∨ c = '-' ∨ c = '_'

theorem isSegment_iff {s : String} : isSegment s = true ↔ Nameable s := by
  simp only [isSegment, Nameable, Bool.and_eq_true, decide_eq_true_eq, List.all_eq_true, Bool.or_eq_true, or_assoc]

theorem isSegment_dot_slash {s : String} (h : isSegment s = true) : '.' ∉ s.toList ∧ '/' ∉ s.toList := by
  obtain ⟨-, hall⟩ := isSegment_iff.1 h
  refine ⟨fun hmem => ?_, fun hmem => ?_⟩
  · exact absurd (hall '.' hmem) (by decide +kernel)
  · exact absurd (hall '/' hmem) (by decide +kernel)

theorem new?_style_rule (name : CheckName) : CheckName.new? name.style name.rule = some name := by
  rw [CheckName.new?, dif_pos name.style_isSegment, dif_pos name.rule_isSegment]

namespace CheckName

variable {style rule text : String} {name : CheckName}

/-! ## Names and texts -/

theorem toList_full (name : CheckName) : name.full.toList = name.style.toList ++ '.' :: name.rule.toList := by
  rw [full, String.toList_append, String.toList_append, List.append_assoc]
  rfl

theorem new?_eq_some_iff : new? style rule = some name ↔ name.style = style ∧ name.rule = rule := by
  constructor
  · intro h
    unfold new? at h
    split at h
    · split at h
      · obtain rfl := Option.some.inj h
        exact ⟨rfl, rfl⟩
      · cases h
    · cases h
  · rintro ⟨rfl, rfl⟩
    exact new?_style_rule name

theorem full_of_new? (h : new? style rule = some name) : name.full = style ++ "." ++ rule := by
  obtain ⟨rfl, rfl⟩ := new?_eq_some_iff.1 h
  rfl

theorem full_of_parse? (h : parse? text = some name) : name.full = text := by
  unfold parse? at h
  split at h
  · cases h
  · rename_i dot rest hrest
    have hdot : dot = '.' := by
      have hhead := List.head?_dropWhile_not (· ≠ '.') text.toList
      rw [hrest] at hhead
      simpa using hhead
    apply String.toList_injective
    calc name.full.toList
      _ = text.toList.takeWhile (· ≠ '.') ++ '.' :: rest := by
        rw [full_of_new? h]
        simp only [String.toList_append, String.toList_ofList, List.append_assoc]
        rfl
      _ = text.toList := by
        rw [hdot] at hrest
        rw [← hrest, List.takeWhile_append_dropWhile]

/-- The first dot of a name is the one between its halves. -/
theorem parse?_full (name : CheckName) : parse? name.full = some name := by
  have hstyle : ∀ c ∈ name.style.toList, decide (c ≠ '.') = true := fun c hc =>
    decide_eq_true fun heq => (isSegment_dot_slash name.style_isSegment).1 (heq ▸ hc)
  rw [parse?, toList_full, List.takeWhile_append_of_pos hstyle, List.dropWhile_append_of_pos hstyle]
  simp [new?_style_rule]

/-- **A text is read as a name exactly when the name is written so.** -/
theorem parse?_eq_some_iff : parse? text = some name ↔ name.full = text :=
  ⟨full_of_parse?, fun h => h ▸ parse?_full name⟩

/-- **A name is made of two halves exactly when it is read from them** with a dot between them, and has them for
its own. -/
theorem new?_iff_parse? : new? style rule = some name ↔
    parse? (style ++ "." ++ rule) = some name ∧ name.style = style ∧ name.rule = rule := by
  rw [new?_eq_some_iff, parse?_eq_some_iff]
  refine ⟨?_, fun h => h.2⟩
  rintro ⟨rfl, rfl⟩
  exact ⟨rfl, rfl, rfl⟩

/-- A text is two halves of a name with a dot between them, which is its only one. -/
structure Spells (text style rule : String) : Prop where
  joined : text = style ++ "." ++ rule
  dot : text.toList.count '.' = 1
  style : Nameable style
  rule : Nameable rule

theorem spells_full (name : CheckName) : Spells name.full name.style name.rule where
  joined := rfl
  dot := by
    rw [toList_full, List.count_append, List.count_cons_self,
      List.count_eq_zero_of_not_mem (isSegment_dot_slash name.style_isSegment).1,
      List.count_eq_zero_of_not_mem (isSegment_dot_slash name.rule_isSegment).1]
  style := isSegment_iff.1 name.style_isSegment
  rule := isSegment_iff.1 name.rule_isSegment

theorem parse?_iff_spells : (∃ name, parse? text = some name ∧ name.style = style ∧ name.rule = rule) ↔
    Spells text style rule := by
  constructor
  · rintro ⟨name, hname, rfl, rfl⟩
    exact full_of_parse? hname ▸ spells_full name
  · intro h
    exact ⟨⟨style, rule, isSegment_iff.2 h.style, isSegment_iff.2 h.rule⟩, parse?_eq_some_iff.2 h.joined.symm, rfl, rfl⟩

/-! ## Where the dot is -/

/-- The byte that the dot of a name is at. The letters before it may take more than one. -/
def dot (name : CheckName) : Nat := Text.byteLength name.style.toList

theorem slice?_style (name : CheckName) :
    Text.slice? name.full.toList ⟨0, name.dot⟩ = some name.style.toList := by
  rw [Text.slice?_eq_some, toList_full]
  exact ⟨[], '.' :: name.rule.toList, rfl, rfl, rfl⟩

theorem slice?_rule (name : CheckName) :
    Text.slice? name.full.toList ⟨name.dot + 1, Text.byteLength name.full.toList⟩ = some name.rule.toList := by
  have hdot : Text.byteLength (name.style.toList ++ ['.']) = name.dot + 1 := Text.byteLength_append _ _
  have hfull : name.full.toList = name.style.toList ++ ['.'] ++ name.rule.toList := by
    rw [toList_full, List.append_assoc, List.singleton_append]
  rw [Text.slice?_eq_some, hfull]
  exact ⟨name.style.toList ++ ['.'], [], (List.append_nil _).symm, hdot, rfl⟩

/-! ## Names in JSON -/

/-- A name in JSON is the text that it is written as. -/
theorem ofText?_toJson (name : CheckName) : Json.ofText? (String.ofList name.toJson) = some (.text (some name.full)) := by
  rw [Json.ofText?, String.toList_ofList]
  exact (Json.written_text name.full).read?_eq

/-- **Names are read exactly as they are written**, and cut where their dot is. -/
theorem parse?_exact (text style rule : String) :
    ((∃ name, parse? text = some name ∧ name.style = style ∧ name.rule = rule) ↔ Spells text style rule) ∧
      (∀ name, parse? text = some name ↔ name.full = text) ∧
      (∀ name, new? style rule = some name ↔
        parse? (style ++ "." ++ rule) = some name ∧ name.style = style ∧ name.rule = rule) ∧
      (∀ name : CheckName, Text.slice? name.full.toList ⟨0, name.dot⟩ = some name.style.toList ∧
        Text.slice? name.full.toList ⟨name.dot + 1, Text.byteLength name.full.toList⟩ = some name.rule.toList) ∧
      ∀ name : CheckName, Json.ofText? (String.ofList name.toJson) = some (.text (some name.full)) ∧
        (Json.ofText? (String.ofList name.toJson)).bind ofJson? = some name := by
  refine ⟨parse?_iff_spells, fun name => parse?_eq_some_iff, fun name => new?_iff_parse?,
    fun name => ⟨slice?_style name, slice?_rule name⟩, fun name => ?_⟩
  rw [ofText?_toJson]
  exact ⟨rfl, parse?_full name⟩

example : (parse? "write-good.so_start").map (·.rule) = some "so_start" ∧ parse? "a.b.c" = none := by decide +kernel

end CheckName

end ProseLint
