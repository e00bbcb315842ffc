/-
Settings by the format of a document, in the order of the formats' names.
-/
namespace ProseLint

/-- At most one setting for each format. -/
structure ByFormat (α : Type) where
  entries : List (String × α)
  sorted : (entries.map (·.1)).Pairwise (· < ·)

namespace ByFormat

variable {α : Type}

def empty : ByFormat α := ⟨[], by simp⟩

/-- Puts a setting in its place, over an earlier one of the format. -/
def place (format : String) (v : α) : List (String × α) → List (String × α)
  | [] => [(format, v)]
  | e :: es =>
    if format < e.1 then (format, v) :: e :: es
    else if format = e.1 then (format, v) :: es
    else e :: place format v es

theorem mem_place {format : String} {v : α} {es : List (String × α)} {k : String}
    (h : k ∈ (place format v es).map (·.1)) : k = format ∨ k ∈ es.map (·.1) := by
  induction es with
  | nil => simpa [place] using h
  | cons e es ih =>
    unfold place at h
    split at h
    · simpa using h
    · split at h
      · rename_i he
        simp only [List.map_cons, List.mem_cons] at h ⊢
        rcases h with h | h
        · exact .inl h
        · exact .inr (.inr h)
      · simp only [List.map_cons, List.mem_cons] at h ⊢
        rcases h with h | h
        · exact .inr (.inl h)
        · exact (ih h).imp_right .inr

theorem sorted_place (format : String) (v : α) {es : List (String × α)}
    (h : (es.map (·.1)).Pairwise (· < ·)) :
    ((place format v es).map (·.1)).Pairwise (· < ·) := by
  induction es with
  | nil => simp [place]
  | cons e es ih =>
    rw [List.map_cons, List.pairwise_cons] at h
    unfold place
    split
    · rename_i hlt
      simp only [List.map_cons, List.pairwise_cons, List.mem_cons]
      exact ⟨fun k hk => hk.elim (· ▸ hlt) fun hk => String.lt_trans hlt (h.1 k hk), h.1, h.2⟩
    · split
      · rename_i he
        simp only [List.map_cons, List.pairwise_cons]
        exact ⟨fun k hk => he ▸ h.1 k hk, h.2⟩
      · rename_i hlt hne
        simp only [List.map_cons, List.pairwise_cons]
        refine ⟨fun k hk => ?_, ih h.2⟩
        rcases mem_place hk with rfl | hk
        · exact String.not_le.1 fun hle => hne (String.le_antisymm hle (String.not_lt.1 hlt))
        · exact h.1 k hk

def insert (m : ByFormat α) (format : String) (v : α) : ByFormat α :=
  ⟨place format v m.entries, sorted_place format v m.sorted⟩

def ofList (entries : List (String × α)) : ByFormat α :=
  entries.foldl (fun m e => m.insert e.1 e.2) empty

end ByFormat

end ProseLint
