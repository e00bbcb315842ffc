/-
The order of entries. A table has its entries in the order in which the text gives their keys
(`lasting_inOrder`), and so the strings of a table stand in the text as they do in the table
(`InOrder.declares`).
-/
import Mathlib.Data.List.Forall2
import ProseLint.Proofs.Toml.Tables

namespace ProseLint.Toml

/-- The second place comes after the first in a text. -/
def After (here there : List Char) : Prop := there <:+ here ∧ there ≠ here

theorem After.of_suffix {here there rest : List Char} (h : After here there) (hrest : rest <:+ there) :
    After here rest := by
  refine ⟨hrest.trans h.1, ?_⟩
  rintro rfl
  exact h.2 (h.1.eq_of_length_le hrest.length_le)

/-- The pairs stand in a text one after the other, each of them as a key with its value. -/
def Declares (text : List Char) (pairs : List (String × String)) : Prop :=
  ∃ places : List (List Char),
    List.Forall₂ (fun here pair => Sets here pair.1 (.string pair.2)) places pairs ∧
      places.Pairwise After ∧ ∀ here ∈ places, here <:+ text

/-- The entries have been put in one after the other, and nothing of them stands in what is left. -/
def InOrder (text here : List Char) (entries : List (String × Value)) : Prop :=
  ∃ places : List (List Char),
    List.Forall₂ (fun place e => Placed place e.1 e.2) places entries ∧
      places.Pairwise After ∧ ∀ place ∈ places, place <:+ text ∧ After place here

theorem lasting_inOrder (text : List Char) : Lasting text (InOrder text) where
  empty _ := ⟨[], .nil, .nil, fun _ h => absurd h List.not_mem_nil⟩
  later := by
    rintro here rest entries ⟨places, hplaced, hafter, hall⟩ hrest
    refine ⟨places, hplaced, hafter, fun place hplace => ?_⟩
    obtain ⟨htext, hhere⟩ := hall place hplace
    exact ⟨htext, hhere.of_suffix hrest⟩
  append := by
    rintro here rest entries key v ⟨places, hplaced, hafter, hall⟩ hpasses - hnew
    refine ⟨places ++ [here], List.rel_append hplaced (.cons hnew .nil), ?_, ?_⟩
    · rw [List.pairwise_append]
      refine ⟨hafter, List.pairwise_singleton _ _, fun place hplace q hq => ?_⟩
      obtain rfl := List.mem_singleton.1 hq
      exact (hall place hplace).2
    · intro place hplace
      rcases List.mem_append.1 hplace with hplace | hplace
      · obtain ⟨htext, hhere⟩ := hall place hplace
        exact ⟨htext, hhere.of_suffix hpasses.suffix⟩
      · obtain rfl := List.mem_singleton.1 hplace
        exact ⟨hpasses.within, hpasses.suffix, hpasses.ne⟩
  replace := by
    rintro here entries v key ⟨places, hplaced, hafter, hall⟩ htable
    refine ⟨places, ?_, hafter, hall⟩
    rw [replace, List.forall₂_map_right_iff]
    refine hplaced.imp fun place e he => ?_
    split
    · exact .inl htable
    · exact he

/-- **Strings that a table holds stand in the text in its order.** -/
theorem InOrder.declares {text here : List Char} {pairs : List (String × String)}
    (h : InOrder text here (pairs.map fun pair => (pair.1, .string pair.2))) : Declares text pairs := by
  obtain ⟨places, hplaced, hafter, hall⟩ := h
  refine ⟨places, ?_, hafter, fun place hplace => (hall place hplace).1⟩
  rw [List.forall₂_map_right_iff] at hplaced
  refine hplaced.imp fun place pair hpair => ?_
  -- A string is no table and so stands where it has been put.
  exact hpair.resolve_left nofun

end ProseLint.Toml
