/-
The keys of tables. Whatever a document does to the tables it has made, none of them ends up with two
entries under one key (`readEntries?_distinct`), and so the keys of a map are distinct (`nodup_mapOf?`). A
field that may go by several names is read of the one entry under one of them (`field?_cases`).
-/
import ProseLint.Proofs.Toml.Tables

namespace ProseLint

namespace Toml

/-- No table in a value has two entries under one key. -/
inductive Value.Distinct : Value → Prop
  | string (s : String) : Distinct (.string s)
  | integer (n : Int) : Distinct (.integer n)
  | float : Distinct .float
  | boolean (b : Bool) : Distinct (.boolean b)
  | date (text : String) : Distinct (.date text)
  | array {items : List Value} (h : ∀ v ∈ items, Distinct v) : Distinct (.array items)
  | table {form : TableForm} {entries : List (String × Value)} (keys : (entries.map (·.1)).Nodup)
      (h : ∀ e ∈ entries, Distinct e.2) : Distinct (.table form entries)
  | tables {elements : List Value} (h : ∀ v ∈ elements, Distinct v) : Distinct (.tables elements)

theorem Value.Every.distinct {v : Value} (h : v.Every fun entries => (entries.map (·.1)).Nodup) : v.Distinct := by
  induction h with
  | string s => exact .string s
  | integer n => exact .integer n
  | float => exact .float
  | boolean b => exact .boolean b
  | date text => exact .date text
  | array _ ih => exact .array ih
  | table keys _ ih => exact .table keys ih
  | tables _ ih => exact .tables ih

theorem keys_replace (key : String) (v : Value) (entries : List (String × Value)) :
    (replace key v entries).map (·.1) = entries.map (·.1) := by
  rw [replace, List.map_map]
  refine List.map_congr_left fun e _ => ?_
  simp only [Function.comp_apply]
  split
  · rename_i he
    exact he.symm
  · rfl

/-- Distinct keys stay so: what is put in has a new one, and another value leaves the keys as they are. -/
theorem lasting_nodup (text : List Char) : Lasting text fun _ entries => (entries.map (·.1)).Nodup where
  empty _ := .nil
  later h _ := h
  append {_ _ entries key v} h _ hkey _ := by
    rw [List.map_append, List.nodup_append]
    refine ⟨h, by simp, ?_⟩
    rintro a ha b hb rfl
    obtain rfl : a = key := by simpa using hb
    exact hkey ha
  replace key h _ := by rwa [keys_replace]

/-- **No table of a document has two entries under one key.** -/
theorem readEntries?_distinct {text : String} {entries : List (String × Value)}
    (h : readEntries? text = some entries) : (Value.table .headed entries).Distinct :=
  ((lasting_nodup _).of_readEntries? h).distinct

/-! ## Fields -/

variable {α : Type} {names : List String} {read? : Value → Option α} {default a : α}
  {entries : List (String × Value)} {v : Value} {pairs : List (String × String)}

/-- The pairs of a map of strings are the entries of its table. -/
theorem entries_of_mapOf? (h : v.mapOf? Value.string? = some pairs) :
    v.entries? = some (pairs.map fun pair => (pair.1, .string pair.2)) := by
  obtain ⟨entries, hentries, hmap⟩ := Option.bind_eq_some_iff.1 h
  rw [hentries]
  clear h hentries
  induction entries generalizing pairs with
  | nil =>
    obtain rfl := Option.some.inj hmap
    rfl
  | cons e entries ih =>
    rw [List.mapM_cons] at hmap
    obtain ⟨pair, hpair, hmap⟩ := Option.bind_eq_some_iff.1 hmap
    obtain ⟨rest, hrest, hmap⟩ := Option.bind_eq_some_iff.1 hmap
    obtain rfl := Option.some.inj hmap
    obtain ⟨s, hs, rfl⟩ := Option.map_eq_some_iff.1 hpair
    obtain ⟨key, v⟩ := e
    cases v with
    | string t =>
      obtain rfl := Option.some.inj hs
      exact congrArg (Option.map ((key, Value.string t) :: ·)) (ih hrest)
    | _ => cases hs

/-- The keys of a map are distinct. -/
theorem nodup_mapOf? (hv : v.Distinct) (hmap : v.mapOf? Value.string? = some pairs) : (pairs.map (·.1)).Nodup := by
  have hentries := entries_of_mapOf? hmap
  have hkeys : pairs.map (·.1) = (pairs.map fun pair => (pair.1, Value.string pair.2)).map (·.1) := by
    rw [List.map_map]
    rfl
  rw [hkeys]
  cases hv with
  | table keys _ => exact Option.some.inj hentries ▸ keys
  | date text => exact Option.some.inj hentries ▸ (by simp)
  | _ => cases hentries

/-- A field has its default if none of its names is a key, else what its one entry holds. -/
theorem field?_cases (h : field? names read? default entries = some a) :
    (a = default ∧ ∀ e ∈ entries, e.1 ∉ names) ∨
      ∃ key v, key ∈ names ∧ (key, v) ∈ entries ∧ read? v = some a ∧
        ∀ e ∈ entries, e.1 ∈ names → e = (key, v) := by
  have hmem : ∀ e, e ∈ entries.filter (fun e => names.contains e.1) ↔ e ∈ entries ∧ e.1 ∈ names := by
    simp
  unfold field? at h
  split at h
  · rename_i hfilter
    refine .inl ⟨(Option.some.inj h).symm, fun e he hname => ?_⟩
    exact List.not_mem_nil (hfilter ▸ (hmem e).2 ⟨he, hname⟩)
  · rename_i key v hfilter
    rw [hfilter] at hmem
    obtain ⟨hentry, hname⟩ := (hmem (key, v)).1 (List.mem_singleton.2 rfl)
    exact .inr ⟨key, v, hname, hentry, h, fun e he hname => List.mem_singleton.1 ((hmem e).2 ⟨he, hname⟩)⟩
  · cases h

end Toml

end ProseLint
