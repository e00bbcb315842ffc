/-
Alerts that are written and read again. The text of an alert spells an object, from which the same alert is read,
whatever its texts and its link hold; the object has a link exactly if the alert has one (`Alert.read_toJson`).
-/
import ProseLint.Proofs.Script.Reports

namespace ProseLint.Alert

open Json

/-- The entries of an alert as it is written. -/
def entries (a : Alert) : List (Option String × Json) := a.values.map fun v => (some v.1, v.2)

theorem ofText?_toJson {a : Alert} (hstart : a.span.start < Nat.pow 2 64) (hstop : a.span.stop < Nat.pow 2 64) :
    Json.ofText? (String.ofList a.toJson) = some (object a.entries) := by
  rw [Json.ofText?, String.toList_ofList, ← printed_small, (written_printed _ hstart hstop).read?_eq]
  rfl

/-- **An alert is read from its entries.** -/
theorem ofEntries?_entries (a : Alert) : ofEntries? a.entries = some a := by
  have hkeys : a.entries.all (·.1.isSome) = true := by
    rw [entries, List.all_map]
    exact List.all_eq_true.2 fun _ _ => rfl
  have hfield {key : String} (hkey : key ∈ ScriptRecord.keys) :
      field? [key] a.entries = some (a.values.lookup key) :=
    ScriptRecord.field?_values a hkey
  rw [ofEntries?, if_pos hkeys]
  simp only [required?, defaulted?]
  rw [hfield (by decide), hfield (by decide), hfield (by decide), hfield (by decide), hfield (by decide),
    hfield (by decide), values]
  obtain ⟨check, severity, span, message, description, link⟩ := a
  cases severity <;> cases link <;> rfl

theorem link_mem_entries_iff (a : Alert) : (∃ v, (some "link", v) ∈ a.entries) ↔ a.link.isSome = true := by
  rw [entries, values]
  cases a.link with
  | none => simp
  | some link => simp

/-- **An alert survives to be written and read.** Whatever its texts hold, and be its link missing or empty, the
text of an alert spells an object from which the alert is read; a link is in it exactly if the alert has one. -/
theorem read_toJson {a : Alert} (hstart : a.span.start < Nat.pow 2 64) (hstop : a.span.stop < Nat.pow 2 64) :
    ∃ entries, Json.ofText? (String.ofList a.toJson) = some (object entries) ∧
      Alert.ofJson? (object entries) = some a ∧ ((∃ v, (some "link", v) ∈ entries) ↔ a.link.isSome = true) :=
  ⟨a.entries, ofText?_toJson hstart hstop, ofEntries?_entries a, link_mem_entries_iff a⟩

/-- An alert up to the largest offset, with quotes, a line end and a control character in its texts, and with a
link that is empty. -/
def awkward : Alert := ⟨"T.S", .error, ⟨0, 18446744073709551615⟩, "say \"é\"\n", "\x01", some ""⟩

/-- It is read again, and its link is written although it is empty. -/
theorem read_toJson_awkward :
    awkward.span.start < Nat.pow 2 64 ∧ awkward.span.stop < Nat.pow 2 64 ∧
      ∃ entries, Json.ofText? (String.ofList awkward.toJson) = some (object entries) ∧
        Alert.ofJson? (object entries) = some awkward ∧ ∃ v, (some "link", v) ∈ entries := by
  have hstart : awkward.span.start < Nat.pow 2 64 := by decide
  have hstop : awkward.span.stop < Nat.pow 2 64 := by decide
  obtain ⟨entries, hread, halert, hlink⟩ := read_toJson hstart hstop
  exact ⟨hstart, hstop, entries, hread, halert, hlink.2 rfl⟩

end ProseLint.Alert
