/-
What becomes of what a script prints. A finding that is printed as alerts are written, whichever of its keys
start with a capital, is read back as the record of that finding (`ScriptRecord.ofJson?_keyed`), and the alert
of this record is the finding itself, with the link of the check if it has none (`toAlert?_ofAlert`). So a
script that prints findings contributes those that lie in the text, and one that prints anything but an
array of records contributes nothing (`Check.run_printed`). All that the text is asked for is its length: an
alert of a script lies in the text, but its span is the one that was printed, which may start or end inside a
character (`Check.run_script_ranged`, `Check.run_script_splits`).
-/
import ProseLint.Check.Run
import ProseLint.Proofs.Json.Written
import ProseLint.Proofs.Pattern.Matches
import ProseLint.Proofs.Text.Decoding

namespace ProseLint

open Text (Span)
open Json

/-! ## Findings as they are printed -/

namespace Alert

/-- A key with a capital in front, for the keys that are chosen. -/
def spelt (capital : String → Bool) (key : String) : String := if capital key then key.capitalize else key

def fields (a : Alert) : List (String × List Char) :=
  [("check", writeText a.check), ("severity", a.severity.toJson), ("span", a.span.toJson),
    ("message", writeText a.message), ("description", writeText a.description)] ++
  (match a.link with
    | none => []
    | some link => [("link", writeText link)])

def values (a : Alert) : List (String × Json) :=
  [("check", text a.check), ("severity", text a.severity.name),
    ("span", array [number a.span.start, number a.span.stop]), ("message", text a.message),
    ("description", text a.description)] ++
  (match a.link with
    | none => []
    | some link => [("link", text link)])

/-- An alert as it is written, with capitals in front of the keys that are chosen. -/
def printed (capital : String → Bool) (a : Alert) : List Char :=
  writeObject (a.fields.map fun f => (spelt capital f.1, f.2))

def keyed (capital : String → Bool) (a : Alert) : Json :=
  object (a.values.map fun v => (some (spelt capital v.1), v.2))

@[simp] theorem printed_small (a : Alert) : a.printed (fun _ => false) = a.toJson := by
  have hspelt : (fun f : String × List Char => (spelt (fun _ => false) f.1, f.2)) = id := rfl
  rw [printed, hspelt, List.map_id]
  rfl

theorem written_values {a : Alert} (hstart : a.span.start < Nat.pow 2 64) (hstop : a.span.stop < Nat.pow 2 64) :
    List.Forall₂ (fun f v => f.1 = v.1 ∧ Written f.2 v.2) a.fields a.values := by
  have hspan : Written a.span.toJson (array [number a.span.start, number a.span.stop]) :=
    written_array (.cons (written_nat hstart) (.cons (written_nat hstop) .nil))
  have hlink : List.Forall₂ (fun (f : String × List Char) (v : String × Json) => f.1 = v.1 ∧ Written f.2 v.2)
      (match a.link with | none => [] | some link => [("link", writeText link)])
      (match a.link with | none => [] | some link => [("link", text link)]) := by
    cases a.link with
    | none => exact .nil
    | some link => exact .cons ⟨rfl, written_text link⟩ .nil
  exact .cons ⟨rfl, written_text _⟩ <| .cons ⟨rfl, written_text _⟩ <| .cons ⟨rfl, hspan⟩ <|
    .cons ⟨rfl, written_text _⟩ <| .cons ⟨rfl, written_text _⟩ hlink

/-- **What is printed of an alert is its value.** -/
theorem written_printed (capital : String → Bool) {a : Alert} (hstart : a.span.start < Nat.pow 2 64)
    (hstop : a.span.stop < Nat.pow 2 64) : Written (a.printed capital) (a.keyed capital) := by
  refine written_object (List.forall₂_map_left_iff.2 (List.forall₂_map_right_iff.2 ?_))
  exact (written_values hstart hstop).imp fun f v h => ⟨by rw [h.1], h.2⟩

end Alert

/-! ## Records -/

namespace ScriptRecord

def keys : List String := ["check", "severity", "span", "message", "description", "link"]

/-- A key is looked for in both spellings, and no other key is spelt so. -/
theorem contains_spelt {capital : String → Bool} {key other : String} (hkey : key ∈ keys) (hother : other ∈ keys) :
    [key, key.capitalize].contains (Alert.spelt capital other) = [key].contains other := by
  have hall : ∀ key ∈ keys, ∀ other ∈ keys, ∀ c : Bool,
      [key, key.capitalize].contains (if c then other.capitalize else other) = [key].contains other := by decide
  exact hall key hkey other hother (capital other)

theorem field?_spelt {capital : String → Bool} {key : String} (hkey : key ∈ keys) {values : List (String × Json)}
    (hvalues : ∀ v ∈ values, v.1 ∈ keys) :
    field? [key, key.capitalize] (values.map fun v => (some (Alert.spelt capital v.1), v.2)) =
      field? [key] (values.map fun v => (some v.1, v.2)) := by
  have hfilter : values.filter (fun v => [key, key.capitalize].contains (Alert.spelt capital v.1)) =
      values.filter (fun v => [key].contains v.1) :=
    List.filter_congr fun v hv => contains_spelt hkey (hvalues v hv)
  simp only [field?, List.filter_map, Function.comp_def, Option.any_some, hfilter]
  generalize values.filter (fun v => [key].contains v.1) = found
  match found with
  | [] | [_] | _ :: _ :: _ => rfl

def ofAlert (a : Alert) : ScriptRecord where
  check := some a.check
  severity := some a.severity.name
  span := a.span
  message := a.message
  description := a.description
  link := a.link

theorem field?_values (a : Alert) {key : String} (hkey : key ∈ keys) :
    field? [key] (a.values.map fun v => (some v.1, v.2)) = some (a.values.lookup key) := by
  rw [Alert.values]
  simp only [keys, List.mem_cons, List.not_mem_nil, or_false] at hkey
  rcases hkey with rfl | rfl | rfl | rfl | rfl | rfl <;> cases a.link <;> rfl

theorem field?_keyed (capital : String → Bool) (a : Alert) (key : String) (hkey : key ∈ keys) :
    field? [key, key.capitalize] (a.values.map fun v => (some (Alert.spelt capital v.1), v.2)) =
      some (a.values.lookup key) := by
  have hkeys : ∀ v ∈ a.values, v.1 ∈ keys := by
    rw [Alert.values]
    cases a.link <;> simp [keys]
  rw [field?_spelt hkey hkeys, field?_values a hkey]

/-- **An alert is read as its record, whichever of its keys start with a capital.** -/
theorem ofJson?_keyed (capital : String → Bool) (a : Alert) : ofJson? (a.keyed capital) = some (ofAlert a) := by
  let entries := a.values.map fun v => (some (Alert.spelt capital v.1), v.2)
  have hkeys : entries.all (·.1.isSome) = true := by
    rw [List.all_map]
    exact List.all_eq_true.2 fun _ _ => rfl
  -- the capitals of these keys are the other spellings that a record is read with
  have hcheck : field? ["check", "Check"] entries = _ := field?_keyed capital a "check" (by decide)
  have hseverity : field? ["severity", "Severity"] entries = _ := field?_keyed capital a "severity" (by decide)
  have hspan : field? ["span", "Span"] entries = _ := field?_keyed capital a "span" (by decide)
  have hmessage : field? ["message", "Message"] entries = _ := field?_keyed capital a "message" (by decide)
  have hdescription : field? ["description", "Description"] entries = _ :=
    field?_keyed capital a "description" (by decide)
  have hlink : field? ["link", "Link"] entries = _ := field?_keyed capital a "link" (by decide)
  rw [Alert.keyed, ofJson?, ofEntries?, if_pos hkeys]
  simp only [required?, defaulted?]
  rw [hcheck, hseverity, hspan, hmessage, hdescription, hlink, ofAlert, Alert.values]
  cases a.link <;> rfl

/-- **The alert of the record of an alert is that alert**, with the link of the check if it has none. -/
theorem toAlert?_ofAlert (a : Alert) (c : Check) (n : Nat) :
    (ofAlert a).toAlert? c n =
      if a.span.start ≤ a.span.stop ∧ a.span.stop ≤ n then some { a with link := a.link <|> c.link } else none := by
  simp only [toAlert?, ofAlert, Option.getD_some, Option.bind_some, Severity.ofName?_name]

theorem filterMap_ofAlert (as : List Alert) (c : Check) (n : Nat) :
    (as.map ofAlert).filterMap (·.toAlert? c n) =
      (as.filter fun a => a.span.start ≤ a.span.stop ∧ a.span.stop ≤ n).map
        fun a => { a with link := a.link <|> c.link } := by
  induction as with
  | nil => rfl
  | cons a as ih =>
    rw [List.map_cons, List.filterMap_cons, toAlert?_ofAlert, ih]
    by_cases hin : a.span.start ≤ a.span.stop ∧ a.span.stop ≤ n
    · rw [if_pos hin, List.filter_cons_of_pos (by simpa using hin), List.map_cons]
    · rw [if_neg hin, List.filter_cons_of_neg (by simpa using hin)]

/-- **A script that prints alerts reports their records.** -/
theorem ofOutput?_printed {found : List (Alert × (String → Bool))}
    (hfound : ∀ f ∈ found, f.1.span.start < Nat.pow 2 64 ∧ f.1.span.stop < Nat.pow 2 64) :
    ofOutput? (Text.encode (String.ofList (writeArray (found.map fun f => f.1.printed f.2)))) =
      some ((found.map (·.1)).map ofAlert) := by
  have hwritten : Written (writeArray (found.map fun f => f.1.printed f.2))
      (array (found.map fun f => f.1.keyed f.2)) := by
    refine written_array (List.forall₂_map_left_iff.2 (List.forall₂_map_right_iff.2 (List.forall₂_same.2 ?_)))
    exact fun f hf => Alert.written_printed f.2 (hfound f hf).1 (hfound f hf).2
  rw [ofOutput?, Text.decode_encode, String.toList_ofList, hwritten.read?_eq]
  simp only [List.mapM_map, List.map_map, Function.comp_def, ofJson?_keyed]
  exact List.mapM_pure

/-- **What is no array of records reports nothing.** -/
theorem ofOutput?_eq_none {output : List UInt8}
    (h : ∀ items, Json.read? (Text.decode output) = some (array items) → ∃ item ∈ items, ofJson? item = none) :
    ofOutput? output = none := by
  rw [ofOutput?]
  split
  · rename_i items hread
    obtain ⟨item, hitem, hnone⟩ := h items hread
    obtain ⟨front, back, rfl⟩ := List.append_of_mem hitem
    rw [List.mapM_append, List.mapM_cons, hnone]
    cases front.mapM ofJson? <;> rfl
  · rfl

end ScriptRecord

namespace Check

variable {c : Check} {runtime path : String}

theorem run_script (hc : c.matcher = .script runtime path) (t : Masked) (ctx : Context) (host : ScriptHost) :
    (c.run t ctx host).1 = c.script runtime path t host := by
  rw [run, hc]

/-- **What a script prints is what its check finds.** Of the alerts that it prints, with any keys in capitals, those
that lie in the text are found, in order and unchanged but for the link of the check where one has none. An output
that is no array, or that has an item that is no record, comes to nothing. -/
theorem run_printed (hc : c.matcher = .script runtime path) (t : Masked) (ctx : Context) (host : ScriptHost) :
    (∀ found : List (Alert × (String → Bool)),
      (∀ f ∈ found, f.1.span.start < Nat.pow 2 64 ∧ f.1.span.stop < Nat.pow 2 64) →
      host.runner ⟨runtime, path, String.ofList t.text, host.timeout⟩ =
        .ok (Text.encode (String.ofList (writeArray (found.map fun f => f.1.printed f.2)))) →
      (c.run t ctx host).1 =
        ((found.map (·.1)).filter fun a => a.span.start ≤ a.span.stop ∧ a.span.stop ≤ Text.byteLength t.text).map
          fun a => { a with link := a.link <|> c.link }) ∧
    (∀ output, host.runner ⟨runtime, path, String.ofList t.text, host.timeout⟩ = .ok output →
      (∀ items, Json.read? (Text.decode output) = some (array items) →
        ∃ item ∈ items, ScriptRecord.ofJson? item = none) →
      (c.run t ctx host).1 = []) := by
  rw [run_script hc, script, ScriptHost.execute]
  refine ⟨fun found hfound hrun => ?_, fun output hrun houtput => ?_⟩
  · rw [hrun]
    simp only [ScriptRecord.ofOutput?_printed hfound]
    exact ScriptRecord.filterMap_ofAlert _ c _
  · rw [hrun]
    simp only [ScriptRecord.ofOutput?_eq_none houtput]

/-- A check that runs a script. -/
def spellCheck : Check where
  name := ⟨"Words", "Spelling", by decide +kernel, by decide +kernel⟩
  severity := .warning
  scope := "text"
  message := ""
  description := ""
  link := some "spelling"
  matcher := .script "sh" "/styles/Words/scripts/spell.sh"

/-- A text of one character that takes two bytes. -/
def accented : Masked := .unmasked ['é']

/-- A host of scripts that print the same for every text. -/
def printing (output : List Char) : ScriptHost := ⟨fun _ => .ok (Text.encode (String.ofList output)), 5000⟩

def misspelt (stop : Nat) : Alert := ⟨"Words.Spelling", .error, ⟨0, stop⟩, "\"é\" is no word", "", none⟩

/-- Two findings as they are printed, the first one after the end of the text, the second one with a capital. -/
def misspellings : List (Alert × (String → Bool)) := [(misspelt 9, fun _ => false), (misspelt 2, (· = "span"))]

/-- A finding and a number as they are printed. -/
def misspellingAndNumber : List Char := writeArray [(misspelt 2).printed fun _ => false, writeNat 7]

/-- Of two findings, the one that ends after the text is passed over, and a finding beside a number is not found. -/
theorem run_printed_capitalized :
    spellCheck.matcher = .script "sh" "/styles/Words/scripts/spell.sh" ∧
      (∀ f ∈ misspellings, f.1.span.start < Nat.pow 2 64 ∧ f.1.span.stop < Nat.pow 2 64) ∧
      (spellCheck.run accented (.fresh "text")
        (printing (writeArray (misspellings.map fun f => f.1.printed f.2)))).1 =
          [{ misspelt 2 with link := some "spelling" }] ∧
      (∀ items, Json.read? (Text.decode (Text.encode (String.ofList misspellingAndNumber))) = some (array items) →
        ∃ item ∈ items, ScriptRecord.ofJson? item = none) ∧
      (spellCheck.run accented (.fresh "text") (printing misspellingAndNumber)).1 = [] := by
  have hbounds : ∀ f ∈ misspellings, f.1.span.start < Nat.pow 2 64 ∧ f.1.span.stop < Nat.pow 2 64 := by
    simp [misspellings, misspelt]
  have hnumber : ∀ items,
      Json.read? (Text.decode (Text.encode (String.ofList misspellingAndNumber))) = some (array items) →
        ∃ item ∈ items, ScriptRecord.ofJson? item = none := by
    have hwritten : Written misspellingAndNumber
        (array [(misspelt 2).keyed fun _ => false, number (some 7)]) :=
      written_array (.cons (Alert.written_printed _ (by decide) (by decide)) (.cons (written_nat (by decide)) .nil))
    intro items hread
    rw [Text.decode_encode, String.toList_ofList, hwritten.read?_eq] at hread
    cases hread
    exact ⟨number (some 7), by simp, rfl⟩
  exact ⟨rfl, hbounds, ((run_printed rfl accented (.fresh "text") (printing _)).1 _ hbounds rfl).trans (by decide),
    hnumber, (run_printed rfl accented (.fresh "text") (printing _)).2 _ rfl hnumber⟩

/-- The alerts of records stand where the records do, those of them that lie in the text. -/
theorem map_span_filterMap (records : List ScriptRecord) (c : Check) (n : Nat) :
    (records.filterMap (·.toAlert? c n)).map (·.span) =
      (records.map (·.span)).filter fun s => s.start ≤ s.stop ∧ s.stop ≤ n := by
  induction records with
  | nil => rfl
  | cons r records ih =>
    rw [List.filterMap_cons, List.map_cons, ScriptRecord.toAlert?]
    by_cases hin : r.span.start ≤ r.span.stop ∧ r.span.stop ≤ n
    · rw [if_pos hin, List.map_cons, ih, List.filter_cons_of_pos (by simpa using hin)]
    · rw [if_neg hin, ih, List.filter_cons_of_neg (by simpa using hin)]

/-- **The alerts of a script lie in the text.** That is all that is asked of a record: the alerts stand at the spans
of the records that the script has printed, in order, less those that do not lie in the text. So the text can be cut
at an alert exactly if the script has printed ends of characters. -/
theorem run_script_ranged (hc : c.matcher = .script runtime path) (t : Masked) (ctx : Context) (host : ScriptHost) :
    (∀ records, host.execute runtime path (String.ofList t.text) = .ok records →
      (c.run t ctx host).1.map (·.span) =
        (records.map (·.span)).filter fun s => s.start ≤ s.stop ∧ s.stop ≤ Text.byteLength t.text) ∧
    ∀ a ∈ (c.run t ctx host).1,
      a.span.start ≤ a.span.stop ∧ a.span.stop ≤ Text.byteLength t.text ∧
        (∃ records, host.execute runtime path (String.ofList t.text) = .ok records ∧ ∃ r ∈ records, r.span = a.span) ∧
        ((Text.slice? t.text a.span).isSome ↔
          Text.IsBoundary t.text a.span.start ∧ Text.IsBoundary t.text a.span.stop) ∧
        ((∀ ch ∈ t.text, ch.utf8Size = 1) →
          Text.IsBoundary t.text a.span.start ∧ Text.IsBoundary t.text a.span.stop) := by
  rw [run_script hc, script]
  cases hexecute : host.execute runtime path (String.ofList t.text) with
  | error fault =>
    constructor
    · intro records hrecords
      cases hrecords
    · intro a ha
      cases ha
  | ok records =>
    have hspans := map_span_filterMap records c (Text.byteLength t.text)
    constructor
    · intro records' hrecords
      obtain rfl := Except.ok.inj hrecords
      exact hspans
    · intro a ha
      have hmem : a.span ∈ (records.map (·.span)).filter fun s => s.start ≤ s.stop ∧ s.stop ≤ Text.byteLength t.text :=
        hspans ▸ List.mem_map_of_mem ha
      obtain ⟨hprinted, hin⟩ := List.mem_filter.1 hmem
      obtain ⟨r, hr, hspan⟩ := List.mem_map.1 hprinted
      obtain ⟨hstart, hstop⟩ := of_decide_eq_true hin
      refine ⟨hstart, hstop, ⟨records, rfl, r, hr, hspan⟩, ?_, ?_⟩
      · rw [Text.isSome_slice?_iff, and_iff_right hstart]
      · intro hnarrow
        exact ⟨Text.isBoundary_of_utf8Size_eq_one hnarrow (Nat.le_trans hstart hstop),
          Text.isBoundary_of_utf8Size_eq_one hnarrow hstop⟩

/-- Records that say no more than where they stand. -/
def spansOnly (spans : List Span) : List Char := writeArray (spans.map fun s => writeObject [("span", s.toJson)])

/-- Of three records on a text of plain letters, the one that ends after it is passed over; the text can be cut at
the others. -/
theorem run_script_ranged_plain :
    spellCheck.matcher = .script "sh" "/styles/Words/scripts/spell.sh" ∧
      let host := printing (spansOnly [⟨1, 3⟩, ⟨2, 4⟩, ⟨0, 1⟩])
      let as := (spellCheck.run (.unmasked ['t', 'e', 'h']) (.fresh "text") host).1
      as.map (·.span) = [⟨1, 3⟩, ⟨0, 1⟩] ∧
        (∀ records, host.execute "sh" "/styles/Words/scripts/spell.sh" "teh" = .ok records →
          as.map (·.span) = (records.map (·.span)).filter fun s => s.start ≤ s.stop ∧ s.stop ≤ 3) ∧
        ∀ a ∈ as, a.span.start ≤ a.span.stop ∧ a.span.stop ≤ 3 ∧
          (∃ records, host.execute "sh" "/styles/Words/scripts/spell.sh" "teh" = .ok records ∧
            ∃ r ∈ records, r.span = a.span) ∧
          ((Text.slice? ['t', 'e', 'h'] a.span).isSome ↔
            Text.IsBoundary ['t', 'e', 'h'] a.span.start ∧ Text.IsBoundary ['t', 'e', 'h'] a.span.stop) ∧
          ((∀ ch ∈ ['t', 'e', 'h'], ch.utf8Size = 1) →
            Text.IsBoundary ['t', 'e', 'h'] a.span.start ∧ Text.IsBoundary ['t', 'e', 'h'] a.span.stop) :=
  ⟨rfl, by decide +kernel, run_script_ranged rfl (.unmasked ['t', 'e', 'h']) (.fresh "text") _⟩

/-- **An alert of a script may end inside a character.** The text cannot be cut there. -/
theorem run_script_splits :
    ∃ a ∈ (spellCheck.run accented (.fresh "text") (printing (spansOnly [⟨0, 1⟩]))).1, a.span = ⟨0, 1⟩ ∧
      ¬Text.IsBoundary accented.text a.span.stop ∧ Text.slice? accented.text a.span = none := by
  have hspans : ((spellCheck.run accented (.fresh "text") (printing (spansOnly [⟨0, 1⟩]))).1).map (·.span) = [⟨0, 1⟩] := by
    decide +kernel
  have hslice : Text.slice? accented.text ⟨0, 1⟩ = none := by decide
  obtain ⟨a, ha, hspan⟩ := List.map_eq_singleton_iff.1 hspans
  refine ⟨a, by rw [ha]; exact List.mem_singleton_self a, hspan, fun hstop => ?_, by rw [hspan, hslice]⟩
  rw [hspan] at hstop
  have hcut := Text.isSome_slice?_iff.2 ⟨Nat.zero_le 1, Text.isBoundary_zero accented.text, hstop⟩
  rw [hslice] at hcut
  cases hcut

end Check

end ProseLint
