/-
Rules of plain words. A rule that looks for whole words, each of letters, digits and underscores, looks up
every run of word characters of the copy and flags those that it has (`Check.run_ofWords`), in whatever
order it was given its words. What the mask hides is no part of such a word, so each alert quotes the text.
-/
import ProseLint.Proofs.Check.Findings
import ProseLint.Proofs.Pattern.PlainWords
import ProseLint.Proofs.Rule.Reading

namespace ProseLint

open Text (Span Run runs mem_runs byteLength bytes)
open Pattern (PlainWord Match Finish wordEdge wordGroups)
open Rule

/-! ## Words and the mask -/

theorem fillerByte_not_mem {w : List Char} (hw : ∀ c ∈ w, Unicode.isPlainWord c = true) : fillerByte ∉ bytes w := by
  intro h
  obtain ⟨c, hc, hbyte⟩ := List.mem_flatMap.1 h
  have hplain := hw c hc
  have hlow : c.val.toNat ≤ 127 := Nat.le_of_lt_succ (Pattern.toNat_lt_of_isPlainWord hplain)
  rw [String.utf8EncodeChar, if_pos hlow, List.mem_singleton] at hbyte
  have hvalue : c.toNat = filler.toNat := by
    have hmod := congrArg UInt8.toNat hbyte
    rw [UInt8.toNat_ofNat', Nat.mod_eq_of_lt (by omega)] at hmod
    exact hmod.symm
  obtain rfl : c = filler := Char.ext (UInt32.toNat_inj.1 hvalue)
  exact absurd hplain (by decide)

namespace Masked

variable {text : List Char} {ranges : List Span} {r : Run}

/-- A plain word of the copy meets no range, so the text has it as well. -/
theorem shows_plainWord (h : RangedIn text ranges) (hr : r ∈ runs Unicode.isWord (cover ranges 0 text))
    (hplain : ∀ c ∈ r.chars, Unicode.isPlainWord c = true) :
    (ofRanges text ranges).isMasked r.span = false ∧ (ofRanges text ranges).slice r.span = r.chars := by
  obtain ⟨pre, post, hcopy, hspan, -⟩ := (mem_runs.1 hr).between
  have hstart : r.span.start = byteLength pre := by rw [hspan]
  have hstop : r.span.stop = byteLength pre + byteLength r.chars := by rw [hspan, Text.byteLength_append]
  have hfree : ∀ i, r.span.start ≤ i → i < r.span.stop → ¬ Held ranges i := by
    intro i hle hlt hheld
    have hin : i < byteLength text := by
      rw [← byteLength_cover ranges 0 text, hcopy, Text.byteLength_append, Text.byteLength_append]
      omega
    have hbyte := getElem?_bytes_cover h hin
    rw [if_pos hheld, hcopy, Text.bytes_append, Text.bytes_append, List.append_assoc,
      List.getElem?_append_right (by rw [Text.length_bytes]; omega),
      List.getElem?_append_left (by rw [Text.length_bytes, Text.length_bytes]; omega)] at hbyte
    exact fillerByte_not_mem hplain (List.mem_of_getElem? hbyte)
  have hlt := (mem_runs.1 hr).start_lt_stop
  have hunmasked : (ofRanges text ranges).isMasked r.span = false := by
    refine (isMasked_eq_false_iff h.toRanged).2 fun a ha => ?_
    have hne := h.nonempty a ha
    by_contra hmeet
    refine hfree (max a.start r.span.start) (Nat.le_max_right _ _) (by omega) ⟨a, ha, Nat.le_max_left _ _, by omega⟩
  refine ⟨hunmasked, ?_⟩
  have hcs : Text.slice? (cover ranges 0 text) r.span = some r.chars :=
    Text.slice?_eq_some.2 ⟨pre, post, hcopy, hstart.symm, by rw [hspan]⟩
  have hfits : r.span.Fits (cover ranges 0 text) := by
    refine ⟨Nat.le_of_lt hlt, ⟨pre, r.chars ++ post, by simp [hcopy], hstart.symm⟩,
      ⟨pre ++ r.chars, post, hcopy, by rw [hspan]⟩⟩
  obtain ⟨cs, htext, hcs'⟩ := (clear_of_isMasked_eq_false h.toRanged hunmasked).slice h hfits
  obtain rfl := Option.some.inj (hcs.symm.trans hcs')
  simp only [slice, ofRanges, htext]

end Masked

theorem Masker.mask_plain_of_not_mem {text : List Char} (h : ':' ∉ text) (format : String) :
    plain.mask text format = .unmasked text := by
  refine mask_eq_unmasked fun s hs => ?_
  rw [urlPattern_eq] at hs
  change s ∈ found text _ ++ [] at hs
  rw [List.append_nil] at hs
  obtain ⟨m, hm, rfl⟩ := List.mem_map.1 hs
  obtain ⟨f, rfl, hf⟩ := Pattern.Program.exists_finish_of_mem_findAll hm
  -- What an address matches goes through a place before a colon.
  obtain ⟨p, hscheme, -, ⟨c, cs, hrest, hc, -⟩, -⟩ := Pattern.Program.matches_of_finish? (e := addressExpr) hf.again
  obtain ⟨pre, rfl, -⟩ := hf.within.start.leads (Pattern.Expr.leads_of_matches _ hscheme)
  obtain rfl : c = ':' := by simpa using hc
  rw [hrest] at h
  exact absurd (List.mem_append_right _ List.mem_cons_self) h

/-! ## Checks -/

theorem lookup_eq_some_iff {es : List (String × String)} (h : (es.map (·.1)).Nodup) {k v : String} :
    es.lookup k = some v ↔ (k, v) ∈ es := by
  induction es with
  | nil => simp
  | cons e es ih =>
    obtain ⟨k', v'⟩ := e
    obtain ⟨hnew, h⟩ := List.nodup_cons.1 h
    by_cases hk : k = k'
    · subst hk
      have hother : (k, v) ∉ es := fun hmem => hnew (List.mem_map.2 ⟨_, hmem, rfl⟩)
      simp [hother, eq_comm]
    · have hne : (k == k') = false := by simpa using hk
      rw [List.lookup_cons, hne]
      simpa [hk] using ih h

theorem filterMap_congr_spans {ms : List Match} {rs : List Run} {f : Match → Option Alert} {g : Run → Option Alert}
    (hspans : ms.map (·.span) = rs.map (·.span)) (h : ∀ m ∈ ms, ∀ r ∈ rs, m.span = r.span → f m = g r) :
    ms.filterMap f = rs.filterMap g := by
  induction ms generalizing rs with
  | nil =>
    obtain rfl := List.map_eq_nil_iff.1 hspans.symm
    rfl
  | cons m ms ih =>
    cases rs with
    | nil => cases hspans
    | cons r rs =>
      obtain ⟨hspan, hspans⟩ := List.cons.inj hspans
      obtain ⟨hm, hms⟩ := List.forall_mem_cons.1 h
      have hrest := ih hspans fun n hn => (List.forall_mem_cons.1 (hms n hn)).2
      rw [List.filterMap_cons, List.filterMap_cons, (List.forall_mem_cons.1 hm).1 hspan, hrest]

theorem filterMap_filter_of_none {rs : List Run} {test : Run → Bool} {g : Run → Option Alert}
    (h : ∀ r ∈ rs, test r = false → g r = none) : (rs.filter test).filterMap g = rs.filterMap g := by
  rw [List.filterMap_filter]
  refine List.filterMap_congr fun r hr => ?_
  cases htest : test r with
  | true => rfl
  | false => exact (h r hr htest).symm

theorem mem_map_toList {words : List String} {w : List Char} :
    w ∈ words.map String.toList ↔ String.ofList w ∈ words := by
  refine ⟨fun h => ?_, fun h => List.mem_map.2 ⟨_, h, String.toList_ofList⟩⟩
  obtain ⟨s, hs, rfl⟩ := List.mem_map.1 h
  rwa [String.ofList_toList]

namespace Check

variable {text : List Char} {ranges : List Span} {c : Check} {p : Pattern} {words : List String}

theorem existence_eq_filterMap (c : Check) (p : Pattern) (t : Masked) : c.existence p t =
    (p.findAll t.copy).filterMap fun m =>
      if !m.span.isEmpty && !t.isMasked m.span then some (c.alert m.span [t.slice m.span]) else none := by
  rw [existence, spansOf, ← List.filterMap_eq_map, List.filterMap_filter, List.filterMap_map]
  rfl

/-- **An existence check of plain words flags the runs that are one of them.** -/
theorem existence_words (h : RangedIn text ranges) (hwords : ∀ w ∈ words, PlainWord w.toList) (hne : words ≠ [])
    (hp : Pattern.ofText? (wrap (alternatives words) false) = some p) :
    c.existence p (.ofRanges text ranges) = (runs Unicode.isWord (cover ranges 0 text)).filterMap fun r =>
      if String.ofList r.chars ∈ words then some (c.alert r.span [r.chars]) else none := by
  have hplain : ∀ w ∈ words.map String.toList, PlainWord w := List.forall_mem_map.2 hwords
  obtain ⟨body, hprogram, hbody⟩ := Pattern.program_of_words hwords hne hp
  have hspans := Pattern.Program.spans_findAll_wholeWord hbody (fun w hw => (hplain w hw).isWord) (cover ranges 0 text)
  rw [← hprogram] at hspans
  rw [existence_eq_filterMap, ← filterMap_filter_of_none fun r _ hword => if_neg fun hr => ?_]
  · refine filterMap_congr_spans hspans fun m _ r hr hspan => ?_
    obtain ⟨hr, hword⟩ := List.mem_filter.1 hr
    rw [decide_eq_true_iff] at hword
    obtain ⟨hunmasked, hslice⟩ := Masked.shows_plainWord h hr (hplain _ hword).plain
    have hlt := (mem_runs.1 hr).start_lt_stop
    rw [if_pos (mem_map_toList.1 hword), hspan, hslice, if_pos (by simp [Span.isEmpty, hunmasked, hlt])]
  · exact absurd (mem_map_toList.2 hr) (by simpa using hword)

theorem takenGroup?_eq {m : Match} {i : Nat} (hgroups : m.groups = [(i + 1, m.span)]) (hi : i < p.groupCount)
    (hlt : m.span.start < m.span.stop) : takenGroup? p m = some (i + 1, m.span) := by
  obtain ⟨k, hk⟩ := Nat.exists_eq_add_of_lt hi
  have hnonempty : m.span.isEmpty = false := by simpa [Span.isEmpty] using hlt
  have hgroup : ∀ j, j ≠ 0 → m.group? j = if j = i + 1 then some m.span else none := by
    intro j hj
    rw [Match.group?, if_neg hj, hgroups]
    by_cases heq : j = i + 1
    · simp [heq]
    · have hne : (j == i + 1) = false := by simpa using heq
      rw [List.lookup_cons, hne, if_neg heq]
      rfl
  have hrange : List.range' 1 p.groupCount = List.range' 1 i ++ (i + 1) :: List.range' (i + 2) k := by
    rw [hk, Nat.add_assoc, ← List.range'_append_1, List.range'_succ, Nat.add_comm 1 i]
  unfold takenGroup?
  rw [List.findSome?_eq_some_iff]
  refine ⟨_, _, _, hrange, ?_, fun j hj => ?_⟩
  · rw [hgroup _ (Nat.succ_ne_zero i), if_pos rfl]
    simp [hnonempty]
  · obtain ⟨hpos, hlt⟩ := List.mem_range'_1.1 hj
    rw [hgroup j (by omega), if_neg (by omega)]
    rfl

/-- **A substitution check of plain words flags the runs that are one of them**, with the replacement of
the entry whose word it is. -/
theorem substitution_words (h : RangedIn text ranges) {swap : List (String × String)}
    (hnodup : (swap.map (·.1)).Nodup) (hwords : ∀ e ∈ swap, PlainWord e.1.toList) (hne : swap ≠ [])
    (hp : Pattern.ofText? (wrap (alternatives (swap.map fun e => "(" ++ e.1 ++ ")")) false) = some p) :
    c.substitution p (swap.map (·.2)) (.ofRanges text ranges) =
      (runs Unicode.isWord (cover ranges 0 text)).filterMap fun r =>
        (swap.lookup (String.ofList r.chars)).map fun replacement => c.alert r.span [replacement.toList, r.chars] := by
  have hkeys : ∀ w ∈ swap.map (·.1), PlainWord w.toList := List.forall_mem_map.2 hwords
  have hne' : (swap.map (·.1)).map String.toList ≠ [] := by simpa using hne
  have hplain : ∀ w ∈ (swap.map (·.1)).map String.toList, PlainWord w := List.forall_mem_map.2 hkeys
  rw [show (swap.map fun e => "(" ++ e.1 ++ ")") = (swap.map (·.1)).map fun w => "(" ++ w ++ ")" by
    rw [List.map_map]; rfl] at hp
  obtain ⟨hprogram, hcount⟩ := Pattern.program_of_groups hkeys (by simpa using hne) hp
  have hgroups : wordGroups ((swap.map (·.1)).map String.toList) ≠ [] := by simpa [wordGroups] using hne
  have hspans := Pattern.Program.spans_findAll_wholeWord (Pattern.spellsOne_wordGroups hne')
    (fun w hw => (hplain w hw).isWord) (cover ranges 0 text)
  rw [Pattern.Program.ofExpr_wholeWord_groups hgroups, ← hprogram] at hspans
  unfold substitution
  rw [← filterMap_filter_of_none fun r _ hword => ?_]
  · refine filterMap_congr_spans hspans fun m hm r hr hspan => ?_
    obtain ⟨hr, hword⟩ := List.mem_filter.1 hr
    rw [decide_eq_true_iff] at hword
    rw [Pattern.findAll, hprogram] at hm
    obtain ⟨i, w, hi, htook, r', hr', rfl, hspan'⟩ := Pattern.group_of_mem_findAll hplain hne' hm
    have hlt := (mem_runs.1 hr).start_lt_stop
    obtain rfl : r = r' := by
      have hsame := hspan'.trans hspan
      exact Text.eq_of_mem_runs hr hr' (by rw [hsame]) (by rw [hsame]; exact hlt)
    obtain ⟨e, he, hkey⟩ : ∃ e, swap[i]? = some e ∧ e.1.toList = r.chars := by
      simpa using hi
    have hreplacement : swap.lookup (String.ofList r.chars) = some e.2 := by
      rw [← hkey, String.ofList_toList, lookup_eq_some_iff hnodup]
      exact List.mem_of_getElem? he
    obtain ⟨hunmasked, hslice⟩ := Masked.shows_plainWord h hr (hplain _ hword).plain
    have htaken : takenGroup? p m = some (i + 1, m.span) := by
      refine takenGroup?_eq htook ?_ (hspan ▸ hlt)
      rw [hcount, List.length_map]
      exact (List.getElem?_eq_some_iff.1 he).1
    rw [htaken, hreplacement, hspan]
    simp [hunmasked, hslice, he]
  · rw [decide_eq_false_iff_not, mem_map_toList] at hword
    rw [List.lookup_eq_none_iff.2, Option.map_none]
    intro e he
    rw [bne_iff_ne]
    rintro hkey
    exact hword (hkey ▸ List.mem_map_of_mem he)

end Check

namespace Definition

/-- A rule of whole words in their own case, each of letters, digits and underscores. -/
def OfWords (d : Definition) : Prop :=
  d.ignoreCase = false ∧ match d.kind with
    | .existence tokens raw nonword => raw = [] ∧ nonword = false ∧ ∀ w ∈ tokens, PlainWord w.toList
    | .substitution swap nonword => nonword = false ∧ ∀ e ∈ swap, PlainWord e.1.toList
    | _ => False

/-- What the alert on a word is filled with, if the rule has the word. -/
def filling? (d : Definition) (w : String) : Option (List (List Char)) :=
  match d.kind with
  | .existence tokens _ _ => if w ∈ tokens then some [w.toList] else none
  | .substitution swap _ => ((usable swap).lookup w).map fun replacement => [replacement.toList, w.toList]
  | _ => none

/-- The alerts on the words of a text that a rule has. -/
def wordAlerts (d : Definition) (c : Check) (text : List Char) : List Alert :=
  (runs Unicode.isWord text).filterMap fun r => (d.filling? (String.ofList r.chars)).map (c.alert r.span)

theorem wordAlerts_eq (d : Definition) (c : Check) (text : List Char) : d.wordAlerts c text =
    ((runs Unicode.isWord text).filterMap fun r =>
      (d.filling? (String.ofList r.chars)).map (r.span, ·)).map fun x => c.alert x.1 x.2 := by
  rw [wordAlerts, List.map_filterMap]
  simp only [Option.map_map]
  rfl

/-- A rule that differs from another one in the order of its words only. -/
def Reorders (d d' : Definition) : Prop :=
  d' = { d with kind := d'.kind } ∧ match d.kind, d'.kind with
    | .existence tokens raw nonword, .existence tokens' raw' nonword' =>
      tokens.Perm tokens' ∧ raw = raw' ∧ nonword = nonword'
    | .substitution swap nonword, .substitution swap' nonword' => swap.Perm swap' ∧ nonword = nonword'
    | _, _ => False

variable {d d' : Definition} {stylesPath : Option String} {fs : Files} {c c' : Check}

theorem existenceSource_ofWords (hcase : d.ignoreCase = false) {tokens : List String} (hne : tokens ≠ []) :
    d.existenceSource tokens [] false = wrap (alternatives tokens) false := by
  have hswitch : d.switch = "" := by rw [switch, hcase]; rfl
  have hempty : tokens.isEmpty = false := by simpa using hne
  rw [existenceSource, hswitch, hempty]
  simp [String.join]

theorem substitutionSource_ofWords (hcase : d.ignoreCase = false) (swap : List (String × String)) :
    d.substitutionSource swap false = wrap (alternatives (swap.map fun e => "(" ++ e.1 ++ ")")) false := by
  have hswitch : d.switch = "" := by rw [switch, hcase]; rfl
  rw [substitutionSource, hswitch, String.empty_append]

theorem nodup_usable {swap : List (String × String)} {nonword : Bool} (hkeyed : d.WellKeyed)
    (hkind : d.kind = .substitution swap nonword) : ((usable swap).map (·.1)).Nodup := by
  rw [WellKeyed, hkind] at hkeyed
  exact hkeyed.sublist (List.filter_sublist.map _)

theorem existence_eq_wordAlerts {text : List Char} {ranges : List Span} (h : RangedIn text ranges)
    (hkeyed : d.WellKeyed) (hwords : d.OfWords) {p : Pattern} (hmakes : d.Makes stylesPath fs (.existence p))
    (c : Check) : c.existence p (.ofRanges text ranges) = d.wordAlerts c (cover ranges 0 text) := by
  obtain ⟨hcase, hwords⟩ := hwords
  obtain ⟨tokens, raw, nonword, hkind, hp⟩ := hmakes
  rw [hkind] at hwords
  obtain ⟨rfl, rfl, hwords⟩ := hwords
  have hne : tokens ≠ [] := by
    rw [WellKeyed, hkind] at hkeyed
    exact fun hnil => hkeyed hnil rfl
  rw [existenceSource_ofWords hcase hne] at hp
  refine (c.existence_words h hwords hne hp).trans (List.filterMap_congr fun r _ => ?_)
  simp only [filling?, hkind]
  split
  · rw [Option.map_some, String.toList_ofList]
  · rfl

theorem substitution_eq_wordAlerts {text : List Char} {ranges : List Span} (h : RangedIn text ranges)
    (hkeyed : d.WellKeyed) (hwords : d.OfWords) {p : Pattern} {replacements : List String}
    (hmakes : d.Makes stylesPath fs (.substitution p replacements)) (c : Check) :
    c.substitution p replacements (.ofRanges text ranges) = d.wordAlerts c (cover ranges 0 text) := by
  obtain ⟨hcase, hwords⟩ := hwords
  obtain ⟨swap, nonword, hkind, hne, hp, rfl⟩ := hmakes
  rw [hkind] at hwords
  obtain ⟨rfl, hwords⟩ := hwords
  have hkept : ∀ e ∈ usable swap, PlainWord e.1.toList := fun e he => hwords e (List.mem_filter.1 he).1
  rw [substitutionSource_ofWords hcase] at hp
  refine (c.substitution_words h (nodup_usable hkeyed hkind) hkept hne hp).trans
    (List.filterMap_congr fun r _ => ?_)
  simp only [filling?, hkind, Option.map_map, String.toList_ofList]
  rfl

/-- **A check of plain words flags the words of the copy that its rule has.** -/
theorem run_eq_wordAlerts (hkeyed : d.WellKeyed) (hcompile : d.compile stylesPath fs = .ok c)
    (hwords : d.OfWords) (m : Masker) (text : List Char) (format : String) (ctx : Context) (host : ScriptHost) :
    c.run (m.mask text format) ctx host = (d.wordAlerts c (m.mask text format).copy, ctx) := by
  have h := m.rangedIn_ranges text format
  obtain ⟨-, hmakes⟩ := makes_of_compile hcompile
  have hmask : m.mask text format = .ofRanges text (m.ranges text format) := rfl
  rw [hmask]
  unfold Check.run
  cases hm : c.matcher with
  | existence p =>
    rw [hm] at hmakes
    exact Prod.ext (existence_eq_wordAlerts h hkeyed hwords hmakes c) rfl
  | substitution p replacements =>
    rw [hm] at hmakes
    exact Prod.ext (substitution_eq_wordAlerts h hkeyed hwords hmakes c) rfl
  | occurrence | repetition =>
    rw [hm] at hmakes
    obtain ⟨_, hkind, -⟩ := hmakes
    have hother := hwords.2
    rw [hkind] at hother
    exact absurd hother id
  | consistency | conditional | script =>
    rw [hm] at hmakes
    obtain ⟨_, _, hkind, -⟩ := hmakes
    have hother := hwords.2
    rw [hkind] at hother
    exact absurd hother id

theorem Reorders.filling?_eq (hkeyed : d.WellKeyed) (hkeyed' : d'.WellKeyed) (h : d.Reorders d') (w : String) :
    d'.filling? w = d.filling? w := by
  obtain ⟨-, hkinds⟩ := h
  split at hkinds
  · rename_i tokens _ _ tokens' _ _ hkind hkind'
    simp only [filling?, hkind, hkind', hkinds.1.mem_iff]
  · rename_i swap _ swap' _ hkind hkind'
    have hlookup : (usable swap').lookup w = (usable swap).lookup w := by
      refine Option.ext fun v => ?_
      rw [lookup_eq_some_iff (nodup_usable hkeyed hkind), lookup_eq_some_iff (nodup_usable hkeyed' hkind')]
      exact (hkinds.1.filter _).mem_iff.symm
    simp only [filling?, hkind, hkind', hlookup]
  · exact absurd hkinds id

theorem Reorders.ofWords (h : d.Reorders d') (hwords : d.OfWords) : d'.OfWords := by
  obtain ⟨hsame, hkinds⟩ := h
  obtain ⟨hcase, hwords⟩ := hwords
  refine ⟨by rw [hsame]; exact hcase, ?_⟩
  split at hkinds
  · rename_i hkind hkind'
    rw [hkind] at hwords
    rw [hkind']
    obtain ⟨hperm, rfl, rfl⟩ := hkinds
    exact ⟨hwords.1, hwords.2.1, fun w hw => hwords.2.2 w (hperm.mem_iff.2 hw)⟩
  · rename_i hkind hkind'
    rw [hkind] at hwords
    rw [hkind']
    obtain ⟨hperm, rfl⟩ := hkinds
    exact ⟨hwords.1, fun e he => hwords.2 e (hperm.mem_iff.2 he)⟩
  · exact absurd hkinds id

theorem Reorders.alert_eq (h : d.Reorders d') (hcompile : d.compile stylesPath fs = .ok c)
    (hcompile' : d'.compile stylesPath fs = .ok c') : c'.alert = c.alert := by
  obtain ⟨_, -, rfl⟩ := exists_of_map_ok hcompile
  obtain ⟨_, -, rfl⟩ := exists_of_map_ok hcompile'
  rw [h.1]
  rfl

end Definition

/-- An entry of a plain word is left out only if the word is no pattern, and then it is long. -/
theorem Rule.not_pattern_of_not_mem_usable {swap : List (String × String)} {e : String × String} (he : e ∈ swap)
    (hword : PlainWord e.1.toList) (hout : e ∉ usable swap) :
    Pattern.ofText? e.1 = none ∧ 10240 < e.1.length := by
  have hfits : ¬ (Pattern.Outline.word e.1.toList).fits = true := by
    rw [usable, List.mem_filter, Pattern.isUsable_word hword] at hout
    exact fun hfits => hout ⟨he, hfits⟩
  refine ⟨by rw [Pattern.ofText?_word hword, if_neg hfits], Nat.lt_of_not_le fun hshort => hfits ?_⟩
  exact Pattern.fits_word_of_short (by rwa [String.length_toList])

namespace Check

open Definition in
/-- **A rule of plain words is a dictionary.** It flags the runs of word characters of the copy that it has,
in the order of the text, each with what it has for that word; and so does every rule that gives the words in
another order. A substitution has the entries that are usable, all but those of long words that are no pattern. -/
theorem run_ofWords {name : CheckName} {toml : String} {d : Definition} {stylesPath : Option String} {fs : Files}
    {c : Check} (hread : Definition.ofToml name toml = .ok d) (hcompile : d.compile stylesPath fs = .ok c)
    (hwords : d.OfWords) (m : Masker) (text : List Char) (format : String) (ctx : Context) (host : ScriptHost) :
    c.run (m.mask text format) ctx host = (d.wordAlerts c (m.mask text format).copy, ctx) ∧
      (∀ {swap : List (String × String)} {nonword : Bool}, d.kind = .substitution swap nonword →
        ∀ e ∈ swap, e ∉ usable swap → Pattern.ofText? e.1 = none ∧ 10240 < e.1.length) ∧
      ∀ {toml' : String} {d' : Definition} {c' : Check}, Definition.ofToml name toml' = .ok d' →
        d'.compile stylesPath fs = .ok c' → d.Reorders d' →
        c'.run (m.mask text format) ctx host = c.run (m.mask text format) ctx host := by
  have hrun := run_eq_wordAlerts (wellKeyed hread) hcompile hwords m text format ctx host
  refine ⟨hrun, fun {swap nonword} hkind e he hout => ?_, fun {toml' d' c'} hread' hcompile' hreorders => ?_⟩
  · have hplain := hwords.2
    rw [hkind] at hplain
    exact not_pattern_of_not_mem_usable he (hplain.2 e he) hout
  · have hrun' := run_eq_wordAlerts (wellKeyed hread') hcompile' (hreorders.ofWords hwords) m text format ctx host
    have halerts : d'.wordAlerts c' = d.wordAlerts c := by
      funext copy
      unfold wordAlerts
      simp only [hreorders.alert_eq hcompile hcompile', hreorders.filling?_eq (wellKeyed hread) (wellKeyed hread')]
    rw [hrun, hrun', halerts]

/-- A rule that replaces two words of which one starts with the other. -/
def prefixToml : String :=
  "extends = 'substitution'\nmessage = '%s for %s'\n[swap]\nfoo = 'x'\nfoobar = 'y'\n"

/-- The same rule with the entries in the other order. -/
def turnedToml : String :=
  "extends = 'substitution'\nmessage = '%s for %s'\n[swap]\nfoobar = 'y'\nfoo = 'x'\n"

/-- A rule of some entries as it is read. -/
def swapRule (swap : List (String × String)) : Definition :=
  { sampleRule with message := "%s for %s", kind := .substitution swap false }

theorem ofToml_swapRule {toml : String} {swap : List (String × String)}
    (h : RuleRecord.ofToml? toml =
      some { kind := some "substitution", message := "%s for %s", swap := swap }) (hne : swap ≠ []) :
    Definition.ofToml sampleName toml = .ok (swapRule swap) := by
  obtain ⟨e, es, rfl⟩ := List.exists_cons_of_ne_nil hne
  rw [Definition.ofToml, h]
  rfl

/-- In either order of the entries both words are flagged, each with its own replacement. -/
theorem run_ofWords_prefixes :
    ∃ c c' : Check, (swapRule [("foo", "x"), ("foobar", "y")]).compile none .empty = .ok c ∧
      (swapRule [("foobar", "y"), ("foo", "x")]).compile none .empty = .ok c' ∧ ∀ ctx host,
      c.run (Masker.plain.mask "a foobar or foo".toList "text") ctx host =
        ([c.alert ⟨2, 8⟩ ["y".toList, "foobar".toList], c.alert ⟨12, 15⟩ ["x".toList, "foo".toList]], ctx) ∧
      c'.run (Masker.plain.mask "a foobar or foo".toList "text") ctx host =
        c.run (Masker.plain.mask "a foobar or foo".toList "text") ctx host := by
  have hread : Definition.ofToml sampleName prefixToml = .ok (swapRule [("foo", "x"), ("foobar", "y")]) :=
    ofToml_swapRule (by decide +kernel) (List.cons_ne_nil _ _)
  have hread' : Definition.ofToml sampleName turnedToml = .ok (swapRule [("foobar", "y"), ("foo", "x")]) :=
    ofToml_swapRule (by decide +kernel) (List.cons_ne_nil _ _)
  have hkind : ((swapRule [("foo", "x"), ("foobar", "y")]).compile none .empty).toOption.map (·.matcher.kindName) =
      some "substitution" := by decide +kernel
  have hkind' : ((swapRule [("foobar", "y"), ("foo", "x")]).compile none .empty).toOption.map (·.matcher.kindName) =
      some "substitution" := by decide +kernel
  have hwords : (swapRule [("foo", "x"), ("foobar", "y")]).OfWords :=
    ⟨rfl, rfl, List.forall_mem_cons.2 ⟨by decide, List.forall_mem_singleton.2 (by decide)⟩⟩
  have hreorders : (swapRule [("foo", "x"), ("foobar", "y")]).Reorders (swapRule [("foobar", "y"), ("foo", "x")]) :=
    ⟨rfl, List.Perm.swap _ _ _, rfl⟩
  have hmask : (Masker.plain.mask "a foobar or foo".toList "text").copy = "a foobar or foo".toList := by
    rw [Masker.mask_plain_of_not_mem (by decide)]
    rfl
  have hfound : ((runs Unicode.isWord "a foobar or foo".toList).filterMap fun r =>
      ((swapRule [("foo", "x"), ("foobar", "y")]).filling? (String.ofList r.chars)).map (r.span, ·)) =
      [(⟨2, 8⟩, ["y".toList, "foobar".toList]), (⟨12, 15⟩, ["x".toList, "foo".toList])] := by decide +kernel
  obtain ⟨c, hcompile, -⟩ := exists_of_toOption_map hkind
  obtain ⟨c', hcompile', -⟩ := exists_of_toOption_map hkind'
  refine ⟨c, c', hcompile, hcompile', fun ctx host => ?_⟩
  obtain ⟨hrun, -, hsame⟩ := run_ofWords hread hcompile hwords .plain "a foobar or foo".toList "text" ctx host
  refine ⟨hrun.trans ?_, hsame hread' hcompile' hreorders⟩
  rw [hmask, Definition.wordAlerts_eq, hfound]
  rfl

/-! ## A word that is too long -/

/-- A word of so many letters. -/
def longWord (n : Nat) : String := String.ofList (List.replicate n 'a')

def longSwap (n : Nat) : List (String × String) := [("b", "x"), (longWord n, "y")]

variable {n : Nat}

theorem length_toList_longWord (n : Nat) : (longWord n).toList.length = n := by
  rw [longWord, String.toList_ofList, List.length_replicate]

theorem eq_of_mem_longWord {c : Char} (h : c ∈ (longWord n).toList) : c = 'a' := by
  rw [longWord, String.toList_ofList] at h
  exact List.eq_of_mem_replicate h

theorem plainWord_longWord (hn : 0 < n) : PlainWord (longWord n).toList where
  ne_nil := List.ne_nil_of_length_pos (by rwa [length_toList_longWord])
  plain c hc := by
    rw [eq_of_mem_longWord hc]
    decide

theorem mask_longWord (n : Nat) : Masker.plain.mask (longWord n).toList "text" = .unmasked (longWord n).toList :=
  Masker.mask_plain_of_not_mem (fun h => absurd (eq_of_mem_longWord h) (by decide)) "text"

theorem usable_longSwap (h : Pattern.Footprint.limit < n * Pattern.Footprint.stateSize) :
    usable (longSwap n) = [("b", "x")] := by
  have hn : 0 < n := Nat.pos_of_mul_pos_right (Nat.zero_lt_of_lt h)
  have hshort : isUsable "b" = true := by decide +kernel
  have hlong : isUsable (longWord n) = false := by
    rw [Pattern.isUsable_word (plainWord_longWord hn)]
    exact Pattern.fits_word_of_long (by rwa [length_toList_longWord])
  simp [usable, longSwap, hshort, hlong]

theorem ofWords_longSwap (hn : 0 < n) : (swapRule (longSwap n)).OfWords :=
  ⟨rfl, rfl, List.forall_mem_cons.2 ⟨by decide, List.forall_mem_singleton.2 (plainWord_longWord hn)⟩⟩

theorem exists_compile_longSwap (h : Pattern.Footprint.limit < n * Pattern.Footprint.stateSize) :
    ∃ c, (swapRule (longSwap n)).compile none .empty = .ok c := by
  have hsource : (swapRule (longSwap n)).substitutionSource [("b", "x")] false = "\\b(?:(b))\\b" := by
    rw [Definition.substitutionSource_ofWords rfl]
    decide
  have hread : (Pattern.ofText? "\\b(?:(b))\\b").isSome := by decide +kernel
  obtain ⟨p, hp⟩ := Option.isSome_iff_exists.1 hread
  have hkind : (swapRule (longSwap n)).kind = .substitution (longSwap n) false := rfl
  have hmatcher : (swapRule (longSwap n)).matcher none .empty = .ok (.substitution p ["x"]) := by
    simp only [Definition.matcher, hkind, usable_longSwap h, hsource, pattern, hp]
    rfl
  rw [Definition.compile, hmatcher]
  exact ⟨_, rfl⟩

theorem wellKeyed_longSwap (n : Nat) : (swapRule (longSwap n)).WellKeyed := by
  have hne : "b" ≠ longWord n := by
    intro h
    have hletter : 'b' ∈ (longWord n).toList := h ▸ by decide
    exact absurd (eq_of_mem_longWord hletter) (by decide)
  change ((longSwap n).map (·.1)).Nodup
  simpa [longSwap] using hne

theorem exists_run_longWord (hn : 0 < n) :
    ∃ r ∈ runs Unicode.isWord (Masker.plain.mask (longWord n).toList "text").copy,
      String.ofList r.chars = longWord n := by
  have hword := (plainWord_longWord hn).isWord
  rw [mask_longWord]
  refine ⟨⟨⟨0, byteLength (longWord n).toList⟩, (longWord n).toList⟩, mem_runs.2 ?_, String.ofList_toList⟩
  exact ⟨hword.1, hword.2, [], [], by simp [Masked.unmasked], rfl, rfl, rfl⟩

theorem run_longWord (h : Pattern.Footprint.limit < n * Pattern.Footprint.stateSize) {c : Check}
    (hcompile : (swapRule (longSwap n)).compile none .empty = .ok c) (ctx : Context) (host : ScriptHost) :
    (c.run (Masker.plain.mask (longWord n).toList "text") ctx host).1 = [] := by
  have hn : 0 < n := Nat.pos_of_mul_pos_right (Nat.zero_lt_of_lt h)
  rw [Definition.run_eq_wordAlerts (wellKeyed_longSwap n) hcompile (ofWords_longSwap hn), mask_longWord]
  refine List.filterMap_eq_nil_iff.2 fun r hr => ?_
  obtain ⟨pre, post, htext, -⟩ := (mem_runs.1 hr).between
  have hother : String.ofList r.chars ≠ "b" := by
    intro hb
    have hmem : 'b' ∈ r.chars := by
      rw [← String.toList_ofList (l := r.chars), hb]
      decide
    have hletter : 'b' ∈ (longWord n).toList := by
      rw [show (longWord n).toList = pre ++ r.chars ++ post from htext]
      exact List.mem_append_left _ (List.mem_append_right _ hmem)
    exact absurd (eq_of_mem_longWord hletter) (by decide)
  have hentry : (swapRule (longSwap n)).filling? (String.ofList r.chars) = none := by
    change ((usable (longSwap n)).lookup _).map _ = none
    rw [usable_longSwap h, List.lookup_cons, beq_eq_false_iff_ne.2 hother]
    rfl
  rw [hentry]
  rfl

/-- **A word that is too large is not flagged.** -/
theorem run_misses_longWord :
    (swapRule (longSwap 1000000)).WellKeyed ∧ (swapRule (longSwap 1000000)).OfWords ∧
      (longWord 1000000, "y") ∈ longSwap 1000000 ∧
      ∃ c, (swapRule (longSwap 1000000)).compile none .empty = .ok c ∧
        (∃ r ∈ runs Unicode.isWord (Masker.plain.mask (longWord 1000000).toList "text").copy,
          String.ofList r.chars = longWord 1000000) ∧
        ∀ ctx host, (c.run (Masker.plain.mask (longWord 1000000).toList "text") ctx host).1 = [] := by
  have hlong : Pattern.Footprint.limit < 1000000 * Pattern.Footprint.stateSize := by decide
  obtain ⟨c, hcompile⟩ := exists_compile_longSwap hlong
  exact ⟨wellKeyed_longSwap _, ofWords_longSwap (by decide), List.mem_cons_of_mem _ List.mem_cons_self,
    c, hcompile, exists_run_longWord (by decide), run_longWord hlong hcompile⟩

end Check

end ProseLint
