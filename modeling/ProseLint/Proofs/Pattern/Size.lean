/-
How large a pattern is, without its sets being worked out. A set has at most as many ranges as it is put together
from (`CharSet.length_ranges_le`), and an outline is hardly larger than what it is the outline of, however its branches
are merged (`Outline.bulk_choice_le`). So the weight of an expression bounds its size (`Expr.roughSize_le_weight`), and
an expression of little weight fits (`Expr.fits_of_weight_le`).
-/
import Mathlib.Data.List.Nodup
import Mathlib.Data.List.Perm.Subperm
import ProseLint.Pattern.Footprint

namespace ProseLint

/-! ## Ranges -/

namespace Unicode.Ranges

theorem length_joinFrom_le (first last : Nat) (rs : Ranges) : (joinFrom first last rs).length ≤ rs.length + 1 := by
  induction rs generalizing first last with
  | nil => simp [joinFrom]
  | cons r rs ih =>
    obtain ⟨a, b⟩ := r
    rw [joinFrom]
    split
    · have := ih first (max last b)
      rw [List.length_cons]
      omega
    · have := ih a b
      rw [List.length_cons, List.length_cons]
      omega

theorem length_join_le (rs : Ranges) : (join rs).length ≤ rs.length := by
  have hlen : (rs.mergeSort fun r s => r.1 ≤ s.1).length = rs.length := List.length_mergeSort rs
  unfold join
  split
  · simp
  · rename_i a b ss hsorted
    rw [hsorted, List.length_cons] at hlen
    have := length_joinFrom_le a b ss
    omega

theorem length_gapsFrom_le (start : Nat) (rs : Ranges) : (gapsFrom start rs).length ≤ rs.length + 1 := by
  induction rs generalizing start with
  | nil =>
    unfold gapsFrom
    split <;> simp
  | cons r rs ih =>
    obtain ⟨a, b⟩ := r
    have := ih (next b)
    rw [gapsFrom]
    split <;> simp only [List.length_cons] <;> omega

theorem length_complement_le (rs : Ranges) : rs.complement.length ≤ rs.length + 1 := length_gapsFrom_le 0 rs

theorem length_union_le (rs ss : Ranges) : (rs.union ss).length ≤ rs.length + ss.length := by
  have := length_join_le (rs ++ ss)
  rwa [List.length_append] at this

/-- Ranges that do not end before they start. -/
def Valid (rs : Ranges) : Prop := ∀ r ∈ rs, r.1 ≤ r.2

theorem lt_next (n : Nat) : n < next n := by
  unfold next
  split <;> omega

/-- Ranges are joined to such that start one after another, where ranges have started. -/
theorem joinFrom_starts {first last : Nat} {rs : Ranges} (h : first ≤ last) (hrs : Valid rs) :
    (joinFrom first last rs).Valid ∧ (∀ r ∈ joinFrom first last rs, r.1 ∈ first :: rs.map (·.1)) ∧
      ∃ later, (joinFrom first last rs).map (·.1) = first :: later ∧ (first :: later).Pairwise (· < ·) := by
  induction rs generalizing first last with
  | nil => exact ⟨by simpa [joinFrom, Valid] using h, by simp [joinFrom], [], by simp [joinFrom]⟩
  | cons r rs ih =>
    obtain ⟨a, b⟩ := r
    obtain ⟨hr, hrs⟩ := List.forall_mem_cons.1 hrs
    rw [joinFrom]
    split
    · obtain ⟨hvalid, hmem, hlater⟩ := ih (Nat.le_trans h (Nat.le_max_left last b)) hrs
      refine ⟨hvalid, fun s hs => ?_, hlater⟩
      rcases List.mem_cons.1 (hmem s hs) with heq | hs
      · exact heq ▸ List.mem_cons_self
      · exact List.mem_cons_of_mem _ (List.mem_cons_of_mem _ hs)
    · rename_i hfar
      obtain ⟨hvalid, hmem, later, hstarts, hpairwise⟩ := ih hr hrs
      have hlt : first < a := by
        have := lt_next last
        omega
      refine ⟨List.forall_mem_cons.2 ⟨h, hvalid⟩, ?_, a :: later, by rw [List.map_cons, hstarts], ?_⟩
      · intro s hs
        rcases List.mem_cons.1 hs with rfl | hs
        · exact List.mem_cons_self
        · exact List.mem_cons_of_mem _ (hmem s hs)
      · refine List.pairwise_cons.2 ⟨?_, hpairwise⟩
        intro n hn
        rcases List.mem_cons.1 hn with rfl | hn
        · exact hlt
        · exact Nat.lt_trans hlt ((List.pairwise_cons.1 hpairwise).1 n hn)

/-- **There are at most as many joined ranges as there are places where ranges start.** -/
theorem join_starts {rs : Ranges} (hrs : rs.Valid) : (join rs).Valid ∧
    ∀ starts : List Nat, (∀ r ∈ rs, r.1 ∈ starts) → (join rs).length ≤ starts.length := by
  have hsort : ∀ r, r ∈ rs.mergeSort (fun r s => r.1 ≤ s.1) ↔ r ∈ rs := fun r => List.mem_mergeSort
  unfold join
  split
  · exact ⟨by simp [Valid], by simp⟩
  · rename_i a b ss hsorted
    rw [hsorted] at hsort
    have hvalid : Valid ((a, b) :: ss) := fun r hr => hrs r ((hsort r).1 hr)
    obtain ⟨hab, hss⟩ := List.forall_mem_cons.1 hvalid
    obtain ⟨hjoined, hmem, later, hstarts, hpairwise⟩ := joinFrom_starts hab hss
    refine ⟨hjoined, fun starts hall => ?_⟩
    have hnodup : ((joinFrom a b ss).map (·.1)).Nodup := by
      rw [hstarts]
      exact hpairwise.imp Nat.ne_of_lt
    have hsubset : (joinFrom a b ss).map (·.1) ⊆ starts := by
      intro n hn
      obtain ⟨r, hr, rfl⟩ := List.mem_map.1 hn
      obtain ⟨s, hs, hstart⟩ := List.mem_map.1 (by simpa using hmem r hr : r.1 ∈ ((a, b) :: ss).map (·.1))
      exact hstart ▸ hall s ((hsort s).1 hs)
    have := (hnodup.subperm hsubset).length_le
    rwa [List.length_map] at this

end Unicode.Ranges

/-! ## Tables -/

namespace Unicode

open Text

/-- The parts of the text of a table, one for each range. -/
def tableParts (cs : List Char) : List (List Char) := pieces (fun c => c = ' ' || c = '\n') cs

/-- A table has a range for each part of its text, which is known by its characters: a long text is not taken apart
by evaluation. -/
theorem size_tableOf {tables : List NamedRanges} {name : String} {n : Nat}
    (h : ∃ e cs, tables.find? (·.names.contains name) = some e ∧ e.ranges = String.ofList cs ∧ (tableParts cs).length = n) :
    (tableOf tables name).size = n := by
  obtain ⟨e, cs, he, hranges, rfl⟩ := h
  rw [tableOf, NamedRanges.find?, he]
  simp [RangeTable.ofText, hranges, tableParts]

/-- The most ranges that the characters of words can have. -/
def wordRanges : Nat := 1387

theorem size_wordTable_le : wordTable.size ≤ wordRanges := by
  have hmc : (tableOf generalCategories "mc").size = 190 := size_tableOf ⟨_, _, by rfl, by rfl, by decide +kernel⟩
  have hme : (tableOf generalCategories "me").size = 5 := size_tableOf ⟨_, _, by rfl, by rfl, by decide +kernel⟩
  have hmn : (tableOf generalCategories "mn").size = 357 := size_tableOf ⟨_, _, by rfl, by rfl, by decide +kernel⟩
  have halphabetic : alphabeticTable.size = 757 := size_tableOf ⟨_, _, by rfl, by rfl, by decide +kernel⟩
  have hdecimal : decimalTable.size = 71 := size_tableOf ⟨_, _, by rfl, by rfl, by decide +kernel⟩
  have hpc : (tableOf generalCategories "pc").size = 6 := size_tableOf ⟨_, _, by rfl, by rfl, by decide +kernel⟩
  have hjoin : (tableOf binaryProperties "joincontrol").size = 1 :=
    size_tableOf ⟨_, _, by rfl, by rfl, by decide +kernel⟩
  rw [wordTable, List.size_toArray]
  refine Nat.le_trans (Ranges.length_join_le _) (Nat.le_of_eq ?_)
  simp [hmc, hme, hmn, halphabetic, hdecimal, hpc, hjoin, wordRanges]

end Unicode

/-! ## Sets -/

namespace Pattern.CharSet

/-- The characters of a set that is made of single ones. -/
def members? : CharSet → Option (List Char)
  | empty => some []
  | range a b => if a = b then some [a] else none
  | union s t => do return (← s.members?) ++ (← t.members?)
  | _ => none

/-- At least the number of ranges of a set. The forms of single characters are told without the table of forms. -/
def most : CharSet → Nat
  | cls .word => Unicode.wordRanges
  | union s t => s.most + t.most
  | compl s => s.most + 1
  | folded s =>
    match s.members? with
    | some cs => s.most + (cs.flatMap Unicode.caseForms).length
    | none => (folded s).ranges.length
  | s => s.ranges.length

theorem of_members? {s : CharSet} {cs : List Char} (h : s.members? = some cs) :
    (∀ c, s.mem c = true → c ∈ cs) ∧ s.ranges.Valid := by
  induction s generalizing cs with
  | empty => exact ⟨by simp [mem], by simp [ranges, Unicode.Ranges.Valid]⟩
  | range a b =>
    rw [members?] at h
    split at h
    · rename_i hab
      subst hab
      obtain rfl := Option.some.inj h
      refine ⟨fun c hc => ?_, by simp [ranges, Unicode.Ranges.Valid]⟩
      have hc : (single a).mem c = true := hc
      simpa using hc
    · cases h
  | union s t ihs iht =>
    obtain ⟨cs', hs, hrest⟩ := Option.bind_eq_some_iff.1 h
    obtain ⟨ds, ht, hcs⟩ := Option.bind_eq_some_iff.1 hrest
    obtain rfl := Option.some.inj hcs
    obtain ⟨hsmem, hsvalid⟩ := ihs hs
    obtain ⟨htmem, htvalid⟩ := iht ht
    refine ⟨fun c hc => ?_, (Unicode.Ranges.join_starts fun r hr => ?_).1⟩
    · rcases Bool.or_eq_true_iff.1 hc with hc | hc
      · exact List.mem_append_left _ (hsmem c hc)
      · exact List.mem_append_right _ (htmem c hc)
    · rcases List.mem_append.1 hr with hr | hr
      · exact hsvalid r hr
      · exact htvalid r hr
  | _ => cases h

/-- A set of single characters starts, with their forms, where these and it start. -/
theorem length_ranges_folded_le {s : CharSet} {cs : List Char} (h : s.members? = some cs) :
    (folded s).ranges.length ≤ s.ranges.length + (cs.flatMap Unicode.caseForms).length := by
  obtain ⟨hmem, hvalid⟩ := of_members? h
  let forms := formRanges Unicode.caseForms (letters ++ Unicode.caseFormTable.toList.map (Char.ofNat ·.1)) s.mem
  have hforms : ∀ r ∈ forms, r.1 ≤ r.2 ∧ r.1 ∈ (cs.flatMap Unicode.caseForms).map Char.toNat := by
    intro r hr
    obtain ⟨d, hd, rfl⟩ := List.mem_map.1 hr
    obtain ⟨c, hc, hd⟩ := List.mem_flatMap.1 hd
    exact ⟨Nat.le_refl _, List.mem_map_of_mem (List.mem_flatMap.2 ⟨c, hmem c (List.mem_filter.1 hc).2, hd⟩)⟩
  have hall : (s.ranges ++ forms).Valid := by
    intro r hr
    rcases List.mem_append.1 hr with hr | hr
    · exact hvalid r hr
    · exact (hforms r hr).1
  have hlength := (Unicode.Ranges.join_starts hall).2
    (s.ranges.map (·.1) ++ (cs.flatMap Unicode.caseForms).map Char.toNat) fun r hr => by
      rcases List.mem_append.1 hr with hr | hr
      · exact List.mem_append_left _ (List.mem_map_of_mem hr)
      · exact List.mem_append_right _ (hforms r hr).2
  rwa [List.length_append, List.length_map, List.length_map] at hlength

theorem length_ranges_le (s : CharSet) : s.ranges.length ≤ s.most := by
  induction s with
  | cls k =>
    cases k with
    | word =>
      rw [ranges, classRanges, Array.length_toList]
      exact Unicode.size_wordTable_le
    | _ => exact Nat.le_refl _
  | union s t ihs iht =>
    have := Unicode.Ranges.length_union_le s.ranges t.ranges
    rw [ranges, most]
    omega
  | compl s ih =>
    have := Unicode.Ranges.length_complement_le s.ranges
    rw [ranges, most]
    omega
  | folded s ih =>
    rw [most]
    split
    · rename_i cs hcs
      have := length_ranges_folded_le hcs
      omega
    · exact Nat.le_refl _
  | _ => exact Nat.le_refl _

end Pattern.CharSet

/-! ## Outlines -/

namespace Pattern.Outline

mutual

/-- At least the rough size of an outline, such that nothing grows when words become sets. -/
def bulk : Outline → Nat
  | empty => 32
  | word cs => 1572 * cs.length
  | set rs => 1508 * rs.length + 64
  | assert _ => 32
  | group _ b => b.bulk + 64
  | seq os => bulks os + 36
  | alt os => bulks os + 128
  | rounds least most _ b => (max least (most.getD 0) + 1) * (b.bulk + 48) + 192

def bulks : List Outline → Nat
  | [] => 0
  | o :: os => o.bulk + 4 + bulks os

end

mutual

theorem roughSize_le_bulk (o : Outline) : o.roughSize ≤ o.bulk := by
  cases o with
  | empty | assert => exact Nat.le_refl _
  | word cs =>
    rw [roughSize, bulk]
    omega
  | set rs =>
    rw [roughSize, bulk]
    split
    · have := Nat.mul_le_mul_right rs.length (show 8 ≤ 1508 by omega)
      omega
    · have := Nat.mul_le_mul_right rs.length (show 1500 ≤ 1508 by omega)
      omega
  | group i b => exact Nat.add_le_add_right (roughSize_le_bulk b) 64
  | seq os => exact Nat.le_trans (roughSizes_le_bulks os) (Nat.le_add_right _ 36)
  | alt os => exact Nat.add_le_add_right (roughSizes_le_bulks os) 128
  | rounds least most greedy b =>
    rw [roughSize, bulk]
    exact Nat.add_le_add_right (Nat.mul_le_mul_left _ (Nat.add_le_add_right (roughSize_le_bulk b) 48)) 192

theorem roughSizes_le_bulks (os : List Outline) : roughSizes os ≤ bulks os := by
  cases os with
  | nil => exact Nat.le_refl _
  | cons o os => exact Nat.add_le_add (Nat.add_le_add_right (roughSize_le_bulk o) 4) (roughSizes_le_bulks os)

end

theorem bulk_ofRanges_le (rs : Unicode.Ranges) : (ofRanges rs).bulk ≤ 1508 * rs.length + 64 := by
  unfold ofRanges
  split
  · split
    · simp [bulk]
    · exact Nat.le_refl _
  · exact Nat.le_refl _

theorem bulks_append (os ps : List Outline) : bulks (os ++ ps) = bulks os + bulks ps := by
  induction os with
  | nil => simp [bulks]
  | cons o os ih =>
    rw [List.cons_append, bulks, bulks, ih]
    omega

theorem bulks_flatMap_le {f : Outline → List Outline} (hf : ∀ o, bulks (f o) ≤ o.bulk + 4) (os : List Outline) :
    bulks (os.flatMap f) ≤ bulks os := by
  induction os with
  | nil => exact Nat.le_refl _
  | cons o os ih =>
    have := hf o
    rw [List.flatMap_cons, bulks_append, bulks]
    omega

theorem bulks_parts_le (o : Outline) : bulks o.parts ≤ o.bulk + 4 := by
  unfold parts
  split
  · rw [bulk]
    omega
  · simp [bulks]

theorem bulks_branches_le (o : Outline) : bulks o.branches ≤ o.bulk + 4 := by
  unfold branches
  split
  · rw [bulk]
    omega
  · simp [bulks]

theorem bulks_before_le (o : Outline) (os : List Outline) : bulks (before o os) ≤ o.bulk + 4 + bulks os := by
  unfold before
  split
  · omega
  · simp only [bulks, bulk, List.length_append]
    omega
  · simp [bulks]

/-- A sequence is hardly larger than its parts. -/
theorem bulk_sequence_le (os : List Outline) : (sequence os).bulk ≤ bulks os + 36 := by
  have hjoined : ∀ ps : List Outline, bulks (ps.foldr before []) ≤ bulks ps := by
    intro ps
    induction ps with
    | nil => exact Nat.le_refl _
    | cons p ps ih =>
      have := bulks_before_le p (ps.foldr before [])
      rw [List.foldr_cons, bulks]
      omega
  have hall := Nat.le_trans (hjoined _) (bulks_flatMap_le bulks_parts_le os)
  unfold sequence
  split
  · simp [bulk]
  · rename_i o ho
    rw [ho] at hall
    simp only [bulks] at hall
    omega
  · rw [bulk]
    omega

theorem length_ranges?_le {o : Outline} {rs : Unicode.Ranges} (h : o.ranges? = some rs) :
    1508 * rs.length ≤ o.bulk := by
  unfold ranges? at h
  split at h
  · obtain rfl := Option.some.inj h
    simp [bulk]
  · obtain rfl := Option.some.inj h
    rw [bulk]
    omega
  · cases h

theorem length_mapM_ranges?_le {os : List Outline} {rss : List Unicode.Ranges} (h : os.mapM ranges? = some rss) :
    1508 * rss.flatten.length ≤ bulks os := by
  induction os generalizing rss with
  | nil =>
    obtain rfl : [] = rss := by simpa using h
    exact Nat.le_refl _
  | cons o os ih =>
    rw [List.mapM_cons] at h
    obtain ⟨rs, ho, hrest⟩ := Option.bind_eq_some_iff.1 h
    obtain ⟨rss', hos, heq⟩ := Option.bind_eq_some_iff.1 hrest
    obtain rfl := Option.some.inj heq
    have := length_ranges?_le ho
    have := ih hos
    rw [List.flatten_cons, List.length_append, bulks]
    omega

/-- Merged branches are hardly larger than the branches. -/
theorem bulk_merged_le (os : List Outline) : (merged os).bulk ≤ bulks os + 128 := by
  have hall := bulks_flatMap_le bulks_branches_le os
  unfold merged
  split
  · simp [bulk]
  · rename_i o ho
    rw [ho] at hall
    simp only [bulks] at hall
    omega
  · split
    · rename_i rss hrss
      have := bulk_ofRanges_le (Unicode.Ranges.join rss.flatten)
      have := Unicode.Ranges.length_join_le rss.flatten
      have := length_mapM_ranges?_le hrss
      omega
    · rw [bulk]
      omega

theorem bulks_sequences_le {os : List Outline} {ps : List (List Outline)} (h : os.mapM sequence? = some ps) :
    bulks (ps.map fun p => seq p) ≤ bulks os := by
  induction os generalizing ps with
  | nil =>
    obtain rfl : [] = ps := by simpa using h
    exact Nat.le_refl _
  | cons o os ih =>
    rw [List.mapM_cons] at h
    obtain ⟨p, ho, hrest⟩ := Option.bind_eq_some_iff.1 h
    obtain ⟨ps', hos, heq⟩ := Option.bind_eq_some_iff.1 hrest
    obtain rfl := Option.some.inj heq
    have ho : o = seq p := by
      unfold sequence? at ho
      split at ho
      · rw [Option.some.inj ho]
      · cases ho
    have := ih hos
    rw [List.map_cons, bulks, bulks, ho]
    omega

theorem bulks_take_add_drop (n : Nat) (os : List Outline) : bulks (os.take n) + bulks (os.drop n) = bulks os := by
  rw [← bulks_append, List.take_append_drop]

/-- What is put before several sequences is not counted for the others. -/
theorem bulks_ends_le (n : Nat) (ps : List (List Outline)) :
    bulks (ps.map fun p => sequence (p.drop n)) ≤ bulks (ps.map fun p => seq p) := by
  induction ps with
  | nil => exact Nat.le_refl _
  | cons p ps ih =>
    have := bulk_sequence_le (p.drop n)
    have := bulks_take_add_drop n p
    rw [List.map_cons, List.map_cons, bulks, bulks, bulk]
    omega

/-- **A choice is hardly larger than its branches.** -/
theorem bulk_choice_le (os : List Outline) : (choice os).bulk ≤ bulks os + 168 := by
  have hmerged := bulk_merged_le os
  unfold choice
  split
  · rename_i os' hos'
    rw [hos', bulk] at hmerged
    split
    · rename_i first others hseqs
      simp only
      split
      · rw [bulk]
        omega
      · -- the start of the first sequence is put before what is left of all of them
        generalize others.foldl (fun n os => commonLength (first.take n) os) first.length = n
        have hseqs := bulks_sequences_le hseqs
        have hothers := bulks_ends_le n others
        have hfirst := bulk_sequence_le (first.drop n)
        have hcut := bulks_take_add_drop n first
        have hends := bulk_merged_le ((first :: others).map fun p => sequence (p.drop n))
        have hwhole := bulk_sequence_le (first.take n ++ [merged ((first :: others).map fun p => sequence (p.drop n))])
        rw [bulks_append] at hwhole
        simp only [List.map_cons, bulks, bulk] at hseqs hends hwhole ⊢
        omega
    · rw [bulk]
      omega
  · omega

end Pattern.Outline

/-! ## Expressions -/

namespace Pattern

namespace Expr

mutual

/-- What an expression weighs, which is known without its sets being worked out. -/
def weight : Expr → Nat
  | empty => 32
  | one s => 1508 * s.most + 64
  | assert _ => 32
  | group _ b => b.weight + 64
  | seq es => weights es + 36
  | alt es => weights es + 168
  | rounds least most _ b => (max least (most.getD 0) + 1) * (b.weight + 48) + 192

def weights : List Expr → Nat
  | [] => 0
  | e :: es => e.weight + 4 + weights es

end

mutual

theorem bulk_ofExpr_le (e : Expr) : (Outline.ofExpr e).bulk ≤ e.weight := by
  cases e with
  | empty | assert => exact Nat.le_refl _
  | one s =>
    have := Outline.bulk_ofRanges_le s.ranges
    have := s.length_ranges_le
    rw [Outline.ofExpr, weight]
    omega
  | group i b => exact Nat.add_le_add_right (bulk_ofExpr_le b) 64
  | seq es =>
    have := Outline.bulk_sequence_le (Outline.ofExprs es)
    have := bulks_ofExprs_le es
    rw [Outline.ofExpr, weight]
    omega
  | alt es =>
    have := Outline.bulk_choice_le (Outline.ofExprs es)
    have := bulks_ofExprs_le es
    rw [Outline.ofExpr, weight]
    omega
  | rounds least most greedy b =>
    rw [Outline.ofExpr, Outline.bulk, weight]
    exact Nat.add_le_add_right (Nat.mul_le_mul_left _ (Nat.add_le_add_right (bulk_ofExpr_le b) 48)) 192

theorem bulks_ofExprs_le (es : List Expr) : Outline.bulks (Outline.ofExprs es) ≤ weights es := by
  cases es with
  | nil => exact Nat.le_refl _
  | cons e es => exact Nat.add_le_add (Nat.add_le_add_right (bulk_ofExpr_le e) 4) (bulks_ofExprs_le es)

end

/-- **The weight of an expression bounds its size.** -/
theorem roughSize_le_weight (e : Expr) : (Outline.ofExpr e).roughSize ≤ e.weight :=
  Nat.le_trans (Outline.roughSize_le_bulk _) (bulk_ofExpr_le e)

theorem fits_of_weight_le {e : Expr} (h : e.weight ≤ Footprint.limit / 2) : (Outline.ofExpr e).fits = true := by
  have hrough := Nat.le_trans (roughSize_le_weight e) h
  simp [Outline.fits, hrough]

end Expr

end Pattern

end ProseLint
