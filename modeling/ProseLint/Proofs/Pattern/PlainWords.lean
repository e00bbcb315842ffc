/-
Reading plain words. Letters, digits and underscores stand for themselves in a pattern, so words with bars
between them are read to an expression that matches what spells one of them, be they bare
(`Pattern.program_of_words`) or groups of their own, which are numbered in order
(`Pattern.program_of_groups`).
-/
import ProseLint.Proofs.Pattern.Groups
import ProseLint.Proofs.Pattern.Joining
import ProseLint.Proofs.Pattern.Words
import ProseLint.Rule.Compile

namespace ProseLint

open Pattern

namespace Pattern

/-- A word of letters, digits and underscores. -/
structure PlainWord (w : List Char) : Prop where
  ne_nil : w ≠ []
  plain : ∀ c ∈ w, Unicode.isPlainWord c = true

instance (w : List Char) : Decidable (PlainWord w) :=
  decidable_of_iff (w.isEmpty = false ∧ w.all Unicode.isPlainWord = true)
    ⟨fun h => ⟨List.isEmpty_eq_false_iff.1 h.1, List.all_eq_true.1 h.2⟩,
      fun h => ⟨List.isEmpty_eq_false_iff.2 h.1, List.all_eq_true.2 h.2⟩⟩

theorem toNat_lt_of_isPlainWord {c : Char} (h : Unicode.isPlainWord c = true) : c.toNat < 0x80 := by
  have hbelow : ∀ {d : Char}, d.toNat < 0x80 → c.val ≤ d.val → c.toNat < 0x80 := fun hd hle =>
    Nat.lt_of_le_of_lt (UInt32.le_iff_toNat_le.1 hle) hd
  change (((c.isUpper || c.isLower) || ('0' ≤ c && c ≤ '9')) || c = '_') = true at h
  simp only [Bool.or_eq_true] at h
  rcases h with ((hupper | hlower) | hdigit) | hline
  · exact hbelow (d := 'Z') (by decide) (of_decide_eq_true hupper).2
  · exact hbelow (d := 'z') (by decide) (of_decide_eq_true (Bool.and_eq_true_iff.1 hlower).2)
  · exact hbelow (d := '9') (by decide) (of_decide_eq_true (Bool.and_eq_true_iff.1 hdigit).2)
  · obtain rfl := of_decide_eq_true hline
    decide

theorem isWord_of_isPlainWord {c : Char} (h : Unicode.isPlainWord c = true) : Unicode.isWord c = true := by
  rw [Unicode.isWord, if_pos (toNat_lt_of_isPlainWord h), h]

theorem PlainWord.isWord {w : List Char} (h : PlainWord w) : w ≠ [] ∧ ∀ c ∈ w, Unicode.isWord c = true :=
  ⟨h.ne_nil, fun c hc => isWord_of_isPlainWord (h.plain c hc)⟩

/-! ## What words are read to -/

namespace Expr

variable {p q : Place}

/-- The characters of a word one after the other. -/
def ofWord (w : List Char) : Expr := .sequence (w.map fun c => .one (.single c))

theorem matches_sequence (es : List Expr) : (sequence es).Matches p q ↔ MatchesAll es p q := by
  cases es with
  | nil => exact Iff.rfl
  | cons e es =>
    cases es with
    | nil =>
      refine ⟨fun h => ⟨q, h, rfl⟩, ?_⟩
      rintro ⟨_, h, rfl⟩
      exact h
    | cons => exact Iff.rfl

theorem matchesAny_iff {es : List Expr} (hne : es ≠ []) : MatchesAny es p q ↔ ∃ e ∈ es, e.Matches p q := by
  induction es with
  | nil => exact absurd rfl hne
  | cons e es ih =>
    cases es with
    | nil => simp [MatchesAny]
    | cons e' es =>
      rw [List.exists_mem_cons_iff, ← ih (List.cons_ne_nil _ _)]
      exact Iff.rfl

theorem matches_choice {es : List Expr} (hne : es ≠ []) : (choice es).Matches p q ↔ ∃ e ∈ es, e.Matches p q := by
  rw [← matchesAny_iff hne]
  cases es with
  | nil => exact absurd rfl hne
  | cons e es => cases es <;> exact Iff.rfl

/-- The characters of a word match what spells it. -/
theorem matches_ofWord (w : List Char) : (ofWord w).Matches p q ↔ Place.Spells w p q := by
  rw [ofWord, matches_sequence]
  induction w generalizing p with
  | nil => exact Iff.rfl
  | cons c cs ih =>
    constructor
    · rintro ⟨_, ⟨d, rest, hrest, hd, rfl⟩, h⟩
      obtain rfl : d = c := by simpa using hd
      exact ⟨rest, hrest, ih.1 h⟩
    · rintro ⟨rest, hrest, h⟩
      exact ⟨_, ⟨c, rest, hrest, by simp, rfl⟩, ih.2 h⟩

theorem spellsOne_ofWord (w : List Char) : (ofWord w).SpellsOne [w] := by
  intro p q
  simp [matches_ofWord]

theorem SpellsOne.group {words : List (List Char)} {e : Expr} (h : e.SpellsOne words) (i : Nat) :
    (Expr.group i e).SpellsOne words := h

/-- A choice of what spells words spells one of them. -/
theorem spellsOne_choice {words : List (List Char)} {es : List Expr}
    (h : List.Forall₂ (fun w e => e.SpellsOne [w]) words es) (hne : words ≠ []) : (choice es).SpellsOne words := by
  have hes : es ≠ [] := by
    rintro rfl
    exact hne (List.forall₂_nil_right_iff.1 h)
  intro p q
  rw [matches_choice hes]
  clear hes hne
  induction h with
  | nil => simp
  | cons he _ ih =>
    rw [List.exists_mem_cons_iff, List.exists_mem_cons_iff, ih, he]
    simp

theorem noGroups_ofWord (w : List Char) : (ofWord w).NoGroups := by
  have hall : allGroupIndices [] (w.map fun c => .one (.single c)) = [] := by
    induction w with
    | nil => rfl
    | cons c cs ih => exact ih
  cases w with
  | nil => rfl
  | cons c cs =>
    cases cs with
    | nil => rfl
    | cons => exact hall

end Expr

namespace Reader

variable {r s p : Reader} {t : List Char} {k : Nat}

/-- Under some flags a character that is no sign of its own matches itself only. -/
structure Literally (f : Flags) : Prop where
  verbose : f.verbose = false
  ignoreCase : f.ignoreCase = false

theorem step?_wordChar {c : Char} (hc : Unicode.isPlainWord c = true) (hr : Literally r.flags) (cs : List Char) :
    r.step? c cs = some (r.push (.one (.single c)) 0, cs) := by
  unfold step?
  split
  case h_13 => rw [literal, hr.ignoreCase]; rfl
  all_goals exact absurd hc (by decide)

/-- A reader that has read a word more. -/
def spelled (s : Reader) (w : List Char) : Reader :=
  { s with pieces := (w.map fun c => ⟨.one (.single c), 0, false⟩).reverse ++ s.pieces }

/-- A word is read character by character. -/
theorem read?_word {w : List Char} (hw : ∀ c ∈ w, Unicode.isPlainWord c = true) (hs : Literally s.flags)
    (h : s.read? k (w ++ t) = some p) : ∃ m, (s.spelled w).read? m t = some p := by
  induction w generalizing s k with
  | nil => exact ⟨k, h⟩
  | cons c cs ih =>
    obtain ⟨hc, hcs⟩ := List.forall_mem_cons.1 hw
    obtain ⟨m, x, hx, h⟩ := exists_of_read?_next hs.verbose h
    obtain rfl := Option.some.inj (hx.symm.trans (step?_wordChar hc hs _))
    obtain ⟨m, h⟩ := ih (s := s.push (.one (.single c)) 0) hcs hs h
    refine ⟨m, ?_⟩
    simpa [spelled, push] using h

theorem branch_spelled (h : s.pieces = []) (w : List Char) : (s.spelled w).branch.expr = Expr.ofWord w := by
  rw [branch_expr, spelled, h]
  simp [Expr.ofWord, Function.comp_def]

/-- Words with bars between them are read to the branches of the current group. -/
theorem read?_words {words : List (List Char)} (hwords : ∀ w ∈ words, PlainWord w) (hne : words ≠ [])
    (hs : Literally s.flags) (hpieces : s.pieces = []) (h : s.read? k (['|'].intercalate words ++ t) = some p) :
    ∃ m, ∃ q : Reader, q.read? m t = some p ∧ q.flags = s.flags ∧ q.opened = s.opened ∧
      (q.branch :: q.branches).reverse.map (·.expr) = s.branches.reverse.map (·.expr) ++ words.map Expr.ofWord := by
  induction words generalizing s k with
  | nil => exact absurd rfl hne
  | cons w words ih =>
    obtain ⟨hw, hwords⟩ := List.forall_mem_cons.1 hwords
    have hbranch := branch_spelled hpieces w
    cases words with
    | nil =>
      rw [List.intercalate_singleton] at h
      obtain ⟨m, h⟩ := read?_word hw.plain hs h
      refine ⟨m, _, h, rfl, rfl, ?_⟩
      rw [List.reverse_cons, List.map_append, List.map_singleton, hbranch]
      rfl
    | cons w' words =>
      rw [List.intercalate_cons_cons, List.append_assoc, List.append_assoc] at h
      obtain ⟨m, h⟩ := read?_word hw.plain hs h
      obtain ⟨m, x, hx, h⟩ := exists_of_read?_next (s := s.spelled w) hs.verbose h
      obtain rfl := Option.some.inj hx
      obtain ⟨m, q, hq, hflags, hopened, hbranches⟩ :=
        ih hwords (List.cons_ne_nil _ _) (s := (s.spelled w).nextBranch) hs rfl h
      refine ⟨m, q, hq, hflags, hopened, hbranches.trans ?_⟩
      change ((s.spelled w).branch :: s.branches).reverse.map (·.expr) ++ _ = _
      rw [List.reverse_cons, List.map_append, List.map_singleton, hbranch, List.append_assoc]
      rfl

/-- A reader after a word, which it has read alone. -/
theorem fits_word {w : List Char} (hw : PlainWord w) {f : Flags} (hf : Literally f) :
    Fits f w ((under f).spelled w) where
  read := by
    have hread : ∀ {s : Reader}, Literally s.flags → s.opened = [] → ∀ {cs : List Char},
        (∀ c ∈ cs, Unicode.isPlainWord c = true) → s.read? cs.length cs = some (s.spelled cs) := by
      intro s hs hopened cs hcs
      induction cs generalizing s with
      | nil =>
        rw [read?_of_skip_nil (skip_of_not_verbose hs.verbose _), hopened]
        rfl
      | cons c cs ih =>
        obtain ⟨hc, hcs⟩ := List.forall_mem_cons.1 hcs
        rw [List.length_cons, read?_succ_of_skip_cons (skip_of_not_verbose hs.verbose _), step?_wordChar hc hs]
        refine (ih (s := s.push (.one (.single c)) 0) hs hopened hcs).trans ?_
        simp [spelled, push]
    exact hread hf rfl hw.plain
  comes := by
    intro o z t k p hz h
    obtain ⟨m, h⟩ := read?_word (s := (under f).inside o) hw.plain hf h
    refine ⟨m, ?_⟩
    have hinside : ((under f).spelled w).inside o = ((under f).inside o).spelled w := by
      simp [spelled, inside, under, initial, Piece.map, Expr.map, Function.comp_def]
    rw [hinside]
    exact h

/-! ## Whole words -/

/-- A reader that has read a word edge and has opened a group that does not capture. -/
def afterEdge : Reader := (initial.push (.assert wordEdge) 0).openGroup .initial none

theorem literally_initial : Literally .initial := ⟨rfl, rfl⟩

/-- What stands in a group between two word edges is read as it is read after the first one. -/
theorem read?_wrapped {cs : List Char} {e : Expr}
    (hinner : ∀ {k t p}, afterEdge.read? k (cs ++ t) = some p → ∃ m, ∃ q : Reader,
      q.read? m t = some p ∧ q.flags = .initial ∧ q.opened = afterEdge.opened ∧ q.body.expr = e)
    (h : initial.read? k ('\\' :: 'b' :: '(' :: '?' :: ':' :: (cs ++ [')', '\\', 'b'])) = some p) :
    p.body.expr = e.wholeWord := by
  have hverbose : ∀ {q : Reader}, q.flags = .initial → q.flags.verbose = false := fun hq => hq ▸ rfl
  obtain ⟨m, x, hx, h⟩ := exists_of_read?_next (hverbose rfl) h
  obtain rfl := Option.some.inj hx
  obtain ⟨m, x, hx, h⟩ := exists_of_read?_next (hverbose rfl) h
  obtain rfl := Option.some.inj hx
  obtain ⟨m, q, h, hflags, hopened, rfl⟩ := hinner h
  obtain ⟨m, x, hx, h⟩ := exists_of_read?_next (hverbose hflags) h
  have hclosed : q.closeGroup? = some { q with
      flags := .initial
      branches := []
      opened := []
      pieces := [⟨q.body.expr, q.body.depth + 1, false⟩, ⟨.assert wordEdge, 0, false⟩] } := by
    unfold closeGroup?
    rw [hopened]
    rfl
  rw [step?, hclosed] at hx
  obtain rfl := Option.some.inj hx
  obtain ⟨m, x, hx, h⟩ := exists_of_read?_next (hverbose rfl) h
  obtain rfl := Option.some.inj hx
  rcases read?_cases h with ⟨-, -, rfl⟩ | ⟨_, _, _, _, -, hskip, -⟩
  · rfl
  · cases hskip

end Reader

theorem toList_wrap (s : String) :
    (Rule.wrap s false).toList = '\\' :: 'b' :: '(' :: '?' :: ':' :: (s.toList ++ [')', '\\', 'b']) := by
  have hopen : "\\b(?:".toList = ['\\', 'b', '(', '?', ':'] := by decide
  have hclose : ")\\b".toList = [')', '\\', 'b'] := by decide
  rw [Rule.wrap, if_neg Bool.false_ne_true, String.toList_append, String.toList_append, hopen, hclose]
  rfl

theorem toList_alternatives (patterns : List String) :
    (Rule.alternatives patterns).toList = ['|'].intercalate (patterns.map String.toList) := by
  have hbar : "|".toList = ['|'] := by decide
  rw [Rule.alternatives, String.toList_intercalate, hbar]

/-- **Words with bars between them spell one of the words.** -/
theorem program_of_words {words : List String} (hwords : ∀ w ∈ words, PlainWord w.toList) (hne : words ≠ [])
    {p : Pattern} (h : ofText? (Rule.wrap (Rule.alternatives words) false) = some p) :
    ∃ body : Expr, p.program = .ofExpr body.wholeWord ∧ body.SpellsOne (words.map String.toList) := by
  have hall : ∀ w ∈ words.map String.toList, PlainWord w := List.forall_mem_map.2 hwords
  have hne' : words.map String.toList ≠ [] := by simpa using hne
  obtain ⟨r, hr, hprogram, -⟩ := exists_of_ofText? h
  rw [toList_wrap, toList_alternatives] at hr
  have hbody : r.body.expr = (Expr.choice ((words.map String.toList).map Expr.ofWord)).wholeWord := by
    refine Reader.read?_wrapped (fun {k t p} h => ?_) hr
    obtain ⟨m, q, hq, hflags, hopened, hbranches⟩ := Reader.read?_words hall hne' Reader.literally_initial rfl h
    exact ⟨m, q, hq, hflags, hopened, by rw [Reader.body_expr, hbranches]; rfl⟩
  refine ⟨_, hprogram.trans (congrArg _ hbody), Expr.spellsOne_choice ?_ hne'⟩
  rw [List.forall₂_map_right_iff, List.forall₂_same]
  exact fun w _ => Expr.spellsOne_ofWord w

/-! ## A word alone -/

/-- The outline of a word is the word. -/
theorem ofExpr_ofWord {w : List Char} (hne : w ≠ []) : Outline.ofExpr (Expr.ofWord w) = .word w := by
  have hletters : Outline.ofExprs (w.map fun c => .one (.single c)) = w.map fun c => .word [c] := by
    clear hne
    induction w with
    | nil => rfl
    | cons c cs ih =>
      rw [List.map_cons, List.map_cons, Outline.ofExprs, ih]
      simp [Outline.ofExpr, CharSet.single, CharSet.ranges, Outline.ofRanges]
  have hjoined : ∀ cs : List Char, cs ≠ [] →
      (cs.map fun c => Outline.word [c]).foldr Outline.before [] = [.word cs] := by
    intro cs hcs
    induction cs with
    | nil => exact absurd rfl hcs
    | cons c cs ih =>
      cases cs with
      | nil => rfl
      | cons d cs =>
        rw [List.map_cons, List.foldr_cons, ih (List.cons_ne_nil _ _)]
        rfl
  have hparts : (w.map fun c => Outline.word [c]).flatMap Outline.parts = w.map fun c => .word [c] := by
    rw [List.flatMap_map]
    exact List.flatMap_pure_eq_map (fun c => Outline.word [c]) w
  cases w with
  | nil => exact absurd rfl hne
  | cons c cs =>
    cases cs with
    | nil => simpa [Expr.ofWord, Expr.sequence, Outline.ofExprs] using hletters
    | cons d cs =>
      change Outline.sequence (Outline.ofExprs ((c :: d :: cs).map fun c => .one (.single c))) = _
      rw [hletters, Outline.sequence, hparts, hjoined _ hne]

theorem Reader.depth_spelled (f : Flags) (w : List Char) : ((under f).spelled w).body.depth ≤ 1 := by
  have hflat : ∀ cs : List Char, ∀ n, (cs.map fun c => (⟨.one (.single c), 0, false⟩ : Piece)).foldl
      (fun d p => max d p.depth) n = n := by
    intro cs n
    induction cs with
    | nil => rfl
    | cons c cs ih => simpa using ih
  change ((under f).spelled w).branch.depth ≤ 1
  unfold branch
  split
  · exact Nat.zero_le 1
  · rename_i p hp
    have hmem : p ∈ ((under f).spelled w).pieces := hp ▸ List.mem_singleton_self p
    obtain ⟨c, -, rfl⟩ : ∃ c ∈ w, (⟨.one (.single c), 0, false⟩ : Piece) = p := by
      simpa [spelled, under, initial] using hmem
    exact Nat.zero_le 1
  · have hpieces : ((under f).spelled w).pieces = w.reverse.map fun c => ⟨.one (.single c), 0, false⟩ := by
      simp [spelled, under, initial]
    change ((under f).spelled w).pieces.foldl _ 0 + 1 ≤ 1
    rw [hpieces, hflat]

/-- **A plain word is a pattern without groups unless it is too large.** -/
theorem ofText?_word {w : String} (hw : PlainWord w.toList) : ofText? w =
    if (Outline.word w.toList).fits then some ⟨w, .ofExpr (.ofWord w.toList), []⟩ else none := by
  have hread : Reader.initial.read? w.toList.length w.toList = some ((Reader.under .initial).spelled w.toList) :=
    (Reader.fits_word hw Reader.literally_initial).read
  have hbody : ((Reader.under .initial).spelled w.toList).body.expr = Expr.ofWord w.toList :=
    Reader.branch_spelled rfl _
  have hdepth : ((Reader.under .initial).spelled w.toList).body.depth ≤ maxDepth :=
    Nat.le_trans (Reader.depth_spelled _ _) (by decide)
  have hgroups : (Expr.ofWord w.toList).groupIndices [] = [] := Expr.noGroups_ofWord _
  unfold ofText?
  rw [← String.length_toList, hread]
  simp [hbody, hdepth, ofExpr_ofWord hw.ne_nil, hgroups, Expr.lastGroup_eq, namesFrom]

theorem length_le_byteLength (cs : List Char) : cs.length ≤ Text.byteLength cs := by
  induction cs with
  | nil => exact Nat.le_refl _
  | cons c cs ih =>
    have := c.utf8Size_pos
    rw [List.length_cons, Text.byteLength_cons]
    omega

/-- A word of so few characters fits by its rough size. -/
theorem fits_word_of_short {w : List Char} (h : w.length ≤ 10240) : (Outline.word w).fits = true := by
  have hrough : (Outline.word w).roughSize ≤ Footprint.limit / 2 := by
    simp only [Outline.roughSize, Footprint.limit]
    omega
  simp [Outline.fits, hrough]

/-- A word of too many characters takes more states than fit. -/
theorem fits_word_of_long {w : List Char} (h : Footprint.limit < w.length * Footprint.stateSize) :
    (Outline.word w).fits = false := by
  have hgrow : ∀ f : Footprint, f.grow? (Text.byteLength w) 0 = none := by
    intro f
    have hstates := Nat.mul_le_mul_right Footprint.stateSize
      (Nat.le_trans (length_le_byteLength w) (Nat.le_add_left _ f.states))
    exact if_neg (Nat.not_le.2 (Nat.lt_of_lt_of_le h (Nat.le_trans hstates (Nat.le_add_right _ _))))
  have hrough : ¬ (Outline.word w).roughSize ≤ Footprint.limit / 2 := by
    simp only [Outline.roughSize, Footprint.limit, Footprint.stateSize] at h ⊢
    omega
  have hway : Outline.fitsOneWay false (.word w) = false := by
    have hlay : ∀ f : Footprint, Outline.lay? false (.group 0 (.word w)) f = none := by
      intro f
      simp [Outline.lay?, hgrow]
    simp [Outline.fitsOneWay, hlay]
  simp [Outline.fits, hrough, hway]

/-- **An entry of a plain word is usable unless the word is too large.** -/
theorem isUsable_word {w : String} (hw : PlainWord w.toList) : Rule.isUsable w = (Outline.word w.toList).fits := by
  rw [Rule.isUsable, ofText?_word hw]
  cases (Outline.word w.toList).fits <;> rfl

/-! ## Words as groups -/

/-- The groups of words, numbered from one. -/
def wordGroups (words : List (List Char)) : List (Nat × Expr) :=
  (words.zipIdx 1).map fun x => (x.2, Expr.ofWord x.1)

/-- Each group has the number of its word. -/
theorem exists_of_mem_wordGroups {words : List (List Char)} {g : Nat × Expr} (h : g ∈ wordGroups words) :
    ∃ i w, words[i]? = some w ∧ g = (i + 1, Expr.ofWord w) := by
  obtain ⟨⟨w, j⟩, hw, rfl⟩ := List.mem_map.1 h
  obtain ⟨hj, hw⟩ := List.mk_mem_zipIdx_iff_le_and_getElem?_sub.1 hw
  exact ⟨j - 1, w, hw, by rw [Nat.sub_add_cancel hj]⟩

theorem noGroups_of_mem_wordGroups {words : List (List Char)} {g : Nat × Expr} (h : g ∈ wordGroups words) :
    g.2.NoGroups := by
  obtain ⟨_, w, -, rfl⟩ := exists_of_mem_wordGroups h
  exact Expr.noGroups_ofWord w

/-- The groups of words spell one of the words. -/
theorem spellsOne_wordGroups {words : List (List Char)} (hne : words ≠ []) :
    (Expr.choice (Program.groupsOf (wordGroups words))).SpellsOne words := by
  refine Expr.spellsOne_choice ?_ hne
  clear hne
  unfold wordGroups
  generalize 1 = n
  induction words generalizing n with
  | nil => exact .nil
  | cons w words ih => exact .cons ((Expr.spellsOne_ofWord w).group n) (ih (n + 1))

theorem numbered_words (f : Flags) (words : List (List Char)) (n : Nat) :
    Reader.numbered n (words.map (Reader.under f).spelled) =
      (words.zipIdx (n + 1)).map fun x => (x.2, Expr.ofWord x.1) := by
  induction words generalizing n with
  | nil => rfl
  | cons w words ih =>
    have hbody : ((Reader.under f).spelled w).body.expr = Expr.ofWord w := Reader.branch_spelled rfl w
    have hgroup : Reader.groupAfter n ((Reader.under f).spelled w) = (n + 1, Expr.ofWord w) := by
      rw [Reader.groupAfter, hbody, Expr.map_of_noGroups _ _ (Expr.noGroups_ofWord w)]
    rw [List.map_cons, Reader.numbered, List.zipIdx_cons, List.map_cons, hgroup]
    exact congrArg _ (ih (n + 1))

namespace Program

/-- A choice of groups between two assertions tries the groups one after the other. -/
theorem ofExpr_wholeWord_groups {gs : List (Nat × Expr)} (hne : gs ≠ []) :
    ofExpr (Expr.choice (groupsOf gs)).wholeWord = ofChoices (some wordEdge) gs := by
  cases gs with
  | nil => exact absurd rfl hne
  | cons g gs => cases gs <;> rfl

end Program

/-- The indices of groups without groups in them, the last one first. -/
theorem flatMap_groupIndices_groupsOf {gs : List (Nat × Expr)} (hgs : ∀ g ∈ gs, g.2.NoGroups) :
    (Program.groupsOf gs).reverse.flatMap (·.groupIndices []) = (gs.map (·.1)).reverse := by
  have hown : ∀ g ∈ gs.reverse, (Expr.group g.1 g.2).groupIndices [] = [g.1] := by
    intro g hg
    rw [Expr.groupIndices, Expr.groupIndices_eq, hgs g (List.mem_reverse.1 hg), List.nil_append]
  rw [Program.groupsOf, ← List.map_reverse, List.flatMap_map, List.flatMap_congr hown, ← List.map_reverse,
    List.map_eq_flatMap]

theorem groupIndices_groups {gs : List (Nat × Expr)} (hgs : ∀ g ∈ gs, g.2.NoGroups) :
    (Expr.choice (Program.groupsOf gs)).wholeWord.groupIndices [] = (gs.map (·.1)).reverse := by
  change (Expr.choice (Program.groupsOf gs)).groupIndices [] = _
  rw [Expr.groupIndices_choice, flatMap_groupIndices_groupsOf hgs]

/-- **Words in groups of their own are tried one after the other.** There are as many groups as words. -/
theorem program_of_groups {words : List String} (hwords : ∀ w ∈ words, PlainWord w.toList) (hne : words ≠ [])
    {p : Pattern}
    (h : ofText? (Rule.wrap (Rule.alternatives (words.map fun w => "(" ++ w ++ ")")) false) = some p) :
    p.program = .ofChoices (some wordEdge) (wordGroups (words.map String.toList)) ∧ p.groupCount = words.length := by
  obtain ⟨r, hread, hprogram, -⟩ := exists_of_ofText? h
  have hr := hread
  have hjoined : ['|'].intercalate ((words.map fun w => "(" ++ w ++ ")").map String.toList) =
      joined ((words.map String.toList).map fun w => (none, w)) := by
    have hparens : "(".toList = ['('] ∧ ")".toList = [')'] := by decide
    simp [joined, enclosed, hparens.1, hparens.2, Function.comp_def]
  rw [toList_wrap, toList_alternatives, hjoined] at hr
  have hfits : List.Forall₂ (fun e r => Reader.Fits .initial e.2 r)
      ((words.map String.toList).map fun w => ((none, w) : Option (List Char) × List Char))
      ((words.map String.toList).map (Reader.under .initial).spelled) := by
    rw [List.forall₂_map_left_iff, List.forall₂_map_right_iff, List.forall₂_same, List.forall_mem_map]
    exact fun w hw => Reader.fits_word (hwords w hw) Reader.literally_initial
  have hbody : r.body.expr =
      (Expr.choice (Program.groupsOf (wordGroups (words.map String.toList)))).wholeWord := by
    refine Reader.read?_wrapped (fun {k t p} h => ?_) hr
    obtain ⟨m, q, hq, hflags, hopened, hbranches, -⟩ := Reader.read?_joined (s := Reader.afterEdge) rfl hfits
      (by simp) (by simpa using hne) rfl rfl h
    refine ⟨m, q, hq, hflags, hopened, hbranches.body.trans ?_⟩
    rw [numbered_words]
    rfl
  have hgroups : wordGroups (words.map String.toList) ≠ [] := by
    simpa [wordGroups] using hne
  have hindices : r.body.expr.groupIndices [] = (List.range' 1 words.length).reverse := by
    rw [hbody, groupIndices_groups fun g => noGroups_of_mem_wordGroups]
    simp [wordGroups, Function.comp_def]
  refine ⟨?_, ?_⟩
  · rw [hprogram, hbody, Program.ofExpr_wholeWord_groups hgroups]
  · rw [groupCount_eq h hread, hindices, List.head?_reverse, List.getLast?_range']
    cases words with
    | nil => exact absurd rfl hne
    | cons w words => simp

open Text (runs) in
/-- **What is found stands on a run, and the group of the word that the run is took it.** -/
theorem group_of_mem_findAll {words : List (List Char)} (hwords : ∀ w ∈ words, PlainWord w) (hne : words ≠ [])
    {text : List Char} {m : Match}
    (h : m ∈ (Program.ofChoices (some wordEdge) (wordGroups words)).findAll text) :
    ∃ i w, words[i]? = some w ∧ m.groups = [(i + 1, m.span)] ∧
      ∃ r ∈ runs Unicode.isWord text, r.chars = w ∧ r.span = m.span := by
  have hgroups : wordGroups words ≠ [] := by simpa [wordGroups] using hne
  obtain ⟨f, rfl, hf⟩ := Program.exists_finish_of_mem_findAll h
  obtain ⟨g, hg, htook, f', hf', hspan⟩ :=
    Program.ofChoices_found hgroups (fun g => noGroups_of_mem_wordGroups) hf
  obtain ⟨i, w, hw, rfl⟩ := exists_of_mem_wordGroups hg
  -- Alone between the edges the word finds the same, and it finds nothing but itself.
  have hfound := (Program.finish?_found hf.within.start hf').1
  have halone : Program.ofChoices (some wordEdge) [(1, Expr.ofWord w)] =
      .ofExpr (Expr.group 1 (Expr.ofWord w)).wholeWord := rfl
  rw [halone] at hfound
  have hword : ∀ v ∈ [w], v ≠ [] ∧ ∀ c ∈ v, Unicode.isWord c = true :=
    List.forall_mem_singleton.2 (hwords w (List.mem_of_getElem? hw)).isWord
  obtain ⟨r, hr, hchars, hrspan⟩ :=
    Program.exists_run_of_found ((Expr.spellsOne_ofWord w).group 1) hword hfound
  exact ⟨i, w, hw, htook, r, hr, List.mem_singleton.1 hchars, hrspan.trans hspan⟩

end Pattern

end ProseLint
