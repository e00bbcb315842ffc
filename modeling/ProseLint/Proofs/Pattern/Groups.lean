/-
The groups of a pattern that has been read. They are numbered from one on as they are opened, and no two of
them have the same name (`Reader.Ordered`). So the names of the groups of a pattern are as many as the last
index says (`Pattern.length_namesFrom`), and each stands where its group does (`Pattern.indexOf?_of_mem`).
-/
import ProseLint.Proofs.Pattern.Mapping

namespace ProseLint

namespace Pattern

namespace Expr

mutual

theorem lastGroup_eq (n : Nat) (e : Expr) : e.lastGroup n = (e.groupIndices []).foldr max n := by
  cases e with
  | empty | one | assert => rfl
  | group i b =>
    rw [lastGroup, groupIndices, groupIndices_eq, List.foldr_append, lastGroup_eq (max n i) b, List.foldr_cons,
      List.foldr_nil, Nat.max_comm]
  | seq es | alt es => exact lastGroups_eq n es
  | rounds least most greedy b => exact lastGroup_eq n b

theorem lastGroups_eq (n : Nat) (es : List Expr) : lastGroups n es = (allGroupIndices [] es).foldr max n := by
  cases es with
  | nil => rfl
  | cons e es =>
    rw [lastGroups, allGroupIndices, allGroupIndices_eq, List.foldr_append, lastGroups_eq _ es, lastGroup_eq n e]

end

theorem allGroupIndices_eq_flatMap (es : List Expr) :
    allGroupIndices [] es = es.reverse.flatMap (·.groupIndices []) := by
  induction es with
  | nil => rfl
  | cons e es ih => rw [allGroupIndices, allGroupIndices_eq, ih, List.reverse_cons, List.flatMap_append,
      List.flatMap_singleton]

theorem groupIndices_sequence (es : List Expr) :
    (sequence es).groupIndices [] = es.reverse.flatMap (·.groupIndices []) := by
  rw [← allGroupIndices_eq_flatMap]
  cases es with
  | nil => rfl
  | cons e es => cases es <;> rfl

theorem groupIndices_choice (es : List Expr) :
    (choice es).groupIndices [] = es.reverse.flatMap (·.groupIndices []) := by
  rw [← allGroupIndices_eq_flatMap]
  cases es with
  | nil => rfl
  | cons e es => cases es <;> rfl

/-- What is repeated no times loses its groups. -/
theorem groupIndices_repeated_sublist (least : Nat) (most : Option Nat) (greedy : Bool) (e : Expr) :
    ((e.repeated least most greedy).groupIndices []).Sublist (e.groupIndices []) := by
  unfold repeated
  generalize (if e.isVoid = true then min least 1 else least) = l
  generalize (if e.isVoid = true then some (min (most.getD 1) 1) else most) = m
  simp only
  split
  · exact List.nil_sublist _
  · split
    · exact .refl _
    · exact .refl _

end Expr

/-- The indices of the groups of pieces, the last one first. -/
def pieceIndices (ps : List Piece) : List Nat := ps.flatMap fun p => p.expr.groupIndices []

@[simp] theorem pieceIndices_nil : pieceIndices [] = [] := rfl

@[simp] theorem pieceIndices_cons (p : Piece) (ps : List Piece) :
    pieceIndices (p :: ps) = p.expr.groupIndices [] ++ pieceIndices ps := List.flatMap_cons

@[simp] theorem pieceIndices_append (ps qs : List Piece) :
    pieceIndices (ps ++ qs) = pieceIndices ps ++ pieceIndices qs := List.flatMap_append

/-- The indices of an open group and of those before it. -/
def Opened.indices (o : Opened) : List Nat := o.index.toList ++ pieceIndices (o.pieces ++ o.branches)

namespace Reader

/-- The indices of the groups that a reader has opened, the last one first. -/
def indices (r : Reader) : List Nat := pieceIndices (r.pieces ++ r.branches) ++ r.opened.flatMap Opened.indices

variable {r q : Reader}

theorem indices_branch (r : Reader) : r.branch.expr.groupIndices [] = pieceIndices r.pieces := by
  rw [branch_expr, Expr.groupIndices_sequence, ← List.map_reverse, List.reverse_reverse, List.flatMap_map]
  rfl

theorem indices_body (r : Reader) : r.body.expr.groupIndices [] = pieceIndices (r.pieces ++ r.branches) := by
  rw [body_expr, Expr.groupIndices_choice, ← List.map_reverse, List.reverse_reverse, List.flatMap_map,
    pieceIndices_append, ← indices_branch]
  rfl

/-- Groups are numbered from one on as they are opened, and names are given once. -/
structure Ordered (r : Reader) : Prop where
  indices : r.indices.Pairwise (· > ·)
  bounds : ∀ i ∈ r.indices, 0 < i ∧ i ≤ r.groups
  names : r.names.Pairwise fun n m => n.1 > m.1 ∧ n.2 ≠ m.2
  bound : ∀ n ∈ r.names, n.1 ≤ r.groups

theorem ordered_initial : initial.Ordered := ⟨.nil, nofun, .nil, nofun⟩

namespace Ordered

/-- Nothing is opened; what is repeated no times may be lost. -/
theorem of_sublist (h : r.Ordered) (hindices : q.indices.Sublist r.indices) (hgroups : q.groups = r.groups)
    (hnames : q.names = r.names) : q.Ordered where
  indices := h.indices.sublist hindices
  bounds := by
    intro i hi
    rw [hgroups]
    exact h.bounds i (hindices.subset hi)
  names := hnames ▸ h.names
  bound := by
    rw [hgroups, hnames]
    exact h.bound

theorem push (h : r.Ordered) {e : Expr} (he : e.groupIndices [] = []) (depth : Nat) : (r.push e depth).Ordered := by
  refine h.of_sublist ?_ rfl rfl
  have hsame : (r.push e depth).indices = r.indices := by
    simp [Reader.push, Reader.indices, he]
  exact hsame ▸ .refl _

theorem nextBranch (h : r.Ordered) : r.nextBranch.Ordered := by
  refine h.of_sublist ?_ rfl rfl
  have hsame : r.nextBranch.indices = r.indices := by
    simp [Reader.nextBranch, Reader.indices, indices_branch]
  exact hsame ▸ .refl _

/-- A group is opened under the next index, or without one. -/
theorem openGroup (h : r.Ordered) (f : Flags) {index : Option Nat} (hindex : ∀ i ∈ index, i = r.groups + 1) :
    (r.openGroup f index).Ordered := by
  have hindices : (r.openGroup f index).indices = index.toList ++ r.indices := by
    simp [Reader.openGroup, Reader.indices, Opened.indices]
  cases index with
  | none => exact h.of_sublist (by rw [hindices]; exact .refl _) rfl rfl
  | some i =>
    have hi : i = r.groups + 1 := hindex i rfl
    have hgroups : (r.openGroup f (some i)).groups = r.groups + 1 := rfl
    refine ⟨?_, ?_, h.names, ?_⟩
    · rw [hindices, Option.toList_some, List.singleton_append, List.pairwise_cons]
      refine ⟨fun j hj => ?_, h.indices⟩
      have := (h.bounds j hj).2
      show j < i
      omega
    · rw [hindices, hgroups, Option.toList_some, List.singleton_append, List.forall_mem_cons]
      refine ⟨by omega, fun j hj => ?_⟩
      have := h.bounds j hj
      omega
    · intro n hn
      have := h.bound n hn
      rw [hgroups]
      omega

theorem closeGroup? (h : r.Ordered) (hq : r.closeGroup? = some q) : q.Ordered := by
  unfold Reader.closeGroup? at hq
  split at hq
  · cases hq
  · rename_i o opened hopened
    obtain rfl := Option.some.inj hq
    refine h.of_sublist ?_ rfl rfl
    have hinside := indices_body r
    have hsame : pieceIndices (r.pieces ++ r.branches) ++ o.index.toList ++ pieceIndices (o.pieces ++ o.branches) ++
        opened.flatMap Opened.indices = r.indices := by
      simp [Reader.indices, hopened, Opened.indices]
    rw [← hsame, ← hinside]
    cases o.index with
    | none => simp [Reader.indices]
    | some i => simp [Reader.indices, Expr.groupIndices, Expr.groupIndices_eq [i]]

theorem repeat? (h : r.Ordered) {least : Nat} {most : Option Nat} {lazy : Bool}
    (hq : r.repeat? least most lazy = some q) : q.Ordered := by
  unfold Reader.repeat? at hq
  split at hq
  · cases hq
  · rename_i p ps hpieces
    split at hq
    · cases hq
    · obtain rfl := Option.some.inj hq
      refine h.of_sublist ?_ rfl rfl
      simp only [Reader.indices, hpieces, List.cons_append, pieceIndices_cons, List.append_assoc]
      exact (Expr.groupIndices_repeated_sublist _ _ _ p.expr).append_right _

theorem openNamed? (h : r.Ordered) {cs : List Char} {x : Reader × List Char}
    (hx : r.openNamed? cs = some x) : x.1.Ordered := by
  unfold Reader.openNamed? at hx
  simp only at hx
  split at hx
  · rename_i c more _ rest hname _
    split at hx
    · rename_i hnew
      obtain rfl := Option.some.inj hx
      simp only [Bool.and_eq_true, Bool.not_eq_true', List.any_eq_false, decide_eq_true_eq] at hnew
      have hopened : (r.openGroup r.flags (some (r.groups + 1))).Ordered := h.openGroup _ (by simp)
      refine ⟨hopened.indices, hopened.bounds, ?_, ?_⟩
      · refine List.pairwise_cons.2 ⟨fun n hn => ⟨?_, fun heq => hnew.2 n hn heq.symm⟩, h.names⟩
        exact Nat.lt_succ_of_le (h.bound n hn)
      · refine List.forall_mem_cons.2 ⟨Nat.le_refl _, fun n hn => ?_⟩
        exact Nat.le_succ_of_le (h.bound n hn)
    · cases hx
  · cases hx

theorem openParen? (h : r.Ordered) {cs : List Char} {x : Reader × List Char}
    (hx : r.openParen? cs = some x) : x.1.Ordered := by
  unfold Reader.openParen? at hx
  split at hx
  case h_1 | h_2 | h_3 | h_4 => cases hx
  case h_5 | h_6 => exact h.openNamed? hx
  case h_7 =>
    split at hx
    · cases hx
    · obtain rfl := Option.some.inj hx
      exact h.openGroup _ (by simp)
    · cases hx
    · obtain rfl := Option.some.inj hx
      exact h.of_sublist (.refl _) rfl rfl
  case h_8 =>
    obtain rfl := Option.some.inj hx
    exact h.openGroup _ (by simp)

theorem pushAtom (h : r.Ordered) (a : Atom) : (r.pushAtom a).Ordered := by
  cases a with
  | char c => exact h.push rfl 0
  | set s => exact h.push rfl 0
  | assert a => exact h.push rfl 0

theorem step? (h : r.Ordered) {c : Char} {cs : List Char} {x : Reader × List Char}
    (hx : r.step? c cs = some x) : x.1.Ordered := by
  by_cases hbrace : c = '\x7b'
  · subst hbrace
    rw [step?_brace] at hx
    obtain ⟨y, -, hx⟩ := Option.bind_eq_some_iff.1 hx
    obtain ⟨q, hq, rfl⟩ := Option.map_eq_some_iff.1 hx
    exact h.repeat? hq
  by_cases hescape : c = '\\'
  · subst hescape
    rw [step?_backslash] at hx
    obtain ⟨y, -, rfl⟩ := Option.map_eq_some_iff.1 hx
    exact h.pushAtom y.1
  unfold Reader.step? at hx
  split at hx
  case h_1 => exact h.openParen? hx
  case h_2 =>
    obtain ⟨q, hq, rfl⟩ := Option.map_eq_some_iff.1 hx
    exact h.closeGroup? hq
  case h_3 =>
    obtain rfl := Option.some.inj hx
    exact h.nextBranch
  case h_4 | h_10 =>
    obtain ⟨y, -, rfl⟩ := Option.map_eq_some_iff.1 hx
    exact h.push rfl _
  case h_5 | h_6 | h_7 =>
    obtain ⟨q, hq, rfl⟩ := Option.map_eq_some_iff.1 hx
    exact h.repeat? hq
  case h_8 => exact absurd rfl hbrace
  case h_9 => exact absurd rfl hescape
  case h_11 | h_12 | h_13 =>
    obtain rfl := Option.some.inj hx
    exact h.push rfl 0

/-- **Reading keeps the order of the groups.** -/
theorem read? (h : r.Ordered) {n : Nat} {cs : List Char} (hq : r.read? n cs = some q) : q.Ordered := by
  induction n generalizing r cs with
  | zero =>
    rcases read?_cases hq with ⟨-, -, rfl⟩ | ⟨m, _, _, _, hn, -, -, -⟩
    · exact h
    · exact absurd hn (Nat.succ_ne_zero m).symm
  | succ n ih =>
    rcases read?_cases hq with ⟨-, -, rfl⟩ | ⟨m, _, _, x, hn, -, hx, hq⟩
    · exact h
    · obtain rfl := Nat.succ.inj hn
      exact ih (h.step? hx) hq

/-- Of two groups with names neither the indices nor the names are the same. -/
theorem eq_of_mem_names (h : r.Ordered) {n m : Nat × String} (hn : n ∈ r.names) (hm : m ∈ r.names)
    (heq : n.1 = m.1 ∨ n.2 = m.2) : n = m := by
  have hnames := h.names
  generalize r.names = names at hn hm hnames
  induction names with
  | nil => cases hn
  | cons k names ih =>
    obtain ⟨hk, hnames⟩ := List.pairwise_cons.1 hnames
    rcases List.mem_cons.1 hn with rfl | hn'
    · rcases List.mem_cons.1 hm with rfl | hm'
      · rfl
      · obtain ⟨hlt, hne⟩ := hk m hm'
        exact absurd heq (not_or.2 ⟨by omega, hne⟩)
    · rcases List.mem_cons.1 hm with rfl | hm'
      · obtain ⟨hlt, hne⟩ := hk n hn'
        exact absurd heq (not_or.2 ⟨by omega, hne.symm⟩)
      · exact ih hn' hm' hnames

/-- The groups of what has been read are in order. -/
theorem body (h : r.Ordered) (hopened : r.opened = []) :
    (r.body.expr.groupIndices []).Pairwise (· > ·) ∧ ∀ i ∈ r.body.expr.groupIndices [], 0 < i := by
  have hindices : r.body.expr.groupIndices [] = r.indices := by
    rw [indices_body, Reader.indices, hopened, List.flatMap_nil, List.append_nil]
  rw [hindices]
  exact ⟨h.indices, fun i hi => (h.bounds i hi).1⟩

end Ordered

end Reader

/-! ## Names -/

/-- The groups of a pattern have names up to the last index. -/
theorem length_namesFrom {present : List Nat} (hsorted : present.Pairwise (· < ·)) {index n : Nat}
    (hle : ∀ i ∈ present, index ≤ i) (hlast : present.getLast? = some (index + n)) (names : List (Nat × String)) :
    (namesFrom index (n + 1) present names).length = n + 1 := by
  induction n generalizing index present names with
  | zero =>
    cases present with
    | nil => cases hlast
    | cons i present =>
      rw [namesFrom]
      split <;> rfl
  | succ n ih =>
    cases present with
    | nil => cases hlast
    | cons i present =>
      obtain ⟨hi, hpresent⟩ := List.pairwise_cons.1 hsorted
      have hnext : index + (n + 1) = index + 1 + n := by omega
      rw [hnext] at hlast
      rw [namesFrom]
      split
      · rename_i hindex
        subst hindex
        have hi' : ∀ j ∈ present, i + 1 ≤ j := hi
        rw [List.length_cons, ih hpresent hi']
        cases present with
        | nil =>
          rw [List.getLast?_singleton, Option.some.injEq] at hlast
          omega
        | cons j present => rwa [List.getLast?_cons_cons] at hlast
      · rename_i hindex
        have hlt : index < i := Nat.lt_of_le_of_ne (hle i List.mem_cons_self) (Ne.symm hindex)
        rw [List.length_cons, ih hsorted]
        · intro j hj
          rcases List.mem_cons.1 hj with rfl | hj
          · exact hlt
          · exact Nat.lt_trans hlt (hi j hj)
        · exact hlast

/-- What stands under an index is a name that was given to it. -/
theorem mem_of_getElem?_namesFrom {index count k : Nat} {present : List Nat} {names : List (Nat × String)}
    {name : String} (h : (namesFrom index count present names)[k]? = some (some name)) :
    (index + k, name) ∈ names := by
  induction count generalizing index k present names with
  | zero => cases h
  | succ n ih =>
    cases present with
    | nil => cases h
    | cons i present =>
      have hrest : ∀ {k : Nat} {present : List Nat},
          (namesFrom (index + 1) n present (names.dropWhile (·.1 < index)))[k]? = some (some name) →
            (index + (k + 1), name) ∈ names := by
        intro k present h
        have hmem := (List.dropWhile_sublist _).subset (ih h)
        rwa [Nat.add_assoc, Nat.add_comm 1 k] at hmem
      rw [namesFrom] at h
      split at h
      · cases k with
        | zero =>
          rw [List.getElem?_cons_zero, Option.some.injEq] at h
          obtain ⟨n, hn, rfl⟩ := Option.map_eq_some_iff.1 h
          obtain ⟨hhead, hindex⟩ := Option.filter_eq_some_iff.1 hn
          have hmem := (List.dropWhile_sublist _).subset (List.mem_of_head? hhead)
          have heq : n.1 = index := of_decide_eq_true hindex
          rwa [← heq, Nat.add_zero]
        | succ k => exact hrest h
      · cases k with
        | zero => cases h
        | succ k => exact hrest h

/-- A name that was given to a group stands under its index. -/
theorem getElem?_namesFrom {index count i : Nat} {present : List Nat} {names : List (Nat × String)} {name : String}
    (hsorted : present.Pairwise (· < ·)) (hle : ∀ j ∈ present, index ≤ j)
    (hnames : names.Pairwise fun n m => n.1 < m.1) (hi : i ∈ present) (hlt : i < index + count)
    (hname : (i, name) ∈ names) :
    (namesFrom index count present names)[i - index]? = some (some name) := by
  have hindex := hle i hi
  induction count generalizing index present names with
  | zero => omega
  | succ n ih =>
    cases present with
    | nil => cases hi
    | cons j present =>
      obtain ⟨hj, hpresent⟩ := List.pairwise_cons.1 hsorted
      have hkept : (names.dropWhile (·.1 < index)).Pairwise fun n m => n.1 < m.1 :=
        hnames.sublist (List.dropWhile_sublist _)
      have hmem : (i, name) ∈ names.dropWhile (·.1 < index) := by
        have hboth := List.takeWhile_append_dropWhile (p := fun n : Nat × String => decide (n.1 < index)) (l := names)
        rw [← hboth, List.mem_append] at hname
        refine hname.resolve_left fun hbefore => ?_
        have hlow := List.all_eq_true.1 List.all_takeWhile _ hbefore
        rw [decide_eq_true_eq] at hlow
        omega
      rw [namesFrom]
      by_cases hnow : i = index
      · -- Nothing is present before the index, and the names before it are dropped.
        have hpresent' : j = index := by
          rcases List.mem_cons.1 hi with rfl | hlater
          · exact hnow
          · have := hj i hlater
            have := hle j List.mem_cons_self
            omega
        have hhead : (names.dropWhile (·.1 < index)).head? = some (i, name) := by
          cases hdrop : names.dropWhile (·.1 < index) with
          | nil =>
            rw [hdrop] at hmem
            cases hmem
          | cons m ms =>
            rw [hdrop] at hmem hkept
            rcases List.mem_cons.1 hmem with heq | hlater
            · rw [heq, List.head?_cons]
            · have hbefore := (List.pairwise_cons.1 hkept).1 _ hlater
              have hnot := List.head_dropWhile_not (fun n : Nat × String => decide (n.1 < index))
                (l := names) (by rw [hdrop]; exact List.cons_ne_nil _ _)
              simp only [hdrop, List.head_cons, decide_eq_false_iff_not] at hnot
              simp only at hbefore
              omega
        rw [if_pos hpresent', hnow, Nat.sub_self, List.getElem?_cons_zero, hhead]
        simp [Option.filter, hnow]
      · have hpos : i - index = (i - (index + 1)) + 1 := by omega
        rw [hpos]
        split
        · rename_i heq
          have hi' : i ∈ present := (List.mem_cons.1 hi).resolve_left fun h => hnow (h.trans heq)
          rw [List.getElem?_cons_succ]
          refine ih hpresent (fun k hk => ?_) hkept hi' (by omega) hmem (by omega)
          have := hj k hk
          omega
        · rename_i hne
          rw [List.getElem?_cons_succ]
          refine ih hsorted (fun k hk => ?_) hkept hi (by omega) hmem (by omega)
          have := hle j List.mem_cons_self
          rcases List.mem_cons.1 hk with rfl | hk
          · omega
          · have := hj k hk
            omega

/-- A pattern that has been read has the program of what its text was read to, names for the groups, and the text
itself. -/
theorem exists_of_ofText? {source : String} {p : Pattern} (h : ofText? source = some p) :
    ∃ r, Reader.initial.read? source.length source.toList = some r ∧ p.program = .ofExpr r.body.expr ∧
      p.groupNames = namesFrom 1 (r.body.expr.lastGroup 0) (r.body.expr.groupIndices []).reverse r.names.reverse ∧
      p.source = source := by
  unfold ofText? at h
  split at h
  · cases h
  · rename_i r hr
    simp only at h
    split at h
    · obtain rfl := Option.some.inj h
      exact ⟨r, hr, rfl, rfl, rfl⟩
    · cases h

theorem foldr_max_eq {is : List Nat} (h : is.Pairwise (· > ·)) : is.foldr max 0 = is.head?.getD 0 := by
  induction is with
  | nil => rfl
  | cons i is ih =>
    obtain ⟨hi, his⟩ := List.pairwise_cons.1 h
    rw [List.foldr_cons, ih his, List.head?_cons, Option.getD_some]
    cases is with
    | nil => simp
    | cons j is =>
      have := hi j List.mem_cons_self
      simp only [List.head?_cons, Option.getD_some]
      omega

/-- **There are as many groups as the index of the last one says.** -/
theorem groupCount_eq {source : String} {p : Pattern} {r : Reader} (h : ofText? source = some p)
    (hr : Reader.initial.read? source.length source.toList = some r) :
    p.groupCount = (r.body.expr.groupIndices []).head?.getD 0 := by
  obtain ⟨r', hr', -, hnames, -⟩ := exists_of_ofText? h
  obtain rfl : r = r' := Option.some.inj (hr.symm.trans hr')
  obtain ⟨hsorted, hpos⟩ := (Reader.ordered_initial.read? hr).body (Reader.opened_of_read? hr)
  rw [groupCount, hnames, Expr.lastGroup_eq, foldr_max_eq hsorted]
  generalize r.body.expr.groupIndices [] = is at hsorted hpos ⊢
  cases is with
  | nil => rfl
  | cons i is =>
    have hi := hpos i List.mem_cons_self
    obtain ⟨n, rfl⟩ : ∃ n, i = n + 1 := ⟨i - 1, by omega⟩
    have hlast : ((n + 1) :: is).reverse.getLast? = some (1 + n) := by
      rw [List.getLast?_reverse, List.head?_cons, Nat.add_comm]
    refine length_namesFrom (List.pairwise_reverse.2 hsorted) ?_ hlast _
    intro j hj
    exact hpos j (List.mem_reverse.1 hj)

/-- **The index of a name is that of the group it was given to.** -/
theorem indexOf?_of_mem {source : String} {p : Pattern} {r : Reader} {i : Nat} {name : String}
    (hr : Reader.initial.read? source.length source.toList = some r)
    (hnames : p.groupNames =
      namesFrom 1 (r.body.expr.lastGroup 0) (r.body.expr.groupIndices []).reverse r.names.reverse)
    (hi : i ∈ r.body.expr.groupIndices []) (hname : (i, name) ∈ r.names) : p.indexOf? name = some i := by
  have hordered := Reader.ordered_initial.read? hr
  obtain ⟨hsorted, hpos⟩ := hordered.body (Reader.opened_of_read? hr)
  have hlast : i ≤ r.body.expr.lastGroup 0 := by
    rw [Expr.lastGroup_eq]
    generalize r.body.expr.groupIndices [] = is at hi
    induction is with
    | nil => cases hi
    | cons j is ih =>
      rw [List.foldr_cons]
      rcases List.mem_cons.1 hi with rfl | hi
      · exact Nat.le_max_left _ _
      · exact Nat.le_trans (ih hi) (Nat.le_max_right _ _)
  have hipos := hpos i hi
  have hstands : p.groupNames[i - 1]? = some (some name) := by
    rw [hnames]
    refine getElem?_namesFrom (List.pairwise_reverse.2 hsorted) (fun j hj => ?_) ?_ (List.mem_reverse.2 hi) (by omega)
      (List.mem_reverse.2 hname)
    · exact hpos j (List.mem_reverse.1 hj)
    · exact List.pairwise_reverse.2 (hordered.names.imp And.left)
  have hsome : (p.groupNames.findIdx? (· == some name)).isSome := by
    rw [List.findIdx?_isSome, List.any_eq_true]
    exact ⟨some name, List.mem_of_getElem? hstands, beq_self_eq_true _⟩
  obtain ⟨k, hk⟩ := Option.isSome_iff_exists.1 hsome
  obtain ⟨hklt, hkeq, -⟩ := List.findIdx?_eq_some_iff_getElem.1 hk
  have hthere : p.groupNames[k]? = some (some name) := by
    rw [List.getElem?_eq_getElem hklt, eq_of_beq hkeq]
  rw [hnames] at hthere
  have hmem := List.mem_reverse.1 (mem_of_getElem?_namesFrom hthere)
  -- No other group has been given the name.
  have hsame : 1 + k = i := congrArg Prod.fst (hordered.eq_of_mem_names hmem hname (.inr rfl))
  rw [indexOf?, hk, Option.map_some, ← hsame, Nat.add_comm]

end Pattern

end ProseLint
