/-
Texts with bars between them in one group, which does not capture. Where each can be read alone and between
parentheses, and leaves the flags as they were, what comes out are the branches of all of them, in order
(`Reader.read?_barred`). So at a place is found what the first of them finds there that finds something
(`Program.spanAt?_branchesFrom`).
-/
import ProseLint.Proofs.Pattern.Frame

namespace ProseLint.Pattern

/-- Texts with bars between them. -/
def barred (es : List (List Char)) : List Char := ['|'].intercalate es

namespace Reader

variable {f : Flags} {r s p : Reader} {t e : List Char} {k : Nat} {g : Opened} {around : List Opened}

/-- The expressions of the branches that have been read. -/
def exprs (r : Reader) : List Expr := (r.branch :: r.branches).reverse.map (·.expr)

theorem exprs_ne_nil (r : Reader) : r.exprs ≠ [] := by simp [exprs]

/-- What a reader is inside of in an open group, after the branches that are there. -/
def beside (s : Reader) (g : Opened) (around : List Opened) : Outside where
  before := s.branches
  group := g
  around := around
  groups := s.groups
  names := s.names

/-- Before a branch a reader is at the start of what it is inside of. -/
theorem under_inside_beside (hpieces : s.pieces = []) (hopened : s.opened = g :: around) :
    (under s.flags).inside (s.beside g around) = s := by
  obtain ⟨flags, pieces, branches, opened, groups, names⟩ := s
  obtain rfl : pieces = [] := hpieces
  obtain rfl : opened = g :: around := hopened
  rfl

theorem opened_inside (o : Outside) (h : r.opened = []) : (r.inside o).opened = o.group :: o.around := by
  rw [inside, h]
  rfl

theorem exprs_inside (o : Outside) (h : r.opened = []) :
    (r.inside o).exprs = o.before.reverse.map (·.expr) ++ r.exprs.map (·.map id o.shift) := by
  have hbranches : (r.inside o).branches = r.branches.map (·.map id o.shift) ++ o.before := by rw [inside, h]
  rw [exprs, exprs, branch_inside, hbranches]
  simp [Piece.map, Function.comp_def]

/-- The branches that texts are read to, one text after the other, when so many groups are there. -/
def branchesFrom (n : Nat) : List Reader → List Expr
  | [] => []
  | r :: rs => r.exprs.map (·.map id (n + ·)) ++ branchesFrom (n + r.groups) rs

theorem branchesFrom_ne_nil (n : Nat) {rs : List Reader} (h : rs ≠ []) : branchesFrom n rs ≠ [] := by
  cases rs with
  | nil => exact absurd rfl h
  | cons r rs => simp [branchesFrom, exprs_ne_nil]

/-- **Texts that fit are read to their branches**, if all but the last one leave the flags as they were. -/
theorem read?_barred {es : List (List Char)} {rs : List Reader} (hes : List.Forall₂ (fun e r => Fits f e r) es rs)
    (hkeep : ∀ r ∈ rs.dropLast, r.flags = f) (hne : es ≠ []) (hs : s.flags = f) (hpieces : s.pieces = [])
    (hopened : s.opened = g :: around) (h : s.read? k (barred es ++ ')' :: t) = some p) :
    ∃ m, ∃ q : Reader, q.read? m (')' :: t) = some p ∧ q.opened = s.opened ∧
      q.exprs = s.branches.reverse.map (·.expr) ++ branchesFrom s.groups rs := by
  induction hes generalizing s k with
  | nil => exact absurd rfl hne
  | @cons e r es rs hr htail ih =>
    have hstart : (under f).inside (s.beside g around) = s := hs ▸ under_inside_beside hpieces hopened
    have halone : r.opened = [] := opened_of_read? hr.read
    have hinside := (opened_inside (s.beside g around) halone).trans hopened.symm
    rw [← hstart] at h
    cases htail with
    | nil =>
      rw [barred, List.intercalate_singleton] at h
      obtain ⟨m, h⟩ := hr.comes _ _ _ _ _ .paren h
      refine ⟨m, _, h, hinside, ?_⟩
      rw [exprs_inside _ halone, branchesFrom, branchesFrom, List.append_nil]
      rfl
    | @cons e' r' es rs hr' htail =>
      rw [barred, List.intercalate_cons_cons, List.append_assoc, List.append_assoc] at h
      obtain ⟨m, h⟩ := hr.comes _ _ _ _ _ .bar h
      obtain ⟨m, x, hx, h⟩ := exists_of_read?_cons (EndsBranch.bar.skip _ _) h
      obtain rfl := Option.some.inj hx
      rw [List.dropLast_cons_cons] at hkeep
      obtain ⟨hflags, hkeep⟩ := List.forall_mem_cons.1 hkeep
      obtain ⟨m, q, hq, hq', hexprs⟩ := ih hkeep (List.cons_ne_nil _ _)
        (s := (r.inside (s.beside g around)).nextBranch) hflags rfl (hinside.trans hopened) h
      refine ⟨m, q, hq, hq'.trans hinside, ?_⟩
      have hbefore : (r.inside (s.beside g around)).nextBranch.branches.reverse.map (·.expr) =
          (r.inside (s.beside g around)).exprs := rfl
      rw [hexprs, hbefore, exprs_inside _ halone, List.append_assoc]
      rfl

/-- A text that can be read alone and in a group that does not capture fits. -/
theorem fits_of_read? (hr : (under f).read? e.length e = some r) (hf : f.verbose = false) (hs : s.Bare f)
    (ht : '\n' ∉ t) (h : s.read? k ('(' :: '?' :: ':' :: (e ++ ')' :: t)) = some p) : Fits f e r := by
  refine ⟨hr, (read?_inside hr).resolve_right fun hremarks => ?_⟩
  -- A remark would take the parenthesis that closes the group.
  have hverbose : s.flags.verbose = false := by rw [hs.flags, hf]
  obtain ⟨m, x, hx, h⟩ := exists_of_read?_next hverbose h
  obtain rfl := Option.some.inj (hx.symm.trans (step?_plainGroup hverbose _))
  have hstart := under_inside_beside (s := s.openGroup s.flags none) rfl rfl
  have hflags : (s.openGroup s.flags none).flags = f := hs.flags
  rw [hflags] at hstart
  have hnone := hremarks ((s.openGroup s.flags none).beside ⟨s.flags, s.pieces, s.branches, none⟩ s.opened)
    ')' t m .paren ht
  rw [hstart] at hnone
  exact Option.some_ne_none _ (h.symm.trans hnone)

/-- **Texts that fit are read to their branches between the edges**, behind what has been read before. -/
theorem body_of_barred {es : List (List Char)} {rs : List Reader} {nonword : Bool}
    (hf : f.verbose = false) (hs : s.Bare f) (hes : List.Forall₂ (fun e r => Fits f e r) es rs)
    (hkeep : ∀ r ∈ rs.dropLast, r.flags = f) (hne : es ≠ []) {alternatives : String}
    (halternatives : alternatives.toList = barred es) (h : s.read? k (Rule.wrap alternatives nonword).toList = some p) :
    p.body.expr = .sequence (s.pieces.reverse.map (·.expr) ++
      (edges f nonword ++ .choice (branchesFrom 0 rs) :: edges f nonword)) := by
  obtain ⟨m, q, hq, hpieces, h⟩ := exists_of_wrap hf hs h
  have hverbose : q.flags.verbose = false := by rw [hq.flags, hf]
  rw [halternatives] at h
  obtain ⟨m, x, hx, h⟩ := exists_of_read?_next hverbose h
  obtain rfl := Option.some.inj (hx.symm.trans (step?_plainGroup hverbose _))
  obtain ⟨m, q', h, hopened, hexprs⟩ :=
    read?_barred (s := q.openGroup q.flags none) hes hkeep hne hq.flags rfl rfl h
  have hgroups : (q.openGroup q.flags none).groups = 0 := hq.groups
  have hbody : q'.body.expr = .choice (branchesFrom 0 rs) := by
    rw [hgroups] at hexprs
    exact (body_expr q').trans (congrArg Expr.choice hexprs)
  obtain ⟨m, depth, q'', h, hflags, hbranches, hpieces', -⟩ := read?_closed hopened h
  obtain ⟨hwhole, -⟩ := body_of_read?_edgeText hf (hflags.trans hq.flags) (hbranches.trans hq.branches) h
  rw [hwhole, hpieces', hbody, List.reverse_cons, List.map_append, hpieces]
  simp

end Reader

/-! ## The program -/

namespace Program

theorem addExpr_sequence (p : Program) (es : List Expr) : addExpr p (.sequence es) = addSeq p es := by
  cases es with
  | nil => rfl
  | cons e es => cases es <;> rfl

theorem addExpr_choice (p : Program) (es : List Expr) : addExpr p (.choice es) = addAlt p p.start es := by
  cases es with
  | nil => rfl
  | cons e es => cases es <;> rfl

theorem addSeq_append (p : Program) (es es' : List Expr) : addSeq p (es ++ es') = addSeq (addSeq p es') es := by
  induction es with
  | nil => rfl
  | cons e es ih => rw [List.cons_append, addSeq, addSeq, ih]

theorem addSeq_empty (p : Program) {es : List Expr} (h : ∀ e ∈ es, e = .empty) : addSeq p es = p := by
  induction es with
  | nil => rfl
  | cons e es ih =>
    obtain ⟨rfl, hes⟩ := List.forall_mem_cons.1 h
    rw [addSeq, ih hes, addExpr]

/-- Branches between the edges are tried one after the other. -/
theorem ofExpr_edges (f : Flags) (nonword : Bool) {lead : List Expr} (hlead : ∀ e ∈ lead, e = .empty) (es : List Expr) :
    ofExpr (.sequence (lead ++ (edges f nonword ++ .choice es :: edges f nonword))) =
      ofBranches (edge? f nonword) es := by
  have hadd : ∀ (a : Option Assertion) (p : Program), addSeq p (a.toList.map .assert) = addCheck a p := by
    rintro (_ | a) p <;> rfl
  rw [ofExpr, addExpr_sequence, addSeq_append, addSeq_append, addSeq_empty _ hlead, addSeq, addExpr_choice, edges,
    hadd, hadd]
  rfl

/-- What branches find at a place, one list of branches after the other. -/
theorem findSome?_branchesFrom (a : Option Assertion) (n : Nat) (rs : List Reader) (p : Place) :
    (Reader.branchesFrom n rs).findSome? (fun e => (ofBranches a [e]).spanAt? p) =
      rs.findSome? fun r => (ofBranches a r.exprs).spanAt? p := by
  induction rs generalizing n with
  | nil => rfl
  | cons r rs ih =>
    have hshift : ∀ e : Expr, (ofBranches a [e.map id (n + ·)]).spanAt? p = (ofBranches a [e]).spanAt? p :=
      fun e => spanAt?_map a Nat.add_left_cancel e p
    rw [Reader.branchesFrom, List.findSome?_append, ih, List.findSome?_map, List.findSome?_cons,
      spanAt?_ofBranches a r.exprs_ne_nil]
    simp only [Function.comp_def, hshift]
    cases r.exprs.findSome? fun e => (ofBranches a [e]).spanAt? p <;> rfl

/-- **Of several texts the first one that finds something finds it.** -/
theorem spanAt?_branchesFrom (a : Option Assertion) (n : Nat) {rs : List Reader} (hne : rs ≠ []) (p : Place) :
    (ofBranches a (Reader.branchesFrom n rs)).spanAt? p = rs.findSome? fun r => (ofBranches a r.exprs).spanAt? p :=
  (spanAt?_ofBranches a (Reader.branchesFrom_ne_nil n hne) p).trans (findSome?_branchesFrom a n rs p)

end Program

end ProseLint.Pattern
