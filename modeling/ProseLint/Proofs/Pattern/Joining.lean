/-
Reading texts joined as groups, with bars between them. Where each text can be read alone, what comes out
is the choice of the groups, each with the index it has among all groups that were opened and with the name
it was given (`Reader.read?_joined`).
-/
import Mathlib.Data.List.Forall2
import ProseLint.Proofs.Pattern.Alternatives
import ProseLint.Proofs.Pattern.Pasting

namespace ProseLint.Pattern

/-- A text as a group, which may have a name. -/
def enclosed (name : Option (List Char)) (text : List Char) : List Char :=
  match name with
  | none => '(' :: (text ++ [')'])
  | some name => '(' :: '?' :: 'P' :: '<' :: (name ++ '>' :: (text ++ [')']))

/-- Texts as groups with bars between them. -/
def joined (es : List (Option (List Char) × List Char)) : List Char :=
  ['|'].intercalate (es.map fun e => enclosed e.1 e.2)

/-- Lists that are related member by member have a related one for each. -/
theorem exists_mem_of_forall₂ {α β : Type} {R : α → β → Prop} {as : List α} {bs : List β} (h : List.Forall₂ R as bs) :
    (∀ a ∈ as, ∃ b ∈ bs, R a b) ∧ ∀ b ∈ bs, ∃ a ∈ as, R a b := by
  induction h with
  | nil => simp
  | cons hR _ ih =>
    obtain ⟨hleft, hright⟩ := ih
    refine ⟨List.forall_mem_cons.2 ⟨⟨_, List.mem_cons_self, hR⟩, fun a ha => ?_⟩,
      List.forall_mem_cons.2 ⟨⟨_, List.mem_cons_self, hR⟩, fun b hb => ?_⟩⟩
    · obtain ⟨b, hb, hR'⟩ := hleft a ha
      exact ⟨b, List.mem_cons_of_mem _ hb, hR'⟩
    · obtain ⟨a, ha, hR'⟩ := hright b hb
      exact ⟨a, List.mem_cons_of_mem _ ha, hR'⟩

/-- Where each member has one that it is related to, there is a related list. -/
theorem exists_forall₂ {α β : Type} {R : α → β → Prop} {as : List α} (h : ∀ a ∈ as, ∃ b, R a b) :
    ∃ bs, List.Forall₂ R as bs := by
  induction as with
  | nil => exact ⟨[], .nil⟩
  | cons a as ih =>
    obtain ⟨⟨b, hb⟩, has⟩ := List.forall_mem_cons.1 h
    obtain ⟨bs, hbs⟩ := ih has
    exact ⟨b :: bs, .cons hb hbs⟩

/-- Lists that are related member by member are so without their last members. -/
theorem forall₂_dropLast {α β : Type} {R : α → β → Prop} {as : List α} {bs : List β} (h : List.Forall₂ R as bs) :
    List.Forall₂ R as.dropLast bs.dropLast := by
  rw [List.dropLast_eq_take, List.dropLast_eq_take, h.length_eq]
  exact List.forall₂_take _ h

namespace Reader

variable {f : Flags} {r s p : Reader} {t : List Char} {k : Nat}

/-- A reader at the start of a text, under flags. -/
def under (f : Flags) : Reader := { initial with flags := f }

/-- What a reader is inside of when it opens a group. -/
def outside (s : Reader) (name : Option (List Char)) : Outside where
  before := []
  group := ⟨s.flags, s.pieces, s.branches, some (s.groups + 1)⟩
  around := s.opened
  groups := s.groups + 1
  names := (name.map fun n => (s.groups + 1, String.ofList n)).toList ++ s.names

/-- What another reader has read alone, as the group that comes after so many. -/
def groupAfter (n : Nat) (r : Reader) : Nat × Expr := (n + 1, r.body.expr.map id (n + 1 + ·))

/-- A reader after a group in which it has read what another one has read alone. -/
def pasted (s : Reader) (name : Option (List Char)) (r : Reader) : Reader where
  flags := s.flags
  pieces := ⟨.group (groupAfter s.groups r).1 (groupAfter s.groups r).2, r.body.depth + 1, false⟩ :: s.pieces
  branches := s.branches
  opened := s.opened
  groups := s.groups + 1 + r.groups
  names := (r.inside (s.outside name)).names

/-- A text can be read alone and in a group. -/
structure Fits (f : Flags) (e : List Char) (r : Reader) : Prop where
  read : (under f).read? e.length e = some r
  comes : (under f).Comes r e

theorem skip_of_not_verbose (hf : f.verbose = false) (cs : List Char) : f.skip cs = cs := by
  rw [Flags.skip, hf]
  rfl

/-- Where blanks count, a step takes the next character. -/
theorem exists_of_read?_next {c : Char} {cs : List Char} (hs : s.flags.verbose = false)
    (h : s.read? k (c :: cs) = some p) : ∃ m x, s.step? c cs = some x ∧ x.1.read? m x.2 = some p :=
  exists_of_read?_cons (skip_of_not_verbose hs _) h

/-- What can be read alone does not start with a sign that repeats what stands before it. -/
theorem head?_ne_of_read? {e : List Char} (hf : f.verbose = false) (h : (under f).read? k e = some r) :
    e.head? ≠ some '?' := by
  intro hhead
  cases e with
  | nil => cases hhead
  | cons c cs =>
    obtain rfl : c = '?' := Option.some.inj hhead
    obtain ⟨m, x, hx, -⟩ := exists_of_read?_next (s := under f) hf h
    cases hx

theorem closeGroup?_pasted (name : Option (List Char)) (hr : r.opened = []) :
    (r.inside (s.outside name)).closeGroup? = some (s.pasted name r) := by
  have hopened : (r.inside (s.outside name)).opened = (s.outside name).group :: (s.outside name).around := by
    rw [inside, hr]
    rfl
  have hbody : (r.inside (s.outside name)).body = r.body.map id (s.outside name).shift := by
    refine body_map rfl ?_
    rw [inside, hr]
    exact List.append_nil _
  unfold closeGroup?
  rw [hopened, hbody]
  rfl

theorem openParen?_group {cs : List Char} (hs : s.flags.verbose = false) (hhead : cs.head? ≠ some '?') :
    s.openParen? cs = some (s.openGroup s.flags (some (s.groups + 1)), cs) := by
  cases cs with
  | nil =>
    unfold openParen?
    rw [skip_of_not_verbose hs]
  | cons c cs =>
    have hc : c ≠ '?' := fun hc => hhead (congrArg some hc)
    exact openParen?_of_ne (skip_of_not_verbose hs _) hc

/-- A group with a name is opened where the name can be given. -/
theorem eq_of_openParen?_named {name cs : List Char} {x : Reader × List Char} (hs : s.flags.verbose = false)
    (hname : '>' ∉ name) (h : s.openParen? ('?' :: 'P' :: '<' :: (name ++ '>' :: cs)) = some x) :
    x = ((under s.flags).inside (s.outside (some name)), cs) := by
  have hopen : s.openNamed? (name ++ '>' :: cs) = some x := by
    rw [← h, openParen?, skip_of_not_verbose hs]
    rfl
  have htake : (name ++ '>' :: cs).takeWhile (· ≠ '>') = name := by
    rw [List.takeWhile_append_of_pos (by simpa using fun c hc (heq : c = '>') => hname (heq ▸ hc))]
    simp
  have hdrop : (name ++ '>' :: cs).dropWhile (· ≠ '>') = '>' :: cs := by
    rw [List.dropWhile_append_of_pos (by simpa using fun c hc (heq : c = '>') => hname (heq ▸ hc))]
    simp
  unfold openNamed? at hopen
  simp only [htake, hdrop] at hopen
  cases name with
  | nil => cases hopen
  | cons c more =>
    simp only at hopen
    split at hopen
    · exact (Option.some.inj hopen).symm
    · cases hopen

/-- A text in parentheses, opened at a reader, is read as inside of what is around it. -/
theorem read?_outside {name : Option (List Char)} {e : List Char} (hs : s.flags.verbose = false)
    (hname : ∀ n ∈ name, '>' ∉ n) (hhead : e.head? ≠ some '?')
    (h : s.read? k (enclosed name e ++ t) = some p) :
    ∃ m, ((under s.flags).inside (s.outside name)).read? m (e ++ ')' :: t) = some p := by
  cases name with
  | none =>
    rw [enclosed, List.cons_append, List.append_assoc, List.singleton_append] at h
    obtain ⟨m, x, hx, h⟩ := exists_of_read?_next hs h
    have hhead' : (e ++ ')' :: t).head? ≠ some '?' := by
      cases e with
      | nil => exact fun h => absurd (Option.some.inj h) (by decide)
      | cons c cs => exact hhead
    obtain rfl := Option.some.inj (hx.symm.trans (openParen?_group hs hhead'))
    exact ⟨m, h⟩
  | some name =>
    simp only [enclosed, List.cons_append, List.append_assoc, List.nil_append] at h
    obtain ⟨m, x, hx, h⟩ := exists_of_read?_next hs h
    obtain rfl := eq_of_openParen?_named hs (hname name rfl) hx
    exact ⟨m, h⟩

/-- A text that fits is read to one group. -/
theorem Fits.read?_group {name : Option (List Char)} {e : List Char} (hr : Fits s.flags e r)
    (hs : s.flags.verbose = false) (hname : ∀ n ∈ name, '>' ∉ n)
    (h : s.read? k (enclosed name e ++ t) = some p) : ∃ m, (s.pasted name r).read? m t = some p := by
  obtain ⟨m, h⟩ := read?_outside hs hname (head?_ne_of_read? hs hr.read) h
  obtain ⟨m, h⟩ := hr.comes _ _ _ _ _ .paren h
  obtain ⟨m, x, hx, h⟩ := exists_of_read?_cons (EndsBranch.paren.skip _ _) h
  rw [step?, closeGroup?_pasted name (opened_of_read? hr.read)] at hx
  obtain rfl := Option.some.inj hx
  exact ⟨m, h⟩

/-- A text that can be read alone and in parentheses fits. A remark that it leaves open would take the parenthesis
that closes the group. -/
theorem fits_of_read?_enclosed {e : List Char} (hr : (under s.flags).read? e.length e = some r)
    (hs : s.flags.verbose = false) (ht : '\n' ∉ t) (h : s.read? k (enclosed none e ++ t) = some p) :
    Fits s.flags e r := by
  refine ⟨hr, (read?_inside hr).resolve_right ?_⟩
  intro hremarks
  obtain ⟨m, h⟩ := read?_outside hs (by simp) (head?_ne_of_read? hs hr) h
  rw [hremarks (s.outside none) ')' t m .paren ht] at h
  cases h

/-- The groups that texts are read to, each with its index. -/
def numbered (n : Nat) : List Reader → List (Nat × Expr)
  | [] => []
  | r :: rs => groupAfter n r :: numbered (n + 1 + r.groups) rs

/-- The branches of the current group are these expressions. The last one is a piece. -/
def Branches (s : Reader) (es : List Expr) : Prop :=
  ∃ x, s.pieces = [x] ∧ (x :: s.branches).reverse.map (·.expr) = es

theorem Branches.body {es : List Expr} (h : s.Branches es) : s.body.expr = Expr.choice es := by
  obtain ⟨x, hx, rfl⟩ := h
  have hbranch : s.branch = x := by
    unfold branch
    rw [hx]
  rw [body_expr, hbranch]

theorem branch_pasted (name : Option (List Char)) (h : s.pieces = []) : (s.pasted name r).branch =
    ⟨.group (groupAfter s.groups r).1 (groupAfter s.groups r).2, r.body.depth + 1, false⟩ := by
  unfold branch pasted
  rw [h]

theorem branches_pasted (name : Option (List Char)) (h : s.pieces = []) : (s.pasted name r).Branches
    (s.branches.reverse.map (·.expr) ++ Program.groupsOf [groupAfter s.groups r]) := by
  refine ⟨⟨.group (groupAfter s.groups r).1 (groupAfter s.groups r).2, r.body.depth + 1, false⟩, ?_, ?_⟩
  · rw [pasted, h]
  · simp [pasted, Program.groupsOf]

theorem mem_names_pasted (name : Option (List Char)) {n : Nat × String}
    (h : n ∈ s.names ∨ ∃ m ∈ name, n = (s.groups + 1, String.ofList m)) : n ∈ (s.pasted name r).names := by
  refine List.mem_append_right _ (List.mem_append.2 ?_)
  rcases h with h | ⟨m, hm, rfl⟩
  · exact .inr h
  · exact .inl (by simp [Option.mem_def.1 hm])

/-- **Texts that fit are read to a choice of groups**, which have the names that they were given. -/
theorem read?_joined (hf : f.verbose = false) {es : List (Option (List Char) × List Char)} {rs : List Reader}
    (hes : List.Forall₂ (fun e r => Fits f e.2 r) es rs) (hnames : ∀ e ∈ es, ∀ n ∈ e.1, '>' ∉ n) (hne : es ≠ [])
    {s : Reader} (hs : s.flags = f) (hpieces : s.pieces = []) {k : Nat} (h : s.read? k (joined es ++ t) = some p) :
    ∃ m, ∃ q : Reader, q.read? m t = some p ∧ q.flags = f ∧ q.opened = s.opened ∧
      q.Branches (s.branches.reverse.map (·.expr) ++ Program.groupsOf (numbered s.groups rs)) ∧
      (∀ n ∈ s.names, n ∈ q.names) ∧
      List.Forall₂ (fun e g => ∀ n ∈ e.1, (g.1, String.ofList n) ∈ q.names) es (numbered s.groups rs) := by
  induction hes generalizing s k with
  | nil => exact absurd rfl hne
  | @cons e r es rs hr htail ih =>
    subst hs
    obtain ⟨hname, hnames⟩ := List.forall_mem_cons.1 hnames
    have hown : ∀ n ∈ e.1, ((groupAfter s.groups r).1, String.ofList n) ∈ (s.pasted e.1 r).names :=
      fun n hn => mem_names_pasted e.1 (.inr ⟨n, hn, rfl⟩)
    cases htail with
    | nil =>
      rw [joined, List.map_singleton, List.intercalate_singleton] at h
      obtain ⟨m, h⟩ := hr.read?_group hf hname h
      exact ⟨m, _, h, rfl, rfl, branches_pasted e.1 hpieces, fun n hn => mem_names_pasted e.1 (.inl hn),
        .cons hown .nil⟩
    | @cons e' r' es rs hr' htail =>
      rw [joined, List.map_cons, List.map_cons, List.intercalate_cons_cons, List.append_assoc, List.append_assoc] at h
      obtain ⟨m, h⟩ := hr.read?_group hf hname h
      obtain ⟨m, x, hx, h⟩ := exists_of_read?_next (s := s.pasted e.1 r) hf h
      obtain rfl := Option.some.inj hx
      obtain ⟨m, q, hq, hflags, hopened, hbranches, hkept, hgiven⟩ :=
        ih hnames (List.cons_ne_nil _ _) (s := (s.pasted e.1 r).nextBranch) rfl rfl h
      have hexprs : (s.pasted e.1 r).nextBranch.branches.reverse.map (·.expr) =
          s.branches.reverse.map (·.expr) ++ Program.groupsOf [groupAfter s.groups r] := by
        change ((s.pasted e.1 r).branch :: s.branches).reverse.map (·.expr) = _
        rw [branch_pasted e.1 hpieces, List.reverse_cons, List.map_append, List.map_singleton]
        rfl
      rw [hexprs, List.append_assoc] at hbranches
      exact ⟨m, q, hq, hflags, hopened, hbranches, fun n hn => hkept n (mem_names_pasted e.1 (.inl hn)),
        .cons (fun n hn => hkept _ (hown n hn)) hgiven⟩

end Reader

end ProseLint.Pattern
