/-
What stands around the alternatives of a rule: a switch before them, the edges of a word, and a group that
does not capture. Reading them comes to the group (`Reader.exists_of_wrap`), and after the group the pattern
is what the group was read to between the edges (`Reader.body_of_read?_edgeText`).
-/
import ProseLint.Proofs.Pattern.CaseBlind
import ProseLint.Proofs.Pattern.PlainWords

namespace ProseLint

namespace Pattern

namespace Reader

variable {f : Flags} {r s p : Reader} {t : List Char} {k : Nat}

theorem plain_under (hf : f.plain = .initial) : (under f).plain = initial.plain := by
  rw [plain, under, hf]
  rfl

/-- Whether case counts does not decide what can be read. -/
theorem exists_read?_under (hf : f.plain = .initial) {cs : List Char} (h : initial.read? k cs = some r) :
    ∃ q, (under f).read? k cs = some q := by
  have hsame := read?_plain k cs (plain_under hf)
  rw [h, Option.map_some] at hsame
  obtain ⟨q, hq, -⟩ := Option.map_eq_some_iff.1 hsame
  exact ⟨q, hq⟩

/-- Whether case counts does not decide which groups are opened, nor which of them are kept. -/
theorem exists_read?_initial (hf : f.plain = .initial) {cs : List Char} (h : (under f).read? k cs = some r) :
    ∃ q, initial.read? k cs = some q ∧ q.groups = r.groups ∧
      q.body.expr.groupIndices [] = r.body.expr.groupIndices [] := by
  have hsame := read?_plain k cs (plain_under hf)
  rw [h, Option.map_some] at hsame
  obtain ⟨q, hq, hqr⟩ := Option.map_eq_some_iff.1 hsame.symm
  have hexpr : q.body.expr.map (fun _ => .empty) id = r.body.expr.map (fun _ => .empty) id :=
    congrArg Piece.expr (body_of_plain hqr)
  have hindices := congrArg (Expr.groupIndices []) hexpr
  rw [Expr.groupIndices_map, Expr.groupIndices_map, List.map_id, List.map_id] at hindices
  exact ⟨q, hq, (fields_of_plain hqr).2.2.2.2.1, hindices⟩

/-- A reader has read nothing but expressions without groups. -/
structure Bare (f : Flags) (s : Reader) : Prop where
  flags : s.flags = f
  pieces : ∀ x ∈ s.pieces, x.expr.NoGroups
  branches : s.branches = []
  opened : s.opened = []
  groups : s.groups = 0

theorem Bare.push {e : Expr} (h : s.Bare f) (he : e.NoGroups) (depth : Nat) : (s.push e depth).Bare f where
  flags := h.flags
  pieces := List.forall_mem_cons.2 ⟨he, h.pieces⟩
  branches := h.branches
  opened := h.opened
  groups := h.groups

/-- The sign of a group that does not capture. -/
theorem step?_plainGroup (hs : s.flags.verbose = false) (cs : List Char) :
    s.step? '(' ('?' :: ':' :: cs) = some (s.openGroup s.flags none, cs) := by
  change s.openParen? ('?' :: ':' :: cs) = _
  rw [openParen?_of_readLetters? (skip_of_not_verbose hs _) rfl]
  rfl

/-- What is read in a group that does not capture becomes a piece when the group is closed. -/
theorem read?_closed {q : Reader} (hopened : q.opened = (s.openGroup s.flags none).opened)
    (h : q.read? k (')' :: t) = some p) :
    ∃ m depth, ∃ q' : Reader, q'.read? m t = some p ∧ q'.flags = s.flags ∧ q'.branches = s.branches ∧
      q'.pieces = ⟨q.body.expr, depth, false⟩ :: s.pieces ∧ q'.names = q.names := by
  obtain ⟨m, x, hx, h⟩ := exists_of_read?_cons (EndsBranch.paren.skip _ _) h
  obtain ⟨q', hclosed, rfl⟩ := Option.map_eq_some_iff.1 hx
  unfold closeGroup? at hclosed
  rw [hopened] at hclosed
  obtain rfl := Option.some.inj hclosed
  exact ⟨m, _, _, h, rfl, rfl, rfl, rfl⟩

end Reader

/-! ## The edges -/

/-- The edge of a word that a rule asks for on both sides, if it asks for one. -/
def edge? (f : Flags) (nonword : Bool) : Option Assertion :=
  if nonword then none else some (.word .boundary !f.unicode)

/-- What the edges of a word are read to. -/
def edges (f : Flags) (nonword : Bool) : List Expr := (edge? f nonword).toList.map .assert

/-- What stands after the group. -/
def edgeText (nonword : Bool) : List Char := if nonword then [] else ['\\', 'b']

theorem newline_not_mem_edgeText (nonword : Bool) : '\n' ∉ edgeText nonword := by
  cases nonword <;> decide

namespace Reader

variable {f : Flags} {s p : Reader} {k : Nat} {nonword : Bool}

/-- Reading alternatives of a rule comes to their group. -/
theorem exists_of_wrap (hf : f.verbose = false) (hs : s.Bare f) {alternatives : String}
    (h : s.read? k (Rule.wrap alternatives nonword).toList = some p) :
    ∃ m, ∃ q : Reader, q.Bare f ∧ q.pieces.reverse.map (·.expr) = s.pieces.reverse.map (·.expr) ++ edges f nonword ∧
      q.read? m ('(' :: '?' :: ':' :: (alternatives.toList ++ ')' :: edgeText nonword)) = some p := by
  cases nonword with
  | true =>
    have hopen : "(?:".toList = ['(', '?', ':'] := by decide
    have hclose : ")".toList = [')'] := by decide
    rw [Rule.wrap, if_pos rfl, String.toList_append, String.toList_append, hopen, hclose] at h
    exact ⟨k, s, hs, (List.append_nil _).symm, h⟩
  | false =>
    rw [toList_wrap] at h
    obtain ⟨m, x, hx, h⟩ := exists_of_read?_next (by rw [hs.flags, hf]) h
    obtain rfl := Option.some.inj (hx.symm.trans (step?_backslash s _))
    refine ⟨m, _, hs.push (e := .assert (.word .boundary !s.flags.unicode)) rfl 0, ?_, h⟩
    simp [push, edges, edge?, hs.flags]

/-- After the group the pattern is what has been read between the edges. -/
theorem body_of_read?_edgeText (hf : f.verbose = false) (hs : s.flags = f) (hbranches : s.branches = [])
    (h : s.read? k (edgeText nonword) = some p) :
    p.body.expr = .sequence (s.pieces.reverse.map (·.expr) ++ edges f nonword) ∧ p.names = s.names := by
  have hend : ∀ {q : Reader} {m : Nat}, q.flags.verbose = false → q.read? m [] = some p → p = q := by
    intro q m hq h
    rcases read?_cases h with ⟨-, -, heq⟩ | ⟨_, _, _, _, -, hskip, -⟩
    · exact heq
    · rw [skip_of_not_verbose hq] at hskip
      cases hskip
  have hbody : p.branches = [] → p.body.expr = .sequence (p.pieces.reverse.map (·.expr)) := by
    intro hbranches
    rw [body_expr, hbranches, ← branch_expr]
    rfl
  cases nonword with
  | true =>
    obtain rfl := hend (by rw [hs, hf]) h
    rw [hbody hbranches]
    simp [edges, edge?]
  | false =>
    obtain ⟨m, x, hx, h⟩ := exists_of_read?_next (by rw [hs, hf]) h
    obtain rfl := Option.some.inj (hx.symm.trans (step?_backslash s _))
    obtain rfl := hend (q := s.push (.assert (.word .boundary !s.flags.unicode)) 0)
      (show s.flags.verbose = false by rw [hs, hf]) h
    rw [hbody hbranches]
    simp [push, edges, edge?, hs]

end Reader

end Pattern

/-! ## The switch -/

namespace Definition

open Pattern

/-- The flags that the alternatives of a rule are read under. -/
def flags (d : Definition) : Flags := { Flags.initial with ignoreCase := d.ignoreCase }

/-- After the switch nothing has been read but it. -/
theorem exists_bare {d : Definition} {cs : List Char} {k : Nat} {p : Reader}
    (h : Reader.initial.read? k (d.switch.toList ++ cs) = some p) :
    ∃ m, ∃ s : Reader, s.Bare d.flags ∧ (∀ x ∈ s.pieces, x.expr = .empty) ∧ s.read? m cs = some p := by
  by_cases hcase : d.ignoreCase = true
  · have hswitch : d.switch.toList = ['(', '?', 'i', ')'] := by
      rw [switch, if_pos hcase]
      decide
    rw [hswitch] at h
    obtain ⟨m, x, hx, h⟩ := Reader.exists_of_read?_next rfl h
    obtain rfl := Option.some.inj hx
    refine ⟨m, _, ⟨?_, fun x hx => ?_, rfl, rfl, rfl⟩, fun x hx => ?_, h⟩
    · rw [flags, hcase]
      rfl
    · obtain rfl := List.mem_singleton.1 hx
      rfl
    · obtain rfl := List.mem_singleton.1 hx
      rfl
  · have hswitch : d.switch.toList = [] := by
      rw [switch, if_neg hcase]
      rfl
    rw [hswitch] at h
    refine ⟨k, .initial, ⟨?_, fun _ hx => absurd hx List.not_mem_nil, rfl, rfl, rfl⟩,
      fun _ hx => absurd hx List.not_mem_nil, h⟩
    rw [flags, Bool.eq_false_iff.2 hcase]
    rfl

end Definition

end ProseLint
