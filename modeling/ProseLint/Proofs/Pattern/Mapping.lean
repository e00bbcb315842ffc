/-
Expressions with other sets and other indices of groups (`Expr.map`). A reader that has read such pieces
puts them together to such an expression (`Reader.body_map`).
-/
import ProseLint.Pattern.Reader

namespace ProseLint.Pattern

variable {s : CharSet → CharSet} {g : Nat → Nat}

namespace Expr

/-- An expression has no groups. -/
def NoGroups (e : Expr) : Prop := e.groupIndices [] = []

mutual

theorem groupIndices_eq (found : List Nat) (e : Expr) : e.groupIndices found = e.groupIndices [] ++ found := by
  cases e with
  | empty | one | assert => rfl
  | group i b =>
    rw [groupIndices, groupIndices_eq (i :: found) b, groupIndices, groupIndices_eq [i] b, List.append_assoc]
    rfl
  | seq es | alt es => exact allGroupIndices_eq found es
  | rounds least most greedy b => exact groupIndices_eq found b

theorem allGroupIndices_eq (found : List Nat) (es : List Expr) :
    allGroupIndices found es = allGroupIndices [] es ++ found := by
  cases es with
  | nil => rfl
  | cons e es =>
    rw [allGroupIndices, allGroupIndices, groupIndices_eq found e, allGroupIndices_eq _ es,
      allGroupIndices_eq (e.groupIndices []) es, List.append_assoc]

end

theorem not_noGroups_group (i : Nat) (b : Expr) : ¬ (group i b).NoGroups := by
  rw [NoGroups, groupIndices, groupIndices_eq]
  simp

mutual

/-- An expression with other sets and other indices of groups. -/
def map (s : CharSet → CharSet) (g : Nat → Nat) : Expr → Expr
  | empty => empty
  | one c => one (s c)
  | assert a => assert a
  | group i b => group (g i) (b.map s g)
  | seq es => seq (mapAll s g es)
  | alt es => alt (mapAll s g es)
  | rounds least most greedy b => rounds least most greedy (b.map s g)

def mapAll (s : CharSet → CharSet) (g : Nat → Nat) : List Expr → List Expr
  | [] => []
  | e :: es => e.map s g :: mapAll s g es

end

theorem mapAll_eq (s : CharSet → CharSet) (g : Nat → Nat) (es : List Expr) :
    mapAll s g es = es.map (·.map s g) := by
  induction es with
  | nil => rfl
  | cons e es ih => rw [mapAll, ih, List.map_cons]

mutual

@[simp] theorem isVoid_map (e : Expr) : (e.map s g).isVoid = e.isVoid := by
  cases e with
  | empty | one | assert => rfl
  | group i b => exact isVoid_map b
  | seq es | alt es => exact areVoid_map es
  | rounds least most greedy b => rw [map, isVoid, isVoid, isVoid_map b]

theorem areVoid_map (es : List Expr) : areVoid (mapAll s g es) = areVoid es := by
  cases es with
  | nil => rfl
  | cons e es => rw [mapAll, areVoid, areVoid, isVoid_map e, areVoid_map es]

end

mutual

@[simp] theorem map_id (e : Expr) : e.map id id = e := by
  cases e with
  | empty | one | assert => rfl
  | group i b => rw [map, map_id b, id]
  | seq es | alt es => rw [map, mapAll_id es]
  | rounds least most greedy b => rw [map, map_id b]

theorem mapAll_id (es : List Expr) : mapAll id id es = es := by
  cases es with
  | nil => rfl
  | cons e es => rw [mapAll, map_id e, mapAll_id es]

end

mutual

/-- Without groups the indices do not matter. -/
theorem map_of_noGroups (g : Nat → Nat) (e : Expr) (h : e.NoGroups) : e.map id g = e := by
  cases e with
  | empty | one | assert => rfl
  | group i b => exact absurd h (not_noGroups_group i b)
  | seq es => rw [map, mapAll_of_noGroups g es h]
  | alt es => rw [map, mapAll_of_noGroups g es h]
  | rounds least most greedy b => rw [map, map_of_noGroups g b h]

theorem mapAll_of_noGroups (g : Nat → Nat) (es : List Expr) (h : allGroupIndices [] es = []) :
    mapAll id g es = es := by
  cases es with
  | nil => rfl
  | cons e es =>
    rw [allGroupIndices, allGroupIndices_eq, List.append_eq_nil_iff] at h
    rw [mapAll, map_of_noGroups g e h.2, mapAll_of_noGroups g es h.1]

end

mutual

theorem groupIndices_map (e : Expr) : (e.map s g).groupIndices [] = (e.groupIndices []).map g := by
  cases e with
  | empty | one | assert => rfl
  | group i b =>
    rw [map, groupIndices, groupIndices_eq, groupIndices_map b, groupIndices, groupIndices_eq [i] b, List.map_append]
    rfl
  | seq es | alt es => exact allGroupIndices_mapAll es
  | rounds least most greedy b => exact groupIndices_map b

theorem allGroupIndices_mapAll (es : List Expr) :
    allGroupIndices [] (mapAll s g es) = (allGroupIndices [] es).map g := by
  cases es with
  | nil => rfl
  | cons e es =>
    rw [mapAll, allGroupIndices, allGroupIndices_eq, allGroupIndices_mapAll es, groupIndices_map e, allGroupIndices,
      allGroupIndices_eq (e.groupIndices []) es, List.map_append]

end

theorem repeated_map (least : Nat) (most : Option Nat) (greedy : Bool) (e : Expr) :
    (e.map s g).repeated least most greedy = (e.repeated least most greedy).map s g := by
  simp only [repeated, isVoid_map, apply_ite (map s g), map]

theorem sequence_map (es : List Expr) : sequence (es.map (·.map s g)) = (sequence es).map s g := by
  cases es with
  | nil => rfl
  | cons e es =>
    cases es with
    | nil => rfl
    | cons e' es => simp only [sequence, map, mapAll_eq, List.map_cons]

theorem choice_map (es : List Expr) : choice (es.map (·.map s g)) = (choice es).map s g := by
  cases es with
  | nil => rfl
  | cons e es =>
    cases es with
    | nil => rfl
    | cons e' es => simp only [choice, map, mapAll_eq, List.map_cons]

end Expr

/-- A piece with its expression mapped. -/
def Piece.map (s : CharSet → CharSet) (g : Nat → Nat) (p : Piece) : Piece := { p with expr := p.expr.map s g }

/-- An open group with its pieces mapped. -/
def Opened.map (s : CharSet → CharSet) (g : Nat → Nat) (o : Opened) : Opened where
  flags := o.flags
  pieces := o.pieces.map (·.map s g)
  branches := o.branches.map (·.map s g)
  index := o.index.map g

theorem Piece.map_exprs (ps : List Piece) : (ps.map (·.map s g)).map (·.expr) = (ps.map (·.expr)).map (·.map s g) := by
  simp [Piece.map]

theorem Piece.foldl_depth_map (ps : List Piece) (n : Nat) :
    (ps.map (·.map s g)).foldl (fun d p => max d p.depth) n = ps.foldl (fun d p => max d p.depth) n := by
  rw [List.foldl_map]
  rfl

namespace Reader

variable {r q : Reader}

theorem branch_map (h : q.pieces = r.pieces.map (·.map s g)) : q.branch = r.branch.map s g := by
  unfold branch
  rw [h]
  cases r.pieces with
  | nil => rfl
  | cons p ps =>
    cases ps with
    | nil => rfl
    | cons p' ps =>
      simp only [List.map_cons]
      rw [← List.map_cons, ← List.map_cons, ← List.map_reverse, Piece.map_exprs, Piece.foldl_depth_map,
        Expr.sequence_map]
      rfl

theorem body_map (h : q.pieces = r.pieces.map (·.map s g)) (hb : q.branches = r.branches.map (·.map s g)) :
    q.body = r.body.map s g := by
  unfold body
  rw [hb, branch_map h]
  cases r.branches with
  | nil => rfl
  | cons p ps =>
    simp only [List.map_cons]
    rw [← List.map_cons, ← List.map_cons, ← List.map_reverse, Piece.map_exprs, Piece.foldl_depth_map,
      Expr.choice_map]
    rfl

/-! ## What has been read -/

theorem branch_expr (r : Reader) : r.branch.expr = Expr.sequence (r.pieces.reverse.map (·.expr)) := by
  unfold branch
  split
  · rename_i h
    rw [h]
    rfl
  · rename_i h
    rw [h]
    rfl
  · rfl

theorem body_expr (r : Reader) : r.body.expr = Expr.choice ((r.branch :: r.branches).reverse.map (·.expr)) := by
  unfold body
  split
  · rename_i h
    rw [h]
    rfl
  · rfl

/-! ## Steps of a reader -/

/-- Adds what an escape stands for. -/
def pushAtom (r : Reader) : Atom → Reader
  | .char c => r.push (.one (literal r.flags c)) 0
  | .set s => r.push (.one s) 0
  | .assert a => r.push (.assert a) 0

theorem step?_bracket (r : Reader) (cs : List Char) :
    r.step? '[' cs = (readBracket? r.flags cs).map fun x => (r.push (.one x.1) x.2.1, x.2.2) := rfl

theorem step?_brace (r : Reader) (cs : List Char) : r.step? '\x7b' cs = (readCounts? r.flags cs).bind fun x =>
    (r.repeat? x.1 x.2.1 (takeLazy (r.flags.skip x.2.2)).1).map (·, (takeLazy (r.flags.skip x.2.2)).2) := by
  change (readCounts? r.flags cs).bind _ = _
  refine Option.bind_congr fun x _ => ?_
  change (r.repeat? x.1 x.2.1 (takeLazy (r.flags.skip x.2.2)).1).bind _ = _
  rw [Option.map_eq_bind]
  rfl

theorem step?_backslash (r : Reader) (cs : List Char) :
    r.step? '\\' cs = (readEscape? r.flags cs).map fun x => (r.pushAtom x.1, x.2) := by
  change (readEscape? r.flags cs).bind _ = _
  rw [Option.map_eq_bind]
  refine Option.bind_congr fun x _ => ?_
  obtain ⟨_ | _ | _, _⟩ := x <;> rfl

theorem read?_of_skip_nil {cs : List Char} (h : r.flags.skip cs = []) (n : Nat) :
    r.read? n cs = if r.opened.isEmpty then some r else none := by
  unfold read?
  rw [h]

theorem read?_zero_of_skip_cons {c : Char} {cs more : List Char} (h : r.flags.skip cs = c :: more) :
    r.read? 0 cs = none := by
  unfold read?
  rw [h]

theorem read?_succ_of_skip_cons {c : Char} {cs more : List Char} (h : r.flags.skip cs = c :: more) (n : Nat) :
    r.read? (n + 1) cs = (r.step? c more).bind fun x => x.1.read? n x.2 := by
  rw [read?, h]
  simp only
  cases r.step? c more <;> rfl

/-- What has been read to the end was at the end, or took a step before. -/
theorem read?_cases {n : Nat} {cs : List Char} (h : r.read? n cs = some q) :
    (r.flags.skip cs = [] ∧ r.opened = [] ∧ q = r) ∨
      ∃ m c more x, n = m + 1 ∧ r.flags.skip cs = c :: more ∧ r.step? c more = some x ∧ x.1.read? m x.2 = some q := by
  cases hskip : r.flags.skip cs with
  | nil =>
    rw [read?_of_skip_nil hskip] at h
    split at h
    · rename_i hopened
      exact .inl ⟨rfl, List.isEmpty_iff.1 hopened, (Option.some.inj h).symm⟩
    · cases h
  | cons c more =>
    cases n with
    | zero =>
      rw [read?_zero_of_skip_cons hskip] at h
      cases h
    | succ m =>
      rw [read?_succ_of_skip_cons hskip] at h
      obtain ⟨x, hx, h⟩ := Option.bind_eq_some_iff.1 h
      exact .inr ⟨m, c, more, x, rfl, rfl, hx, h⟩

theorem exists_of_read?_cons {c : Char} {cs more : List Char} {n : Nat} (hskip : r.flags.skip cs = c :: more)
    (h : r.read? n cs = some q) : ∃ m x, r.step? c more = some x ∧ x.1.read? m x.2 = some q := by
  rcases read?_cases h with ⟨hnil, -, -⟩ | ⟨m, d, more', x, -, hskip', hx, h⟩
  · rw [hskip] at hnil
    cases hnil
  · obtain ⟨rfl, rfl⟩ := List.cons.inj (hskip.symm.trans hskip')
    exact ⟨m, x, hx, h⟩

theorem opened_of_read? {n : Nat} {cs : List Char} (h : r.read? n cs = some q) : q.opened = [] := by
  induction n generalizing r cs with
  | zero =>
    rcases read?_cases h with ⟨-, hopened, rfl⟩ | ⟨m, _, _, _, hn, -, -, -⟩
    · exact hopened
    · exact absurd hn (Nat.succ_ne_zero m).symm
  | succ n ih =>
    rcases read?_cases h with ⟨-, hopened, rfl⟩ | ⟨m, _, _, x, hn, -, -, h⟩
    · exact hopened
    · obtain rfl := Nat.succ.inj hn
      exact ih h

end Reader

end ProseLint.Pattern
