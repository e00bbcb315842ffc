/-
Reading a part of a pattern inside a group. A pattern that can be read alone is read the same between
parentheses, and between bars in them, with the indices of its groups shifted, unless its last remark takes
what ends it (`Reader.read?_inside`).
-/
import ProseLint.Proofs.Pattern.Mapping
import ProseLint.Proofs.Pattern.Scanning

namespace ProseLint.Pattern

/-- What is open around a part of a pattern: at least one group, in which branches may come before the part. -/
structure Outside where
  before : List Piece
  group : Opened
  around : List Opened
  groups : Nat
  names : List (Nat × String)

/-- The index that a group has inside. -/
def Outside.shift (o : Outside) (i : Nat) : Nat := o.groups + i

/-- Groups that are open in a part of a pattern, before which branches come. -/
def Opened.behind (before : List Piece) : List Opened → List Opened
  | [] => []
  | [g] => [{ g with branches := g.branches ++ before }]
  | g :: gs => g :: behind before gs

namespace Reader

/-- A reader with something around what it reads. The branches before it stay where it started. -/
def inside (o : Outside) (r : Reader) : Reader where
  flags := r.flags
  pieces := r.pieces.map (·.map id o.shift)
  branches :=
    match r.opened with
    | [] => r.branches.map (·.map id o.shift) ++ o.before
    | _ :: _ => r.branches.map (·.map id o.shift)
  opened := Opened.behind o.before (r.opened.map (·.map id o.shift)) ++ o.group :: o.around
  groups := o.groups + r.groups
  names := r.names.map (fun n => (o.shift n.1, n.2)) ++ o.names

variable {r q : Reader} (o : Outside)

theorem flags_inside : (r.inside o).flags = r.flags := rfl

theorem inside_push {e : Expr} (he : e.map id o.shift = e) (depth : Nat) :
    (r.push e depth).inside o = (r.inside o).push e depth := by
  rw [inside, push, List.map_cons, Piece.map, he]
  rfl

theorem inside_pushAtom (a : Atom) : (r.pushAtom a).inside o = (r.inside o).pushAtom a := by
  cases a with
  | char c => exact inside_push o rfl 0
  | set s => exact inside_push o rfl 0
  | assert a => exact inside_push o rfl 0

theorem branch_inside : (r.inside o).branch = r.branch.map id o.shift := branch_map rfl

/-- In a group inside a part nothing comes before what is read. -/
theorem body_inside (h : r.opened ≠ []) : (r.inside o).body = r.body.map id o.shift := by
  refine body_map rfl ?_
  obtain ⟨g, opened, hopened⟩ := List.exists_cons_of_ne_nil h
  rw [inside, hopened]

theorem inside_nextBranch : r.nextBranch.inside o = (r.inside o).nextBranch := by
  unfold nextBranch
  rw [branch_inside]
  unfold inside
  cases r.opened <;> rfl

theorem inside_openGroup (f : Flags) (index : Option Nat) :
    (r.openGroup f index).inside o = (r.inside o).openGroup f (index.map o.shift) := by
  unfold openGroup inside
  cases r.opened <;> cases index <;> rfl

theorem closeGroup?_inside (h : r.closeGroup? = some q) : (r.inside o).closeGroup? = some (q.inside o) := by
  unfold closeGroup? at h
  cases hopened : r.opened with
  | nil =>
    rw [hopened] at h
    cases h
  | cons g opened =>
    rw [hopened] at h
    obtain rfl := Option.some.inj h
    obtain ⟨flags, pieces, branches, index⟩ := g
    unfold closeGroup?
    rw [body_inside o (by simp [hopened])]
    unfold inside
    rw [hopened]
    cases opened <;> cases index <;> rfl

theorem repeat?_inside {least : Nat} {most : Option Nat} {lazy : Bool} (h : r.repeat? least most lazy = some q) :
    (r.inside o).repeat? least most lazy = some (q.inside o) := by
  unfold repeat? at h
  cases hpieces : r.pieces with
  | nil =>
    rw [hpieces] at h
    cases h
  | cons p ps =>
    rw [hpieces] at h
    have hpieces' : (r.inside o).pieces = p.map id o.shift :: ps.map (·.map id o.shift) := by
      rw [inside, hpieces]
      rfl
    by_cases hswitch : p.isSwitch = true
    · simp only [hswitch, ↓reduceIte] at h
      cases h
    · simp only [hswitch, Bool.false_eq_true, ↓reduceIte, Option.some.injEq] at h
      subst h
      unfold repeat?
      rw [hpieces']
      simp only [Piece.map, hswitch, Bool.false_eq_true, ↓reduceIte, Option.some.injEq]
      rw [Expr.repeated_map]
      rfl

/-- A name that is new may be taken outside. -/
theorem openNamed?_inside {cs rest : List Char} (h : r.openNamed? cs = some (q, rest)) (t : List Char)
    {x : Reader × List Char} (hx : (r.inside o).openNamed? (cs ++ t) = some x) : x = (q.inside o, rest ++ t) := by
  unfold openNamed? at h hx
  cases hname : cs.takeWhile (· ≠ '>') with
  | nil =>
    simp only [hname] at h
    cases h
  | cons c more =>
    cases hdrop : cs.dropWhile (· ≠ '>') with
    | nil =>
      simp only [hname, hdrop] at h
      cases h
    | cons d rest' =>
      simp only [hname, hdrop] at h
      simp only [takeWhile_append_of_cons hdrop, dropWhile_append_of_cons hdrop, hname] at hx
      split at h
      · obtain ⟨rfl, rfl⟩ := Prod.mk.inj (Option.some.inj h)
        split at hx
        · rw [inside_openGroup]
          exact (Option.some.inj hx).symm
        · cases hx
      · cases h

theorem openParen?_of_readLetters? {cs more rest : List Char} {f : Flags} {any colon : Bool}
    (hskip : r.flags.skip cs = '?' :: more)
    (hletters : r.flags.readLetters? [] false false more = some (f, any, colon, rest)) :
    r.openParen? cs =
      if colon then some (r.openGroup f none, rest)
      else if any then some ({ r with flags := f, pieces := ⟨.empty, 0, true⟩ :: r.pieces }, rest)
      else none := by
  unfold openParen?
  rw [hskip]
  have hfirst : ∀ d, d ∈ ['=', '!', '<', 'P'] → ∀ ds, more ≠ d :: ds := by
    rintro d hd ds rfl
    simp only [List.mem_cons, List.not_mem_nil, or_false] at hd
    rcases hd with rfl | rfl | rfl | rfl <;> cases hletters
  split
  case h_1 heq => exact absurd (List.cons.inj heq).2 (hfirst _ (by simp) _)
  case h_2 heq => exact absurd (List.cons.inj heq).2 (hfirst _ (by simp) _)
  case h_3 heq => exact absurd (List.cons.inj heq).2 (hfirst _ (by simp) _)
  case h_4 heq => exact absurd (List.cons.inj heq).2 (hfirst _ (by simp) _)
  case h_5 heq => exact absurd (List.cons.inj heq).2 (hfirst _ (by simp) _)
  case h_6 heq => exact absurd (List.cons.inj heq).2 (hfirst _ (by simp) _)
  case h_7 heq =>
    obtain rfl := (List.cons.inj heq).2
    rw [hletters]
    cases colon <;> cases any <;> rfl
  case h_8 hno => exact absurd rfl (hno more)

theorem openParen?_of_ne {c : Char} {cs more : List Char} (hskip : r.flags.skip cs = c :: more) (hc : c ≠ '?') :
    r.openParen? cs = some (r.openGroup r.flags (some (r.groups + 1)), c :: more) := by
  unfold openParen?
  rw [hskip]
  split
  case h_8 => rfl
  all_goals
    rename_i heq
    exact absurd (List.cons.inj heq).1 hc

theorem openParen?_of_angle {cs : List Char} {c : Char} {more : List Char}
    (hskip : r.flags.skip cs = '?' :: '<' :: c :: more) (hequals : c ≠ '=') (hbang : c ≠ '!') :
    r.openParen? cs = r.openNamed? (c :: more) := by
  unfold openParen?
  rw [hskip]
  split
  case h_3 heq => exact absurd (List.cons.inj (List.cons.inj (List.cons.inj heq).2).2).1 hequals
  case h_4 heq => exact absurd (List.cons.inj (List.cons.inj (List.cons.inj heq).2).2).1 hbang
  case h_6 heq => rw [(List.cons.inj (List.cons.inj heq).2).2]
  case h_7 hangle heq => exact absurd (List.cons.inj heq).2.symm (hangle _)
  case h_8 hno => exact absurd rfl (hno _)
  all_goals
    rename_i heq
    exact absurd (List.cons.inj (List.cons.inj heq).2).1 (by decide)

/-- Inside, a step that is taken leads where it leads alone. -/
def SameInside (step : Outside → List Char → Option (Reader × List Char)) (q : Reader) (rest : List Char) : Prop :=
  ∀ o z t x, EndsBranch z → step o (z :: t) = some x → x = (q.inside o, rest ++ z :: t)

/-- Inside, a step that is taken takes the rest of the line as a remark, and the groups around stay open. -/
def Swallowed (step : Outside → List Char → Option (Reader × List Char)) : Prop :=
  ∀ o z t x, EndsBranch z → '\n' ∉ t → step o (z :: t) = some x → x.2 = [] ∧ x.1.opened ≠ []

theorem opened_inside_ne (o : Outside) (r : Reader) : (r.inside o).opened ≠ [] :=
  List.append_ne_nil_of_right_ne_nil _ (List.cons_ne_nil _ _)

/-! ### Opening a group -/

/-- Where nothing follows the parenthesis, it opens a group that captures, or what follows the part is a remark. -/
theorem openParen?_inside_of_end {cs rest : List Char} (hskip : r.flags.skip cs = [])
    (h : r.openParen? cs = some (q, rest)) :
    SameInside (fun o t => (r.inside o).openParen? (cs ++ t)) q rest ∨
      Swallowed fun o t => (r.inside o).openParen? (cs ++ t) := by
  unfold openParen? at h
  rw [hskip] at h
  obtain ⟨rfl, rfl⟩ := Prod.mk.inj (Option.some.inj h)
  rcases skip_eq_nil hskip with hend | hremark
  · refine .inl fun o z t x hz (hx : (r.inside o).openParen? (cs ++ z :: t) = some x) => ?_
    rw [openParen?_of_ne (r := r.inside o) ((flags_inside o).symm ▸ hend z t hz) (hz.ne (by decide))] at hx
    rw [inside_openGroup]
    exact (Option.some.inj hx).symm
  · refine .inr fun o z t x hz ht (hx : (r.inside o).openParen? (cs ++ z :: t) = some x) => ?_
    unfold openParen? at hx
    rw [flags_inside, hremark z t hz ht] at hx
    obtain rfl := Option.some.inj hx
    exact ⟨rfl, List.cons_ne_nil _ _⟩

/-- Letters that switch flags do so inside as well. -/
theorem openParen?_inside_of_letters {cs more rest : List Char} (hskip : r.flags.skip cs = '?' :: more)
    {y : Flags × Bool × Bool × List Char} (hletters : r.flags.readLetters? [] false false more = some y)
    (h : r.openParen? cs = some (q, rest)) : SameInside (fun o t => (r.inside o).openParen? (cs ++ t)) q rest := by
  obtain ⟨f, any, colon, more'⟩ := y
  intro o z t x hz (hx : (r.inside o).openParen? (cs ++ z :: t) = some x)
  rw [openParen?_of_readLetters? hskip hletters] at h
  rw [openParen?_of_readLetters? (r := r.inside o) (skip_append hskip (z :: t))
    (readLetters?_append hletters (z :: t))] at hx
  cases colon with
  | true =>
    obtain ⟨rfl, rfl⟩ := Prod.mk.inj (Option.some.inj h)
    rw [inside_openGroup]
    exact (Option.some.inj hx).symm
  | false =>
    cases any with
    | true =>
      obtain ⟨rfl, rfl⟩ := Prod.mk.inj (Option.some.inj h)
      exact (Option.some.inj hx).symm
    | false => cases h

theorem openParen?_inside_of_question {cs more rest : List Char} (hskip : r.flags.skip cs = '?' :: more)
    (h : r.openParen? cs = some (q, rest)) : SameInside (fun o t => (r.inside o).openParen? (cs ++ t)) q rest := by
  have hopen := h
  unfold openParen? at h
  rw [hskip] at h
  split at h
  case h_1 | h_2 | h_3 | h_4 => cases h
  case h_5 heq =>
    obtain rfl := (List.cons.inj heq).2
    intro o z t x hz (hx : (r.inside o).openParen? (cs ++ z :: t) = some x)
    unfold openParen? at hx
    rw [flags_inside, skip_append hskip] at hx
    exact openNamed?_inside o h _ hx
  case h_6 cs' hequals hbang heq =>
    obtain rfl := (List.cons.inj heq).2
    cases cs' with
    | nil => cases h
    | cons d ds =>
      have hequals' : d ≠ '=' := fun hd => hequals ds (by rw [hd])
      have hbang' : d ≠ '!' := fun hd => hbang ds (by rw [hd])
      intro o z t x hz (hx : (r.inside o).openParen? (cs ++ z :: t) = some x)
      rw [openParen?_of_angle (r := r.inside o) (skip_append hskip (z :: t)) hequals' hbang'] at hx
      exact openNamed?_inside o h _ hx
  case h_7 more' _ _ _ _ _ _ heq =>
    obtain rfl := (List.cons.inj heq).2
    cases hletters : r.flags.readLetters? [] false false more with
    | none =>
      rw [hletters] at h
      cases h
    | some y => exact openParen?_inside_of_letters hskip hletters hopen
  case h_8 hno => exact absurd rfl (hno more)

theorem openParen?_inside {cs rest : List Char} (h : r.openParen? cs = some (q, rest)) :
    SameInside (fun o t => (r.inside o).openParen? (cs ++ t)) q rest ∨
      Swallowed fun o t => (r.inside o).openParen? (cs ++ t) := by
  cases hskip : r.flags.skip cs with
  | nil => exact openParen?_inside_of_end hskip h
  | cons c more =>
    by_cases hc : c = '?'
    · subst hc
      exact .inl (openParen?_inside_of_question hskip h)
    · refine .inl fun o z t x hz (hx : (r.inside o).openParen? (cs ++ z :: t) = some x) => ?_
      rw [openParen?_of_ne hskip hc] at h
      rw [openParen?_of_ne (r := r.inside o) (skip_append hskip (z :: t)) hc] at hx
      obtain ⟨rfl, rfl⟩ := Prod.mk.inj (Option.some.inj h)
      rw [inside_openGroup]
      exact (Option.some.inj hx).symm

/-! ### Steps -/

theorem map_repeat?_inside {least : Nat} {most : Option Nat} {lazy : Bool} {more rest : List Char}
    (h : (r.repeat? least most lazy).map (·, more) = some (q, rest)) (o : Outside) (t : List Char) :
    ((r.inside o).repeat? least most lazy).map (·, more ++ t) = some (q.inside o, rest ++ t) := by
  obtain ⟨p, hp, hpq⟩ := Option.map_eq_some_iff.1 h
  obtain ⟨rfl, rfl⟩ := Prod.mk.inj hpq
  rw [repeat?_inside o hp, Option.map_some]

theorem step?_bracket_inside {cs rest : List Char} (h : r.step? '[' cs = some (q, rest)) :
    SameInside (fun o t => (r.inside o).step? '[' (cs ++ t)) q rest := by
  rw [step?_bracket] at h
  obtain ⟨x, hx, hq⟩ := Option.map_eq_some_iff.1 h
  obtain ⟨rfl, rfl⟩ := Prod.mk.inj hq
  intro o z t y hz (hy : (r.inside o).step? '[' (cs ++ z :: t) = some y)
  rw [step?_bracket, flags_inside, readBracket?_append hx hz, Option.map_some] at hy
  exact (Option.some.inj hy).symm

theorem step?_backslash_inside {cs rest : List Char} (h : r.step? '\\' cs = some (q, rest)) :
    SameInside (fun o t => (r.inside o).step? '\\' (cs ++ t)) q rest := by
  rw [step?_backslash] at h
  obtain ⟨x, hx, hq⟩ := Option.map_eq_some_iff.1 h
  obtain ⟨rfl, rfl⟩ := Prod.mk.inj hq
  intro o z t y hz (hy : (r.inside o).step? '\\' (cs ++ z :: t) = some y)
  rw [step?_backslash, flags_inside, readEscape?_append hx hz, Option.map_some] at hy
  rw [inside_pushAtom]
  exact (Option.some.inj hy).symm

/-- A repetition that is counted looks for a question mark after its brace, and may find a remark there. -/
theorem step?_brace_inside {cs rest : List Char} (h : r.step? '\x7b' cs = some (q, rest)) :
    SameInside (fun o t => (r.inside o).step? '\x7b' (cs ++ t)) q rest ∨
      Swallowed fun o t => (r.inside o).step? '\x7b' (cs ++ t) := by
  rw [step?_brace] at h
  obtain ⟨⟨least, most, more⟩, hx, hq⟩ := Option.bind_eq_some_iff.1 h
  simp only at hq
  have hinside : ∀ o t, (r.inside o).step? '\x7b' (cs ++ t) =
      ((r.inside o).repeat? least most (takeLazy (r.flags.skip (more ++ t))).1).map
        (·, (takeLazy (r.flags.skip (more ++ t))).2) := by
    intro o t
    rw [step?_brace, flags_inside, readCounts?_append hx, Option.bind_some]
  cases hskip : r.flags.skip more with
  | cons d ds =>
    rw [hskip] at hq
    refine .inl fun o z t y hz (hy : (r.inside o).step? '\x7b' (cs ++ z :: t) = some y) => ?_
    rw [hinside, skip_append hskip, ← List.cons_append, takeLazy_append hz, map_repeat?_inside hq] at hy
    exact (Option.some.inj hy).symm
  | nil =>
    rw [hskip] at hq
    rcases skip_eq_nil hskip with hend | hremark
    · refine .inl fun o z t y hz (hy : (r.inside o).step? '\x7b' (cs ++ z :: t) = some y) => ?_
      have hnext : takeLazy (z :: t) = ((takeLazy []).1, (takeLazy []).2 ++ z :: t) := takeLazy_append hz [] t
      rw [hinside, hend z t hz, hnext, map_repeat?_inside hq] at hy
      exact (Option.some.inj hy).symm
    · refine .inr fun o z t y hz ht (hy : (r.inside o).step? '\x7b' (cs ++ z :: t) = some y) => ?_
      obtain ⟨p, hp, hpq⟩ := Option.map_eq_some_iff.1 hq
      rw [hinside, hremark z t hz ht] at hy
      obtain ⟨p', hp', rfl⟩ := Option.map_eq_some_iff.1 hy
      obtain rfl := Option.some.inj (hp'.symm.trans (repeat?_inside o hp))
      exact ⟨rfl, opened_inside_ne o p⟩

/-- A step that reads one character reads no further. -/
theorem step?_char_inside {c : Char} {cs rest : List Char} (hparen : c ≠ '(') (hbracket : c ≠ '[')
    (hbrace : c ≠ '\x7b') (hescape : c ≠ '\\') (h : r.step? c cs = some (q, rest)) :
    SameInside (fun o t => (r.inside o).step? c (cs ++ t)) q rest := by
  intro o z t y hz (hy : (r.inside o).step? c (cs ++ z :: t) = some y)
  unfold step? at h hy
  split at h
  case h_1 => exact absurd rfl hparen
  case h_2 =>
    obtain ⟨p, hp, hpq⟩ := Option.map_eq_some_iff.1 h
    obtain ⟨rfl, rfl⟩ := Prod.mk.inj hpq
    simp only [closeGroup?_inside o hp, Option.map_some, Option.some.injEq] at hy
    exact hy.symm
  case h_3 =>
    obtain ⟨rfl, rfl⟩ := Prod.mk.inj (Option.some.inj h)
    rw [inside_nextBranch]
    exact (Option.some.inj hy).symm
  case h_4 => exact absurd rfl hbracket
  case h_5 | h_6 | h_7 =>
    simp only [takeLazy_append hz] at hy
    exact Option.some.inj (hy.symm.trans (map_repeat?_inside h o (z :: t)))
  case h_8 => exact absurd rfl hbrace
  case h_9 => exact absurd rfl hescape
  case h_10 =>
    obtain ⟨s, hs, hpq⟩ := Option.map_eq_some_iff.1 h
    obtain ⟨rfl, rfl⟩ := Prod.mk.inj hpq
    simp only [flags_inside, hs, Option.map_some, Option.some.injEq] at hy
    exact hy.symm
  case h_11 | h_12 | h_13 =>
    obtain ⟨rfl, rfl⟩ := Prod.mk.inj (Option.some.inj h)
    simp only [Option.some.injEq] at hy
    exact hy.symm

/-- **A step that can be taken alone is the same step inside**, unless it takes what follows as a remark. -/
theorem step?_inside {c : Char} {cs rest : List Char} (h : r.step? c cs = some (q, rest)) :
    SameInside (fun o t => (r.inside o).step? c (cs ++ t)) q rest ∨
      Swallowed fun o t => (r.inside o).step? c (cs ++ t) := by
  by_cases hparen : c = '('
  · subst hparen
    exact openParen?_inside h
  by_cases hbracket : c = '['
  · subst hbracket
    exact .inl (step?_bracket_inside h)
  by_cases hbrace : c = '\x7b'
  · subst hbrace
    exact step?_brace_inside h
  by_cases hescape : c = '\\'
  · subst hescape
    exact .inl (step?_backslash_inside h)
  exact .inl (step?_char_inside hparen hbracket hbrace hescape h)

theorem read?_of_skip_eq {cs ds : List Char} (h : r.flags.skip cs = r.flags.skip ds) (k : Nat) :
    r.read? k cs = r.read? k ds := by
  unfold read?
  rw [h]

/-- A group that is open has to be closed. -/
theorem read?_of_opened {cs : List Char} (h : r.flags.skip cs = []) (hopened : r.opened ≠ []) (k : Nat) :
    r.read? k cs = none := by
  rw [read?_of_skip_nil h, if_neg (by simpa using hopened)]

/-- Reading a text inside a group comes to the end of the branch. -/
def Comes (r q : Reader) (cs : List Char) : Prop :=
  ∀ o z t k p, EndsBranch z → (r.inside o).read? k (cs ++ z :: t) = some p →
    ∃ k', (q.inside o).read? k' (z :: t) = some p

/-- Reading a text inside a group takes a rest of the line as a remark, and the group stays open. -/
def Remarks (r : Reader) (cs : List Char) : Prop :=
  ∀ o z t k, EndsBranch z → '\n' ∉ t → (r.inside o).read? k (cs ++ z :: t) = none

theorem comes_or_remarks_of_end {cs : List Char} (h : r.flags.skip cs = []) : r.Comes r cs ∨ r.Remarks cs := by
  rcases skip_eq_nil h with hend | hremark
  · refine .inl fun o z t k p hz hp => ⟨k, ?_⟩
    rwa [read?_of_skip_eq (r := r.inside o) ((hend z t hz).trans (hz.skip _ t).symm)] at hp
  · exact .inr fun o z t k hz ht => read?_of_opened (r := r.inside o) (hremark z t hz ht) (opened_inside_ne o r) k

/-- **A pattern that can be read alone is read the same inside a group**, or else its last remark takes the
end of the branch. -/
theorem read?_inside {n : Nat} {cs : List Char} (h : r.read? n cs = some q) : r.Comes q cs ∨ r.Remarks cs := by
  induction n generalizing r cs with
  | zero =>
    rcases read?_cases h with ⟨hskip, -, rfl⟩ | ⟨m, _, _, _, hn, -, -, -⟩
    · exact comes_or_remarks_of_end hskip
    · exact absurd hn (Nat.succ_ne_zero m).symm
  | succ n ih =>
    rcases read?_cases h with ⟨hskip, -, rfl⟩ | ⟨m, c, more, x, hn, hskip, hstep, h⟩
    · exact comes_or_remarks_of_end hskip
    · obtain rfl := Nat.succ.inj hn
      have hskip' : ∀ o t, (r.inside o).flags.skip (cs ++ t) = c :: (more ++ t) := fun _ t => skip_append hskip t
      rcases step?_inside hstep with hsame | hswallowed
      · rcases ih h with hcomes | hremarks
        · refine .inl fun o z t k p hz hp => ?_
          obtain ⟨k', x, hx, hp⟩ := exists_of_read?_cons (hskip' o (z :: t)) hp
          obtain rfl := hsame o z t x hz hx
          exact hcomes o z t k' p hz hp
        · refine .inr fun o z t k hz ht => Option.eq_none_iff_forall_ne_some.2 fun p hp => ?_
          obtain ⟨k', x, hx, hp⟩ := exists_of_read?_cons (hskip' o (z :: t)) hp
          obtain rfl := hsame o z t x hz hx
          rw [hremarks o z t k' hz ht] at hp
          cases hp
      · refine .inr fun o z t k hz ht => Option.eq_none_iff_forall_ne_some.2 fun p hp => ?_
        obtain ⟨k', x, hx, hp⟩ := exists_of_read?_cons (hskip' o (z :: t)) hp
        obtain ⟨hrest, hopened⟩ := hswallowed o z t x hz ht hx
        rw [hrest, read?_of_opened (skip_nil _) hopened k'] at hp
        cases hp

end Reader

end ProseLint.Pattern
