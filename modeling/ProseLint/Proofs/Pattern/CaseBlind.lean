/-
Reading without regard to case. Which flags a pattern is read under decides what its sets hold; whether
case is ignored decides nothing else: what is read, how it is put together and what is left over are the
same (`Reader.step?_plain`, `Reader.read?_plain`).
-/
import ProseLint.Proofs.Pattern.Mapping
import ProseLint.Proofs.Pattern.Scanning

namespace ProseLint.Pattern

variable {f : Flags} {cs : List Char}

/-- Flags under which case counts. -/
def Flags.plain (f : Flags) : Flags := { f with ignoreCase := false }

/-- What is left of an atom when it does not matter which characters a set holds. -/
def Atom.plain : Atom → Atom
  | char c => .char c
  | set _ => .set .empty
  | assert a => .assert a

/-! ## Escapes -/

theorem readHexDigits?_plain (f : Flags) (n : Nat) (cs : List Char) :
    readHexDigits? f.plain n cs = readHexDigits? f n cs := by
  induction n generalizing cs with
  | zero => rfl
  | succ n ih =>
    rw [readHexDigits?, readHexDigits?, show f.plain.skip cs = f.skip cs from rfl]
    simp only [ih]

theorem readCodePoint?_plain (f : Flags) (n : Nat) (cs : List Char) :
    readCodePoint? f.plain n cs = readCodePoint? f n cs := by
  unfold readCodePoint?
  rw [show f.plain.skip cs = f.skip cs from rfl]
  simp only [readHexDigits?_plain]
  rfl

theorem negate?_isSome (f : Flags) (negated : Bool) (s s' : CharSet) :
    (f.negate? negated s).isSome = (f.negate? negated s').isSome := by
  unfold Flags.negate?
  split
  · split <;> rfl
  · rfl

theorem map_eq_of_isSome {α β γ : Type} {x : Option α} {y : Option β} (h : x.isSome = y.isSome) (c : γ) :
    x.map (fun _ => c) = y.map fun _ => c := by
  cases x <;> cases y <;> simp_all

theorem propertySet?_plain (f : Flags) (negated : Bool) (word : List Char) :
    (propertySet? f.plain negated word).isSome = (propertySet? f negated word).isSome := by
  unfold propertySet?
  cases propertyTables? word with
  | none => rfl
  | some x => exact negate?_isSome f _ _ _

theorem readProperty?_plain (f : Flags) (negated : Bool) (cs : List Char) :
    (readProperty? f.plain negated cs).map (·.2) = (readProperty? f negated cs).map (·.2) := by
  rw [readProperty?_eq, readProperty?_eq, show f.plain.unicode = f.unicode from rfl,
    show readWord? f.plain cs = readWord? f cs from rfl]
  split
  · rfl
  · rw [Option.map_bind, Option.map_bind]
    refine Option.bind_congr fun w _ => ?_
    rw [Function.comp_apply, Function.comp_apply, Option.map_map, Option.map_map]
    exact map_eq_of_isSome (propertySet?_plain f negated w.1) w.2

/-- An atom without its set, and what is left over. -/
def Atom.strip (x : Atom × List Char) : Atom × List Char := (x.1.plain, x.2)

theorem readProperty?_strip (f : Flags) (negated : Bool) (cs : List Char) :
    ((readProperty? f.plain negated cs).map fun x => (Atom.set x.1, x.2)).map Atom.strip =
      ((readProperty? f negated cs).map fun x => (Atom.set x.1, x.2)).map Atom.strip := by
  have h := congrArg (Option.map fun rest => (Atom.set .empty, rest)) (readProperty?_plain f negated cs)
  rw [Option.map_map, Option.map_map] at h ⊢
  exact h

/-- Which escape is read does not depend on case. -/
theorem readEscape?_plain (f : Flags) (cs : List Char) :
    (readEscape? f.plain cs).map Atom.strip = (readEscape? f cs).map Atom.strip := by
  cases cs with
  | nil => rfl
  | cons c cs =>
    unfold readEscape?
    simp only
    split
    case h_1 | h_2 | h_3 => rw [readCodePoint?_plain]
    case h_4 => exact readProperty?_strip f false cs
    case h_5 => exact readProperty?_strip f true cs
    all_goals rfl

/-! ## Sets in brackets -/

theorem readAtom?_plain (f : Flags) (c : Char) (cs : List Char) :
    (readAtom? f.plain c cs).map Atom.strip = (readAtom? f c cs).map Atom.strip := by
  unfold readAtom?
  split
  · exact readEscape?_plain f cs
  · rfl

theorem fitsSet_plain (f : Flags) (a : Atom) : a.plain.fitsSet f.plain = a.fitsSet f := by cases a <;> rfl

theorem readMember?_plain (f : Flags) (cs : List Char) :
    (readMember? f.plain cs).map Atom.strip = (readMember? f cs).map Atom.strip := by
  have hfilter : ∀ (f : Flags) (o : Option (Atom × List Char)),
      (o.filter (·.1.fitsSet f)).map Atom.strip = (o.map Atom.strip).filter (·.1.fitsSet f.plain) := by
    intro f o
    rw [Option.filter_map]
    congr 2
    funext x
    exact (fitsSet_plain f x.1).symm
  cases cs with
  | nil => rfl
  | cons c cs =>
    rw [readMember?_eq, readMember?_eq, hfilter, hfilter, readAtom?_plain]
    rfl

theorem isSome_alone?_plain (a : Atom) : a.plain.alone?.isSome = a.alone?.isSome := by cases a <;> rfl

theorem range?_plain (a b : Atom) : a.plain.range? b.plain = a.range? b := by cases a <;> cases b <;> rfl

/-- What follows the first atom of a member does not depend on the set that the atom holds. -/
theorem readRangeEnd?_plain (f : Flags) (a : Atom) (cs : List Char) :
    (readRangeEnd? f.plain a.plain cs).map (·.2) = (readRangeEnd? f a cs).map (·.2) := by
  have halone : ∀ rest : List Char, (a.plain.alone?.map (·, rest)).map (·.2) = (a.alone?.map (·, rest)).map (·.2) := by
    intro rest
    rw [Option.map_map, Option.map_map]
    exact map_eq_of_isSome (isSome_alone?_plain a) rest
  unfold readRangeEnd?
  split
  · rfl
  · rename_i more
    rw [show f.plain.peek more = f.peek more from rfl, show f.plain.skip more = f.skip more from rfl]
    split
    · exact halone _
    · have h := readMember?_plain f (f.skip more)
      have hend : ∀ (g : Flags) (b : Atom), (((readMember? g (f.skip more)).bind fun x =>
          (b.range? x.1).map (·, x.2))).map (·.2) =
          (((readMember? g (f.skip more)).map Atom.strip).bind fun x => (b.plain.range? x.1).map (·, x.2)).map (·.2) := by
        intro g b
        rw [Option.bind_map]
        simp only [Function.comp_def, Atom.strip, range?_plain]
      rw [hend, hend, h]
      cases a <;> rfl
  · exact halone _

theorem readRange?_plain (f : Flags) (cs : List Char) :
    (readRange? f.plain cs).map (·.2) = (readRange? f cs).map (·.2) := by
  rw [readRange?_eq, readRange?_eq]
  have hend : ∀ g : Flags, ((readMember? g cs).bind fun x => readRangeEnd? g x.1 (g.skip x.2)).map (·.2) =
      ((readMember? g cs).map Atom.strip).bind fun x => (readRangeEnd? g.plain x.1 (g.skip x.2)).map (·.2) := by
    intro g
    rw [Option.bind_map, Option.map_bind]
    refine Option.bind_congr fun x _ => ?_
    exact (readRangeEnd?_plain g x.1 _).symm
  rw [hend, hend, readMember?_plain]
  rfl

theorem readNamedClass?_plain (f : Flags) (cs : List Char) :
    (readNamedClass? f.plain cs).map (fun x => (x.1.isSome, x.2)) =
      (readNamedClass? f cs).map fun x => (x.1.isSome, x.2) := by
  have hname : ∀ negated ds, (readClassName? f.plain negated ds).map (fun x => (x.1.isSome, x.2)) =
      (readClassName? f negated ds).map fun x => (x.1.isSome, x.2) := by
    intro negated ds
    unfold readClassName?
    split
    · rw [Option.map_map, Option.map_map]
      congr 1
      funext s
      exact Prod.ext (negate?_isSome f _ _ _) rfl
    · rfl
  cases cs with
  | nil => rfl
  | cons c cs =>
    by_cases hc : c = ':'
    · subst hc
      rw [readNamedClass?_colon, readNamedClass?_colon]
      split
      · exact hname true cs.tail
      · exact hname false cs
    · rw [readNamedClass?_of_ne hc, readNamedClass?_of_ne hc]

/-- Members without their set. -/
def Members.plain (m : Members) : Members := { m with set := .empty }

/-- What is pending, without sets. -/
def Pending.plain : Pending → Pending
  | bracket negated outer => .bracket negated outer.plain
  | operand op _ depth => .operand op .empty depth

theorem Members.plain_add {m m' : Members} (h : m.plain = m'.plain) (s s' : CharSet) (depth : Nat) :
    (m.add s depth).plain = (m'.add s' depth).plain := by
  have hcount : m.count = m'.count := show m.plain.count = m'.plain.count by rw [h]
  have hdepth : m.depth = m'.depth := show m.plain.depth = m'.plain.depth by rw [h]
  simp [add, plain, hcount, hdepth]

theorem Members.depthOf_plain {m m' : Members} (h : m.plain = m'.plain) : m.depthOf = m'.depthOf := by
  have hcount : m.count = m'.count := show m.plain.count = m'.plain.count by rw [h]
  have hdepth : m.depth = m'.depth := show m.plain.depth = m'.plain.depth by rw [h]
  simp [depthOf, hcount, hdepth]

theorem closeOperand_plain (f f' : Flags) {m m' : Members} (hm : m.plain = m'.plain) {ps ps' : List Pending}
    (hps : ps.map Pending.plain = ps'.map Pending.plain) :
    (closeOperand f m ps).2.1 = (closeOperand f' m' ps').2.1 ∧
      (closeOperand f m ps).2.2.map Pending.plain = (closeOperand f' m' ps').2.2.map Pending.plain := by
  have hdepth := Members.depthOf_plain hm
  cases ps with
  | nil =>
    obtain rfl : ps' = [] := List.map_eq_nil_iff.1 hps.symm
    exact ⟨hdepth, rfl⟩
  | cons q qs =>
    cases ps' with
    | nil => cases hps
    | cons q' qs' =>
      obtain ⟨hq, hqs⟩ := List.cons.inj hps
      cases q with
      | bracket negated outer =>
        cases q' with
        | bracket negated' outer' => exact ⟨hdepth, hps⟩
        | operand => cases hq
      | operand op left depth =>
        cases q' with
        | bracket => cases hq
        | operand op' left' depth' =>
          obtain ⟨-, -, rfl⟩ := Pending.operand.inj hq
          exact ⟨by simp only [closeOperand, hdepth], hqs⟩

theorem cases_of_map_snd {α β : Type} {x y : Option (α × β)} (h : x.map (·.2) = y.map (·.2)) :
    x = none ∧ y = none ∨ ∃ a a' b, x = some (a, b) ∧ y = some (a', b) := by
  cases x with
  | none =>
    cases y with
    | none => exact .inl ⟨rfl, rfl⟩
    | some => cases h
  | some p =>
    cases y with
    | none => cases h
    | some q =>
      obtain ⟨a, b⟩ := p
      obtain ⟨a', b'⟩ := q
      obtain rfl : b = b' := Option.some.inj h
      exact .inr ⟨a, a', b, rfl, rfl⟩

theorem cases_of_isSome {α β : Type} {x : Option α} {y : Option β} (h : x.isSome = y.isSome) :
    x = none ∧ y = none ∨ ∃ a b, x = some a ∧ y = some b := by
  cases x with
  | none =>
    cases y with
    | none => exact .inl ⟨rfl, rfl⟩
    | some => cases h
  | some a =>
    cases y with
    | none => cases h
    | some b => exact .inr ⟨a, b, rfl, rfl⟩

/-- A named class is read of a text with cases and without, and both times there is a set or none. -/
theorem cases_of_readNamedClass? (f : Flags) (cs : List Char) :
    (readNamedClass? f.plain cs = none ∧ readNamedClass? f cs = none) ∨
      ∃ s s' more, readNamedClass? f.plain cs = some (s, more) ∧ readNamedClass? f cs = some (s', more) ∧
        s.isSome = s'.isSome := by
  have hclass := readNamedClass?_plain f cs
  cases hc : readNamedClass? f.plain cs with
  | none =>
    rw [hc] at hclass
    exact .inl ⟨rfl, Option.map_eq_none_iff.1 hclass.symm⟩
  | some y =>
    rw [hc] at hclass
    obtain ⟨y', hc', heq⟩ := Option.map_eq_some_iff.1 hclass.symm
    obtain ⟨hsome, hmore⟩ := Prod.mk.inj heq
    exact .inr ⟨y.1, y'.1, y.2, rfl, hc'.trans (congrArg some (Prod.ext rfl hmore)), hsome.symm⟩

/-- What comes first of what is pending is a bracket both times or neither time. -/
theorem cases_of_pending {ps ps' : List Pending} (h : ps.map Pending.plain = ps'.map Pending.plain) :
    (∃ negated outer outer' qs qs', ps = .bracket negated outer :: qs ∧ ps' = .bracket negated outer' :: qs' ∧
        outer.plain = outer'.plain ∧ qs.map Pending.plain = qs'.map Pending.plain) ∨
      (∀ negated outer qs, ps ≠ .bracket negated outer :: qs) ∧
        ∀ negated outer qs, ps' ≠ .bracket negated outer :: qs := by
  cases ps with
  | nil =>
    obtain rfl : ps' = [] := List.map_eq_nil_iff.1 h.symm
    exact .inr ⟨nofun, nofun⟩
  | cons q qs =>
    cases ps' with
    | nil => cases h
    | cons q' qs' =>
      obtain ⟨hq, hqs⟩ := List.cons.inj h
      cases q with
      | operand =>
        cases q' with
        | operand => exact .inr ⟨nofun, nofun⟩
        | bracket => cases hq
      | bracket negated outer =>
        cases q' with
        | operand => cases hq
        | bracket negated' outer' =>
          obtain ⟨rfl, houter⟩ := Pending.bracket.inj hq
          exact .inl ⟨negated, outer, outer', qs, qs', rfl, rfl, houter, hqs⟩

/-- How deep members are nested and where they end does not depend on case. -/
theorem readMembers?_plain (f : Flags) {steps : Nat} {ps ps' : List Pending} {m m' : Members}
    (hm : m.plain = m'.plain) (hps : ps.map Pending.plain = ps'.map Pending.plain) (cs : List Char) :
    (readMembers? f.plain steps ps m cs).map (·.2) = (readMembers? f steps ps' m' cs).map (·.2) := by
  induction steps generalizing ps ps' m m' cs with
  | zero => rfl
  | succ steps ih =>
    obtain ⟨hdepth, hpending⟩ := closeOperand_plain f.plain f hm hps
    have operate : ∀ (op : SetOp) (rest : List Char),
        (readMembers? f.plain steps (.operand op (closeOperand f.plain m ps).1 (closeOperand f.plain m ps).2.1 ::
          (closeOperand f.plain m ps).2.2) .none rest).map (·.2) =
        (readMembers? f steps (.operand op (closeOperand f m' ps').1 (closeOperand f m' ps').2.1 ::
          (closeOperand f m' ps').2.2) .none rest).map (·.2) := by
      intro op rest
      refine ih rfl ?_ rest
      rw [List.map_cons, List.map_cons, hpending, Pending.plain, Pending.plain, hdepth]
    unfold readMembers?
    simp only [Option.bind_eq_bind]
    rw [show f.plain.skip cs = f.skip cs from rfl]
    generalize f.skip cs = x
    split
    case h_1 => rfl
    case h_2 rest =>
      rcases cases_of_readNamedClass? f rest with ⟨hc, hc'⟩ | ⟨s, s', more, hc, hc', hsome⟩
      · have hopen : openBracket f.plain rest = openBracket f rest := rfl
        simp only [hc, hc', hopen]
        refine ih rfl ?_ _
        rw [List.map_cons, List.map_cons, hps, Pending.plain, Pending.plain, hm]
      · simp only [hc, hc']
        rcases cases_of_isSome hsome with ⟨rfl, rfl⟩ | ⟨s, s', rfl, rfl⟩
        · simp only [Option.bind_none, Option.map_none]
        · simp only [Option.bind_some]
          exact ih (Members.plain_add hm s s' 0) hps more
    case h_3 rest =>
      obtain ⟨set, depth, qs, hclose⟩ : ∃ set depth qs, closeOperand f.plain m ps = (set, depth, qs) :=
        ⟨_, _, _, rfl⟩
      obtain ⟨set', depth', qs', hclose'⟩ : ∃ set' depth' qs', closeOperand f m' ps' = (set', depth', qs') :=
        ⟨_, _, _, rfl⟩
      rw [hclose, hclose'] at hdepth hpending
      obtain rfl : depth = depth' := hdepth
      simp only [hclose, hclose']
      rcases cases_of_pending hpending with ⟨negated, outer, outer', qs, qs', rfl, rfl, houter, hqs⟩ | ⟨hq, hq'⟩
      · have hempty : qs.isEmpty = qs'.isEmpty := by
          have h := congrArg List.isEmpty hqs
          rwa [List.isEmpty_map, List.isEmpty_map] at h
        have hnegate := negate?_isSome f negated (f.plain.fold set) (f.fold set')
        simp only [show f.plain.negate? negated = f.negate? negated from rfl]
        rcases cases_of_isSome hnegate with ⟨hs, hs'⟩ | ⟨s, s', hs, hs'⟩
        · rw [hs, hs', Option.bind_none, Option.bind_none]
        · simp only [hs, hs', Option.bind_some, hempty]
          split
          · rfl
          · exact ih (Members.plain_add houter s s' _) hqs rest
      · -- Without a bracket to close there are no members.
        split
        · rename_i heq
          exact absurd (Prod.mk.inj (Prod.mk.inj heq).2).2 (hq _ _ _)
        · split
          · rename_i heq
            exact absurd (Prod.mk.inj (Prod.mk.inj heq).2).2 (hq' _ _ _)
          · rfl
    case h_4 rest => exact operate .inter rest
    case h_5 rest => exact operate .diff rest
    case h_6 rest => exact operate .symmDiff rest
    case h_7 hnil hbracket hclose hand hminus htilde =>
      rcases cases_of_map_snd (readRange?_plain f x) with ⟨hr, hr'⟩ | ⟨s, s', more, hr, hr'⟩
      · rw [hr, hr', Option.bind_none, Option.bind_none]
      · rw [hr, hr', Option.bind_some, Option.bind_some]
        exact ih (Members.plain_add hm s s' 0) hps more

theorem readBracket?_plain (f : Flags) (cs : List Char) :
    (readBracket? f.plain cs).map (·.2) = (readBracket? f cs).map (·.2) :=
  readMembers?_plain f rfl rfl _

/-! ## The reader -/

namespace Flags

@[simp] theorem plain_plain (f : Flags) : f.plain.plain = f.plain := rfl

theorem switch?_plain {f f' : Flags} (h : f.plain = f'.plain) (on : Bool) (c : Char) :
    (f.switch? on c).map plain = (f'.switch? on c).map plain := by
  obtain ⟨i, m, s, u, n, l, x⟩ := f
  obtain ⟨i', m', s', u', n', l', x'⟩ := f'
  simp only [plain, Flags.mk.injEq, true_and] at h
  obtain ⟨rfl, rfl, rfl, rfl, rfl, rfl⟩ := h
  unfold switch?
  split <;> rfl

/-- Which letters are read does not depend on case. -/
theorem readLetters?_plain {f f' : Flags} (h : f.plain = f'.plain) (seen : List Char) (off lone : Bool)
    (cs : List Char) : (f.readLetters? seen off lone cs).map (fun x => (x.1.plain, x.2)) =
      (f'.readLetters? seen off lone cs).map fun x => (x.1.plain, x.2) := by
  induction cs generalizing f f' seen off lone with
  | nil => rfl
  | cons c cs ih =>
    simp only [readLetters?]
    split
    · split
      · rfl
      · simp only [Option.map_some, h]
    · split
      · split
        · rfl
        · exact ih h seen true true
      · split
        · rfl
        · have hswitch := switch?_plain h (!off) c
          cases hs : f.switch? (!off) c with
          | none =>
            cases hs' : f'.switch? (!off) c with
            | none => rfl
            | some => simp [hs, hs'] at hswitch
          | some g =>
            cases hs' : f'.switch? (!off) c with
            | none => simp [hs, hs'] at hswitch
            | some g' =>
              simp only [hs, hs', Option.map_some, Option.some.injEq] at hswitch
              exact ih hswitch (c :: seen) off false

end Flags

/-- A piece without its sets. -/
def Piece.plain (p : Piece) : Piece := p.map (fun _ => .empty) id

/-- An open group without its sets. -/
def Opened.plain (o : Opened) : Opened := { o.map (fun _ => .empty) id with flags := o.flags.plain }

namespace Reader

/-- A reader under flags under which case counts, without the sets it has read. -/
def plain (r : Reader) : Reader where
  flags := r.flags.plain
  pieces := r.pieces.map Piece.plain
  branches := r.branches.map Piece.plain
  opened := r.opened.map Opened.plain
  groups := r.groups
  names := r.names

variable {r q : Reader}

theorem fields_of_plain (h : r.plain = q.plain) : r.flags.plain = q.flags.plain ∧
    r.pieces.map Piece.plain = q.pieces.map Piece.plain ∧
    r.branches.map Piece.plain = q.branches.map Piece.plain ∧
    r.opened.map Opened.plain = q.opened.map Opened.plain ∧ r.groups = q.groups ∧ r.names = q.names := by
  simpa only [plain, Reader.mk.injEq] using h

theorem plain_ext (hf : r.flags.plain = q.flags.plain) (hp : r.pieces.map Piece.plain = q.pieces.map Piece.plain)
    (hb : r.branches.map Piece.plain = q.branches.map Piece.plain)
    (ho : r.opened.map Opened.plain = q.opened.map Opened.plain) (hg : r.groups = q.groups)
    (hn : r.names = q.names) : r.plain = q.plain := by
  unfold plain
  rw [hf, hp, hb, ho, hg, hn]

theorem skip_of_plain {f f' : Flags} (h : f.plain = f'.plain) (cs : List Char) : f.skip cs = f'.skip cs := by
  change f.plain.skip cs = f'.plain.skip cs
  rw [h]

theorem branch_of_plain (h : r.plain = q.plain) : r.branch.plain = q.branch.plain := by
  have hr : r.plain.branch = r.branch.plain := branch_map rfl
  have hq : q.plain.branch = q.branch.plain := branch_map rfl
  rw [← hr, ← hq, h]

theorem body_of_plain (h : r.plain = q.plain) : r.body.plain = q.body.plain := by
  have hr : r.plain.body = r.body.plain := body_map rfl rfl
  have hq : q.plain.body = q.body.plain := body_map rfl rfl
  rw [← hr, ← hq, h]

theorem Piece.plain_mk {e e' : Expr} (h : e.map (fun _ => .empty) id = e'.map (fun _ => .empty) id) (depth : Nat)
    (isSwitch : Bool) : Piece.plain ⟨e, depth, isSwitch⟩ = Piece.plain ⟨e', depth, isSwitch⟩ := by
  rw [Piece.plain, Piece.plain, Piece.map, Piece.map, h]

theorem push_plain (h : r.plain = q.plain) {e e' : Expr}
    (he : e.map (fun _ => .empty) id = e'.map (fun _ => .empty) id) (depth : Nat) :
    (r.push e depth).plain = (q.push e' depth).plain := by
  obtain ⟨hf, hp, hb, ho, hg, hn⟩ := fields_of_plain h
  refine plain_ext hf ?_ hb ho hg hn
  simp only [push, List.map_cons, hp, Piece.plain_mk he]

theorem nextBranch_plain (h : r.plain = q.plain) : r.nextBranch.plain = q.nextBranch.plain := by
  obtain ⟨hf, hp, hb, ho, hg, hn⟩ := fields_of_plain h
  refine plain_ext hf rfl ?_ ho hg hn
  simp only [nextBranch, List.map_cons, branch_of_plain h, hb]

theorem openGroup_plain (h : r.plain = q.plain) {f f' : Flags} (hff : f.plain = f'.plain) (index : Option Nat) :
    (r.openGroup f index).plain = (q.openGroup f' index).plain := by
  obtain ⟨hf, hp, hb, ho, hg, hn⟩ := fields_of_plain h
  have hopen : Opened.plain ⟨r.flags, r.pieces, r.branches, index⟩ =
      Opened.plain ⟨q.flags, q.pieces, q.branches, index⟩ := by
    change Opened.mk r.flags.plain (r.pieces.map Piece.plain) (r.branches.map Piece.plain) _ =
      Opened.mk q.flags.plain (q.pieces.map Piece.plain) (q.branches.map Piece.plain) _
    rw [hf, hp, hb]
    rfl
  refine plain_ext hff rfl rfl ?_ ?_ hn
  · simp only [openGroup, List.map_cons, hopen, ho]
  · simp only [openGroup, hg]

theorem closeGroup?_plain (h : r.plain = q.plain) : r.closeGroup?.map plain = q.closeGroup?.map plain := by
  obtain ⟨hf, hp, hb, ho, hg, hn⟩ := fields_of_plain h
  have hbody := body_of_plain h
  unfold closeGroup?
  cases hr : r.opened with
  | nil =>
    rw [hr] at ho
    rw [List.map_eq_nil_iff.1 ho.symm]
  | cons o os =>
    cases hq : q.opened with
    | nil => simp [hr, hq] at ho
    | cons o' os' =>
      rw [hr, hq] at ho
      obtain ⟨hoo, hos⟩ := List.cons.inj ho
      obtain ⟨hof, hop, hob, hoi⟩ := Opened.mk.inj hoo
      obtain ⟨he, hdepth, -⟩ := Piece.mk.inj hbody
      have hindex : o.index = o'.index := by simpa [Opened.map] using hoi
      have hgroup : ∀ i : Nat, (Expr.group i r.body.expr).map (fun _ => .empty) id =
          (Expr.group i q.body.expr).map (fun _ => .empty) id := by
        intro i
        rw [Expr.map, Expr.map, he]
      simp only [Option.map_some, Option.some.injEq, hindex, hdepth]
      refine plain_ext hof ?_ hob hos hg hn
      rw [List.map_cons, List.map_cons]
      refine congrArg₂ List.cons (Piece.plain_mk ?_ _ _) hop
      cases o'.index with
      | none => exact he
      | some i => exact hgroup i

theorem repeat?_plain (h : r.plain = q.plain) (least : Nat) (most : Option Nat) (lazy : Bool) :
    (r.repeat? least most lazy).map plain = (q.repeat? least most lazy).map plain := by
  obtain ⟨hf, hp, hb, ho, hg, hn⟩ := fields_of_plain h
  unfold repeat?
  cases hr : r.pieces with
  | nil =>
    rw [hr] at hp
    rw [List.map_eq_nil_iff.1 hp.symm]
  | cons a as =>
    cases hq : q.pieces with
    | nil => simp [hr, hq] at hp
    | cons a' as' =>
      rw [hr, hq] at hp
      obtain ⟨haa, has⟩ := List.cons.inj hp
      obtain ⟨he, hdepth, hswitch⟩ := Piece.mk.inj haa
      have hgreed : r.flags.swapGreed = q.flags.swapGreed := (Flags.mk.inj hf).2.2.2.1
      simp only [hswitch, hdepth, hgreed]
      split
      · rfl
      · simp only [Option.map_some, Option.some.injEq]
        refine plain_ext hf ?_ hb ho hg hn
        rw [List.map_cons, List.map_cons]
        refine congrArg₂ List.cons (Piece.plain_mk ?_ _ _) has
        rw [← Expr.repeated_map, ← Expr.repeated_map, he]

/-- What a step takes and what it leaves over, without sets. -/
def strip (x : Reader × List Char) : Reader × List Char := (x.1.plain, x.2)

theorem openNamed?_plain (h : r.plain = q.plain) (cs : List Char) :
    (r.openNamed? cs).map strip = (q.openNamed? cs).map strip := by
  obtain ⟨hf, hp, hb, ho, hg, hn⟩ := fields_of_plain h
  have hnamed : ∀ n names, (Reader.mk r.flags r.pieces r.branches r.opened n names).plain =
      (Reader.mk q.flags q.pieces q.branches q.opened n names).plain := fun _ _ => plain_ext hf hp hb ho rfl rfl
  unfold openNamed?
  simp only [hg, hn]
  split
  · split
    · rw [Option.map_some, Option.map_some, strip, strip, openGroup_plain (hnamed _ _) hf _]
    · rfl
  · rfl

theorem openParen?_plain (h : r.plain = q.plain) (cs : List Char) :
    (r.openParen? cs).map strip = (q.openParen? cs).map strip := by
  obtain ⟨hf, hp, hb, ho, hg, hn⟩ := fields_of_plain h
  unfold openParen?
  rw [skip_of_plain hf]
  split
  case h_1 | h_2 | h_3 | h_4 => rfl
  case h_5 | h_6 => exact openNamed?_plain h _
  case h_7 cs _ _ _ _ _ _ _ =>
    have hletters := Flags.readLetters?_plain hf [] false false cs
    cases hr : r.flags.readLetters? [] false false cs with
    | none =>
      rw [hr, Option.map_none] at hletters
      rw [Option.map_eq_none_iff.1 hletters.symm]
    | some x =>
      rw [hr, Option.map_some] at hletters
      obtain ⟨y, hq, hxy⟩ := Option.map_eq_some_iff.1 hletters.symm
      obtain ⟨f, any, colon, rest⟩ := x
      obtain ⟨f', y⟩ := y
      obtain ⟨hff, hy⟩ := Prod.mk.inj hxy
      subst hy
      rw [hq]
      cases colon with
      | true => simp only [Option.map_some, strip, openGroup_plain h hff.symm none]
      | false =>
        cases any with
        | false => rfl
        | true =>
          simp only [Option.map_some, strip, Option.some.injEq, Prod.mk.injEq, and_true]
          refine plain_ext hff.symm ?_ hb ho hg hn
          rw [List.map_cons, List.map_cons, hp]
  case h_8 =>
    rw [hg, Option.map_some, Option.map_some, strip, strip, openGroup_plain h hf _]

theorem dot?_plain {f f' : Flags} (h : f.plain = f'.plain) : dot? f = dot? f' := by
  change dot? f.plain = dot? f'.plain
  rw [h]

theorem caret_plain {f f' : Flags} (h : f.plain = f'.plain) : caret f = caret f' := by
  change caret f.plain = caret f'.plain
  rw [h]

theorem dollar_plain {f f' : Flags} (h : f.plain = f'.plain) : dollar f = dollar f' := by
  change dollar f.plain = dollar f'.plain
  rw [h]

theorem readCounts?_plain {f f' : Flags} (h : f.plain = f'.plain) (cs : List Char) :
    readCounts? f cs = readCounts? f' cs := by
  change readCounts? f.plain cs = readCounts? f'.plain cs
  rw [h]

theorem map_strip_pair {x y : Option Reader} (h : x.map plain = y.map plain) (rest : List Char) :
    (x.map (·, rest)).map strip = (y.map (·, rest)).map strip := by
  have hstrip : ∀ z : Option Reader, (z.map (·, rest)).map strip = (z.map plain).map (·, rest) := by
    intro z
    cases z <;> rfl
  rw [hstrip, hstrip, h]

theorem push_one_plain (h : r.plain = q.plain) (s s' : CharSet) (depth : Nat) :
    (r.push (.one s) depth).plain = (q.push (.one s') depth).plain := push_plain h rfl depth

theorem pushAtom_plain (h : r.plain = q.plain) {a b : Atom} (hab : a.plain = b.plain) :
    (r.pushAtom a).plain = (q.pushAtom b).plain := by
  cases a with
  | char c =>
    cases b with
    | char c' => exact push_one_plain h _ _ 0
    | set s' => cases hab
    | assert a' => cases hab
  | set s =>
    cases b with
    | char c' => cases hab
    | set s' => exact push_one_plain h _ _ 0
    | assert a' => cases hab
  | assert a =>
    cases b with
    | char c' => cases hab
    | set s' => cases hab
    | assert a' =>
      cases hab
      exact push_plain h rfl 0

theorem step?_plain (h : r.plain = q.plain) (c : Char) (cs : List Char) :
    (r.step? c cs).map strip = (q.step? c cs).map strip := by
  obtain ⟨hf, hp, hb, ho, hg, hn⟩ := fields_of_plain h
  by_cases hbracket : c = '['
  · subst hbracket
    have hread : (readBracket? r.flags cs).map (·.2) = (readBracket? q.flags cs).map (·.2) := by
      rw [← readBracket?_plain, hf, readBracket?_plain]
    rw [step?_bracket, step?_bracket]
    rcases cases_of_map_snd hread with ⟨hr, hq⟩ | ⟨s, s', x, hr, hq⟩
    · rw [hr, hq]
      rfl
    · rw [hr, hq, Option.map_some, Option.map_some, Option.map_some, Option.map_some, strip, strip,
        push_one_plain h s s']
  by_cases hbrace : c = '\x7b'
  · subst hbrace
    rw [step?_brace, step?_brace, readCounts?_plain hf]
    cases readCounts? q.flags cs with
    | none => rfl
    | some x =>
      rw [Option.bind_some, Option.bind_some, skip_of_plain hf]
      exact map_strip_pair (repeat?_plain h _ _ _) _
  by_cases hescape : c = '\\'
  · subst hescape
    have hread : (readEscape? r.flags cs).map Atom.strip = (readEscape? q.flags cs).map Atom.strip := by
      rw [← readEscape?_plain, hf, readEscape?_plain]
    rw [step?_backslash, step?_backslash]
    cases hr : readEscape? r.flags cs with
    | none =>
      rw [hr, Option.map_none] at hread
      rw [Option.map_eq_none_iff.1 hread.symm]
      rfl
    | some x =>
      rw [hr, Option.map_some] at hread
      obtain ⟨y, hq, hxy⟩ := Option.map_eq_some_iff.1 hread.symm
      obtain ⟨ha, hrest⟩ := Prod.mk.inj hxy
      rw [hq, Option.map_some, Option.map_some, Option.map_some, Option.map_some, strip, strip, hrest,
        pushAtom_plain h ha.symm]
  unfold step?
  split
  case h_1 => exact openParen?_plain h cs
  case h_2 => exact map_strip_pair (closeGroup?_plain h) cs
  case h_3 => rw [Option.map_some, Option.map_some, strip, strip, nextBranch_plain h]
  case h_4 => exact absurd rfl hbracket
  case h_5 | h_6 | h_7 => exact map_strip_pair (repeat?_plain h _ _ _) _
  case h_8 => exact absurd rfl hbrace
  case h_9 => exact absurd rfl hescape
  case h_10 =>
    rw [dot?_plain hf]
    cases dot? q.flags with
    | none => rfl
    | some s => rw [Option.map_some, Option.map_some, Option.map_some, Option.map_some, strip, strip, push_plain h rfl]
  case h_11 => rw [Option.map_some, Option.map_some, strip, strip, caret_plain hf, push_plain h rfl]
  case h_12 => rw [Option.map_some, Option.map_some, strip, strip, dollar_plain hf, push_plain h rfl]
  case h_13 => rw [Option.map_some, Option.map_some, strip, strip, push_one_plain h]

theorem read?_end_plain (h : r.plain = q.plain) {cs : List Char} (hr : r.flags.skip cs = [])
    (hq : q.flags.skip cs = []) (n : Nat) : (r.read? n cs).map plain = (q.read? n cs).map plain := by
  obtain ⟨-, -, -, ho, -, -⟩ := fields_of_plain h
  have hopened : r.opened.isEmpty = q.opened.isEmpty := by
    rw [← List.isEmpty_map (f := Opened.plain), ho, List.isEmpty_map]
  rw [read?_of_skip_nil hr, read?_of_skip_nil hq, hopened]
  split
  · rw [Option.map_some, Option.map_some, h]
  · rfl

/-- What can be read does not depend on whether case counts. -/
theorem read?_plain (n : Nat) (cs : List Char) (h : r.plain = q.plain) :
    (r.read? n cs).map plain = (q.read? n cs).map plain := by
  induction n generalizing r q cs with
  | zero =>
    obtain ⟨hf, -, -, ho, -, -⟩ := fields_of_plain h
    cases hskip : q.flags.skip cs with
    | nil => exact read?_end_plain h ((skip_of_plain hf cs).trans hskip) hskip 0
    | cons c more =>
      rw [read?_zero_of_skip_cons ((skip_of_plain hf cs).trans hskip), read?_zero_of_skip_cons hskip]
  | succ n ih =>
    obtain ⟨hf, -, -, ho, -, -⟩ := fields_of_plain h
    cases hskip : q.flags.skip cs with
    | nil => exact read?_end_plain h ((skip_of_plain hf cs).trans hskip) hskip (n + 1)
    | cons c more =>
      have hstep := step?_plain h c more
      rw [read?_succ_of_skip_cons ((skip_of_plain hf cs).trans hskip), read?_succ_of_skip_cons hskip]
      cases hr : r.step? c more with
      | none =>
        rw [hr, Option.map_none] at hstep
        rw [Option.map_eq_none_iff.1 hstep.symm]
      | some x =>
        rw [hr, Option.map_some] at hstep
        obtain ⟨y, hq, hxy⟩ := Option.map_eq_some_iff.1 hstep.symm
        obtain ⟨hxy, hrest⟩ := Prod.mk.inj hxy
        rw [hq, Option.bind_some, Option.bind_some, hrest]
        exact ih x.2 hxy.symm

end Reader

end ProseLint.Pattern
