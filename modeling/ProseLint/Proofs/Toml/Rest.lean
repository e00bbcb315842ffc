/-
What the readers of TOML leave. Each of them takes its part from the front of a text and so leaves an end
of it (`leaves_value?`, `leaves_dottedKey?`): what has been read of a document is always what stands before
the rest.
-/
import ProseLint.Toml.Document

namespace ProseLint.Toml

/-- What is left of a text is an end of it, if something has been read. -/
def Leaves {α : Type} (cs : List Char) (x : Option (α × List Char)) : Prop := ∀ y, x = some y → y.2 <:+ cs

namespace Leaves

variable {α β : Type} {cs cs' rest : List Char} {x : Option (α × List Char)} {a : α}

theorem none : Leaves cs (none : Option (α × List Char)) := fun _ h => nomatch h

theorem some (h : rest <:+ cs) : Leaves cs (some (a, rest)) := fun _ hy => Option.some.inj hy ▸ h

theorem trans (hx : Leaves cs x) (h : cs <:+ cs') : Leaves cs' x := fun y hy => (hx y hy).trans h

theorem cons {c : Char} (hx : Leaves cs x) : Leaves (c :: cs) x := hx.trans (List.suffix_cons c cs)

theorem map {f : α × List Char → β × List Char} (hx : Leaves cs x) (hf : ∀ y, (f y).2 = y.2) :
    Leaves cs (x.map f) := by
  intro y hy
  obtain ⟨z, hz, rfl⟩ := Option.map_eq_some_iff.1 hy
  exact hf z ▸ hx z hz

/-- What is read next is read from what has been left. -/
theorem bind {f : α × List Char → Option (β × List Char)} (hx : Leaves cs x) (hf : ∀ y, Leaves y.2 (f y)) :
    Leaves cs (x >>= f) := by
  intro y hy
  obtain ⟨z, hz, hy⟩ := Option.bind_eq_some_iff.1 hy
  exact (hf z y hy).trans (hx z hz)

/-- What is there already leaves nothing else. -/
theorem given {a? : Option β} {f : β → Option (α × List Char)} (hf : ∀ a, Leaves cs (f a)) :
    Leaves cs (a? >>= f) := by
  cases a? with
  | none => exact .none
  | some a => exact hf a

theorem or {y : Option (α × List Char)} (hx : Leaves cs x) (hy : Leaves cs y) : Leaves cs (x.or y) := by
  intro z hz
  rcases Option.or_eq_some_iff.1 hz with hz | ⟨-, hz⟩
  · exact hx z hz
  · exact hy z hz

theorem ite {p : Prop} [Decidable p] {y : Option (α × List Char)} (hx : Leaves cs x) (hy : Leaves cs y) :
    Leaves cs (if p then x else y) := by
  split
  · exact hx
  · exact hy

end Leaves

variable {cs rest : List Char}

/-! ## Blanks and line ends -/

theorem skipBlanks_suffix (cs : List Char) : skipBlanks cs <:+ cs := List.dropWhile_suffix _

theorem lineEnd?_suffix (h : lineEnd? cs = some rest) : rest <:+ cs := by
  unfold lineEnd? at h
  split at h
  · exact Option.some.inj h ▸ ⟨['\n'], rfl⟩
  · exact Option.some.inj h ▸ ⟨['\r', '\n'], rfl⟩
  · cases h

theorem skipRemark_suffix (cs : List Char) : skipRemark cs <:+ cs := by
  unfold skipRemark
  split
  · exact (List.dropWhile_suffix _).trans ⟨['#'], rfl⟩
  · exact List.suffix_rfl

theorem restOfLine?_suffix (h : restOfLine? cs = some rest) : rest <:+ cs := by
  unfold restOfLine? at h
  split at h
  · exact Option.some.inj h ▸ List.nil_suffix
  · exact (lineEnd?_suffix h).trans ((skipRemark_suffix _).trans (skipBlanks_suffix cs))

theorem skipLines_suffix (inRemark : Bool) (cs : List Char) : skipLines inRemark cs <:+ cs := by
  fun_induction skipLines inRemark cs with
  | case1 => exact List.suffix_rfl
  | case2 _ cs ih => exact ih.trans ⟨['\r', '\n'], rfl⟩
  | case7 => exact List.suffix_rfl
  | case3 | case4 | case5 | case6 =>
    rename_i ih
    exact ih.trans (List.suffix_cons _ _)

/-! ## Strings and keys -/

theorem Leaves.before {c : Char} {x : Option (List Char × List Char)} (hx : Leaves cs x) :
    Leaves cs (before c x) :=
  hx.map fun _ => rfl

/-- An escape is read from in front of what is read next. -/
theorem Leaves.escape {c? : Option Char} {x : Option (List Char × List Char)} (hx : Leaves cs x) :
    Leaves cs (c? >>= fun c => Toml.before c x) :=
  .given fun _ => hx.before

theorem leaves_basic? (cs : List Char) : Leaves cs (basic? cs) := by
  fun_induction basic? cs with
  | case1 | case7 => exact .none
  | case2 => exact .some (List.suffix_cons _ _)
  | case3 a b c d rest ih => exact ih.escape.trans ⟨['\\', 'u', a, b, c, d], rfl⟩
  | case4 a b c d e f g h rest ih => exact ih.escape.trans ⟨['\\', 'U', a, b, c, d, e, f, g, h], rfl⟩
  | case5 _ _ _ _ ih => exact ih.escape.cons.cons
  | case6 _ _ _ _ _ _ _ ih => exact ih.before.cons

theorem leaves_literal? (cs : List Char) : Leaves cs (literal? cs) := by
  fun_induction literal? cs with
  | case1 | case4 => exact .none
  | case2 => exact .some (List.suffix_cons _ _)
  | case3 _ _ _ _ ih => exact ih.before.cons

theorem leaves_longLiteral? (cs : List Char) : Leaves cs (longLiteral? cs) := by
  fun_induction longLiteral? cs with
  | case1 | case7 => exact .none
  | case2 _ ih => exact ih.before.cons.cons
  | case3 rest => exact .some ⟨['\'', '\'', '\'', '\'', '\''], rfl⟩
  | case4 rest => exact .some ⟨['\'', '\'', '\'', '\''], rfl⟩
  | case5 rest => exact .some ⟨['\'', '\'', '\''], rfl⟩
  | case6 _ _ _ _ _ _ _ ih => exact ih.before.cons

theorem leaves_longBasic? (place : Folding) (cs : List Char) : Leaves cs (longBasic? place cs) := by
  fun_induction longBasic? place cs with
  | case1 | case4 | case6 | case8 | case10 | case12 | case14 | case18 | case21 | case24 | case27 => exact .none
  | case2 _ ih => exact ih.before.cons.cons
  | case3 _ _ _ ih => exact ih.cons.cons
  | case5 => exact .some ⟨['"', '"', '"', '"', '"'], rfl⟩
  | case7 => exact .some ⟨['"', '"', '"', '"'], rfl⟩
  | case9 => exact .some ⟨['"', '"', '"'], rfl⟩
  | case11 _ a b c d _ _ ih => exact ih.escape.trans ⟨['\\', 'u', a, b, c, d], rfl⟩
  | case13 _ a b c d e f g h _ _ ih => exact ih.escape.trans ⟨['\\', 'U', a, b, c, d, e, f, g, h], rfl⟩
  | case15 | case16 =>
    rename_i ih
    exact ih.cons.cons
  | case17 =>
    rename_i ih
    exact ih.cons.cons.cons
  | case19 =>
    rename_i ih
    exact ih.escape.cons.cons
  | case20 | case26 =>
    rename_i ih
    exact ih.before.cons
  | case22 | case23 | case25 =>
    rename_i ih
    exact ih.cons

theorem dropLineEnd_suffix (cs : List Char) : dropLineEnd cs <:+ cs := by
  unfold dropLineEnd
  cases h : lineEnd? cs with
  | none => exact List.suffix_rfl
  | some rest => exact lineEnd?_suffix h

theorem leaves_string? (cs : List Char) : Leaves cs (string? cs) := by
  unfold string? string?.finish
  split
  · exact .cons (.cons (.cons (.map ((leaves_longBasic? _ _).trans (dropLineEnd_suffix _)) fun _ => rfl)))
  · exact .cons (.map (leaves_basic? _) fun _ => rfl)
  · exact .cons (.cons (.cons (.map ((leaves_longLiteral? _).trans (dropLineEnd_suffix _)) fun _ => rfl)))
  · exact .cons (.map (leaves_literal? _) fun _ => rfl)
  · exact .none

theorem leaves_simpleKey? (cs : List Char) : Leaves cs (simpleKey? cs) := by
  unfold simpleKey?
  split
  · exact .cons (.map (leaves_basic? _) fun _ => rfl)
  · exact .cons (.map (leaves_literal? _) fun _ => rfl)
  · split
    · exact .none
    · exact .some (List.dropWhile_suffix _)

theorem leaves_dottedKey? (room : Nat) (cs : List Char) : Leaves cs (dottedKey? room cs) := by
  induction room generalizing cs with
  | zero => exact .none
  | succ room ih =>
    rw [dottedKey?]
    refine ((leaves_simpleKey? _).trans (skipBlanks_suffix cs)).bind fun (key, rest) => ?_
    have hrest := skipBlanks_suffix rest
    dsimp only
    split
    · rename_i more hmore
      exact .map ((ih more).cons.trans (hmore ▸ hrest)) fun _ => rfl
    · exact .some hrest

theorem ne_nil_of_dottedKey? {room : Nat} {keys : List String} (h : dottedKey? room cs = some (keys, rest)) :
    keys ≠ [] := by
  cases room with
  | zero => cases h
  | succ room =>
    rw [dottedKey?] at h
    obtain ⟨⟨key, left⟩, -, h⟩ := Option.bind_eq_some_iff.1 h
    dsimp only at h
    split at h
    · obtain ⟨_, -, heq⟩ := Option.map_eq_some_iff.1 h
      exact (Prod.mk.inj heq).1 ▸ List.cons_ne_nil _ _
    · exact (Prod.mk.inj (Option.some.inj h)).1 ▸ List.cons_ne_nil _ _

/-! ## Numbers and dates -/

theorem digitRun_suffix (base : Nat) (cs : List Char) : (digitRun base cs).2 <:+ cs := by
  fun_induction digitRun base cs with
  | case1 c cs _ _ _ heq ih =>
    rw [heq] at ih
    exact ih.trans ⟨['_', c], rfl⟩
  | case3 c cs _ _ _ _ heq ih =>
    rw [heq] at ih
    exact ih.trans (List.suffix_cons c cs)
  | case2 | case4 | case5 => exact List.suffix_rfl

theorem leaves_digits? (base : Nat) (cs : List Char) : Leaves cs (digits? base cs) := by
  unfold digits?
  split
  · exact .none
  · have hrest := digitRun_suffix base cs
    split
    · exact .none
    · exact .some hrest

theorem sign_suffix (cs : List Char) : (sign cs).2 <:+ cs := by
  unfold sign
  split
  · exact List.suffix_cons _ _
  · exact List.suffix_cons _ _
  · exact List.suffix_rfl

theorem leaves_wholeDigits? (cs : List Char) : Leaves cs (wholeDigits? cs) := by
  unfold wholeDigits?
  split
  · exact .some (List.suffix_cons _ _)
  · exact leaves_digits? 10 cs

theorem leaves_integer? (cs : List Char) : Leaves cs (integer? cs) := by
  have hbase : ∀ base cs, Leaves cs (digits? base cs >>= fun y =>
      if Text.natOfDigits base y.1 < Nat.pow 2 63 then some (Value.integer (Text.natOfDigits base y.1), y.2)
      else none) := fun base cs =>
    (leaves_digits? base cs).bind fun _ => .ite (.some List.suffix_rfl) .none
  unfold integer?
  dsimp only
  split
  · exact (hbase 16 _).cons.cons
  · exact (hbase 8 _).cons.cons
  · exact (hbase 2 _).cons.cons
  · refine ((leaves_wholeDigits? _).trans (sign_suffix cs)).bind fun _ => ?_
    exact .ite (.ite (.some List.suffix_rfl) .none) (.ite (.some List.suffix_rfl) .none)

theorem leaves_float? (cs : List Char) : Leaves cs (float? cs) := by
  unfold float?
  dsimp only
  refine .trans ?_ (sign_suffix cs)
  split
  · rename_i hinf
    exact .some ⟨['i', 'n', 'f'], hinf.symm⟩
  · rename_i hnan
    exact .some ⟨['n', 'a', 'n'], hnan.symm⟩
  · refine (leaves_wholeDigits? _).bind fun (whole, rest) => ?_
    -- A fraction may follow, and then an exponent.
    dsimp only
    split
    case' h_1 => refine .bind (.cons (leaves_digits? 10 _)) ?_
    case' h_2 => refine .bind (.some List.suffix_rfl) ?_
    all_goals
      intro (fraction, rest)
      have hchecked : ∀ (exponent : Option Int) (rest : List Char), Leaves rest
          (if fraction.isEmpty ∧ exponent.isNone then none
            else if !(sign cs).1 ∧ overflows (whole ++ fraction) (exponent.getD 0 - fraction.length) then none
            else some (Value.float, rest)) := fun _ _ => .ite .none (.ite .none (.some List.suffix_rfl))
      dsimp only
      split
      · rename_i e more
        refine .ite (.bind (.trans (leaves_digits? 10 _) ?_) fun y => ?_) ?_
        · exact (sign_suffix more).trans (List.suffix_cons e more)
        · exact .bind (.some List.suffix_rfl) fun y => hchecked y.1 y.2
        · exact .bind (.some List.suffix_rfl) fun y => hchecked y.1 y.2
      · exact .bind (.some List.suffix_rfl) fun y => hchecked y.1 y.2

theorem leaves_fixed? (digits : Nat) (cs : List Char) : Leaves cs (fixed? digits cs) :=
  .ite (.some (List.drop_suffix _ _)) .none

theorem char?_suffix {c : Char} (h : char? c cs = some rest) : rest <:+ cs := by
  cases cs with
  | nil => cases h
  | cons d cs =>
    rw [char?] at h
    split at h
    · exact Option.some.inj h ▸ List.suffix_cons d cs
    · cases h

/-- What is read after one character. -/
theorem Leaves.after {α : Type} {c : Char} {f : List Char → Option (α × List Char)}
    (hf : ∀ rest, Leaves rest (f rest)) : Leaves cs (char? c cs >>= f) := by
  cases h : char? c cs with
  | none => exact .none
  | some rest => exact (hf rest).trans (char?_suffix h)

theorem leaves_day? (cs : List Char) : Leaves cs (day? cs) := by
  unfold day?
  refine (leaves_fixed? 4 cs).bind fun (_, rest) => .after fun _ => ?_
  refine (leaves_fixed? 2 _).bind fun (_, rest) => .after fun _ => ?_
  exact (leaves_fixed? 2 _).bind fun (_, rest) => .ite (.some List.suffix_rfl) .none

theorem leaves_time? (cs : List Char) : Leaves cs (time? cs) := by
  unfold time?
  refine (leaves_fixed? 2 cs).bind fun (_, rest) => .after fun _ => ?_
  refine (leaves_fixed? 2 _).bind fun (_, rest) => .after fun _ => ?_
  refine (leaves_fixed? 2 _).bind fun (_, rest) => .ite .none ?_
  dsimp only
  split
  · split
    · exact .some List.suffix_rfl
    · exact .some ((List.dropWhile_suffix _).trans (List.suffix_cons _ _))
  · exact .some List.suffix_rfl

theorem leaves_zone? (cs : List Char) : Leaves cs (zone? cs) := by
  unfold zone?
  split
  · exact .some (List.suffix_cons _ _)
  · exact .some (List.suffix_cons _ _)
  · refine .ite (.cons ?_) (.some List.suffix_rfl)
    refine (leaves_fixed? 2 _).bind fun (_, rest) => .after fun _ => ?_
    exact (leaves_fixed? 2 _).bind fun (_, rest) => .ite .none (.some List.suffix_rfl)
  · exact .some List.suffix_rfl

theorem leaves_date? (cs : List Char) : Leaves cs (date? cs) := by
  unfold date?
  dsimp only
  split
  · exact .map (leaves_time? cs) fun _ => rfl
  · rename_i day rest hday
    refine .trans ?_ (leaves_day? cs _ hday)
    split
    · refine .ite ?_ (.some List.suffix_rfl)
      split
      · exact .some List.suffix_rfl
      · rename_i htime
        refine .map (.trans (leaves_zone? _) ?_) fun _ => rfl
        exact (leaves_time? _ _ htime).trans (List.suffix_cons _ _)
    · exact .some List.suffix_rfl

theorem leaves_number? (cs : List Char) : Leaves cs (number? cs) :=
  ((leaves_date? cs).or (leaves_float? cs)).or (leaves_integer? cs)

/-! ## Values -/

variable {item? : List Char → Option (Value × List Char)}

theorem leaves_items? (hitem : ∀ cs, Leaves cs (item? cs)) (steps : Nat) (cs : List Char) :
    Leaves cs (items? item? steps cs) := by
  induction steps generalizing cs with
  | zero => exact .none
  | succ steps ih =>
    rw [items?]
    refine .trans ?_ (skipLines_suffix false cs)
    split
    · rename_i rest hrest
      exact .some (hrest ▸ List.suffix_cons _ _)
    · refine (hitem _).bind fun (item, rest) => ?_
      refine .trans ?_ (skipLines_suffix false rest)
      dsimp only
      split
      · rename_i hrest
        exact hrest ▸ .cons (.map (ih _) fun _ => rfl)
      · rename_i hrest
        exact .some (hrest ▸ List.suffix_cons _ _)
      · exact .none

theorem leaves_entries? (hitem : ∀ cs, Leaves cs (item? cs)) (steps : Nat) (t : Value) (cs : List Char) :
    Leaves cs (entries? item? steps t cs) := by
  induction steps generalizing t cs with
  | zero => exact .none
  | succ steps ih =>
    rw [entries?]
    refine (leaves_dottedKey? _ cs).bind fun (keys, rest) => ?_
    dsimp only
    split
    · refine .bind (.cons ((hitem _).trans (skipBlanks_suffix _))) fun (item, rest) => ?_
      refine .given fun t' => .trans ?_ (skipBlanks_suffix rest)
      dsimp only
      split
      · rename_i hrest
        exact hrest ▸ .cons (ih _ _)
      · rename_i hrest
        exact .some (hrest ▸ List.suffix_cons _ _)
      · exact .none
    · exact .none

/-- The two words that stand for a value of their own. -/
theorem leaves_true (cs : List Char) : Leaves cs (match cs with
    | 'r' :: 'u' :: 'e' :: rest => some (Value.boolean true, rest)
    | _ => none) := by
  split
  · exact .some ⟨['r', 'u', 'e'], rfl⟩
  · exact .none

theorem leaves_false (cs : List Char) : Leaves cs (match cs with
    | 'a' :: 'l' :: 's' :: 'e' :: rest => some (Value.boolean false, rest)
    | _ => none) := by
  split
  · exact .some ⟨['a', 'l', 's', 'e'], rfl⟩
  · exact .none

/-- **A value leaves an end of the text it is read from.** -/
theorem leaves_value? (room : Nat) (cs : List Char) : Leaves cs (value? room cs) := by
  induction room generalizing cs with
  | zero =>
    unfold value?
    dsimp only
    split
    · exact .none
    · refine .ite (.map (leaves_string? _) fun _ => rfl) (.ite .none (.ite .none ?_))
      exact .ite (leaves_true _).cons (.ite (leaves_false _).cons (leaves_number? _))
  | succ room ih =>
    unfold value?
    dsimp only
    split
    · exact .none
    · refine .ite (.map (leaves_string? _) fun _ => rfl) (.ite ?_ (.ite ?_ ?_))
      · exact .cons (.map (leaves_items? ih _ _) fun _ => rfl)
      · refine .cons (.trans ?_ (skipBlanks_suffix _))
        split
        · rename_i hrest
          exact .some (hrest ▸ List.suffix_cons _ _)
        · exact leaves_entries? ih _ _ _
      · exact .ite (leaves_true _).cons (.ite (leaves_false _).cons (leaves_number? _))

end ProseLint.Toml
