/-
Stretches of characters. A set that is repeated matches what spells characters of it
(`Expr.matches_rounds_one`). A search for one or more of them, as many as there are, finds the runs of such
characters (`Program.findAll_stretch`): none of its matches could go on, so none can start inside a run.
-/
import ProseLint.Proofs.Pattern.Longest
import ProseLint.Proofs.Pattern.Words

namespace ProseLint.Pattern

open Text (Span Run IsRun runs mem_runs byteLength)

namespace Place

variable {p q : Place} {u v : List Char}

/-- A word in two parts is spelled part by part. -/
theorem spells_append : Spells (u ++ v) p q ↔ ∃ m, Spells u p m ∧ Spells v m q := by
  induction u generalizing p with
  | nil => simp [Spells]
  | cons c cs ih =>
    constructor
    · rintro ⟨rest, hrest, h⟩
      obtain ⟨m, hm, hv⟩ := ih.1 h
      exact ⟨m, ⟨rest, hrest, hm⟩, hv⟩
    · rintro ⟨m, ⟨rest, hrest, hm⟩, hv⟩
      exact ⟨rest, hrest, ih.2 ⟨m, hm, hv⟩⟩

end Place

open Place (between in_iff spells_iff)

namespace Expr

variable {p q : Place} {s : CharSet}

/-- A set matches what spells one of its characters. -/
theorem matches_one : (one s).Matches p q ↔ ∃ c, s.mem c = true ∧ Place.Spells [c] p q := by
  constructor
  · rintro ⟨c, rest, hrest, hc, rfl⟩
    exact ⟨c, hc, rest, hrest, rfl⟩
  · rintro ⟨c, hc, rest, hrest, rfl⟩
    exact ⟨c, rest, hrest, hc, rfl⟩

theorem iterate_one_iff {n : Nat} :
    Iterate (one s).Matches n p q ↔ ∃ w, w.length = n ∧ (∀ c ∈ w, s.mem c = true) ∧ Place.Spells w p q := by
  induction n generalizing p with
  | zero =>
    constructor
    · rintro (_ | _)
      exact ⟨[], rfl, by simp, rfl⟩
    · rintro ⟨w, hw, -, h⟩
      obtain rfl := List.eq_nil_of_length_eq_zero hw
      obtain rfl : p = q := h
      exact .zero p
  | succ n ih =>
    constructor
    · rintro (_ | ⟨h, hr⟩)
      obtain ⟨c, rest, hrest, hc, rfl⟩ := h
      obtain ⟨w, rfl, hw, h⟩ := ih.1 hr
      exact ⟨c :: w, rfl, List.forall_mem_cons.2 ⟨hc, hw⟩, rest, hrest, h⟩
    · rintro ⟨w, hlen, hw, h⟩
      obtain ⟨c, cs, rfl⟩ := List.exists_cons_of_length_eq_add_one hlen
      obtain ⟨hc, hcs⟩ := List.forall_mem_cons.1 hw
      obtain ⟨rest, hrest, h⟩ := h
      exact .succ ⟨c, rest, hrest, hc, rfl⟩ (ih.2 ⟨cs, Nat.succ.inj hlen, hcs, h⟩)

/-- A repeated set matches what spells characters of it, as many as the repetition allows. -/
theorem matches_rounds_one {least : Nat} {most : Option Nat} {greedy : Bool} :
    (rounds least most greedy (one s)).Matches p q ↔ ∃ w, least ≤ w.length ∧
      (∀ m ∈ most, w.length ≤ max least m) ∧ (∀ c ∈ w, s.mem c = true) ∧ Place.Spells w p q := by
  constructor
  · rintro ⟨n, hle, hmost, h⟩
    obtain ⟨w, rfl, hw, h⟩ := iterate_one_iff.1 h
    exact ⟨w, hle, hmost, hw, h⟩
  · rintro ⟨w, hle, hmost, hw, h⟩
    exact ⟨w.length, hle, hmost, iterate_one_iff.2 ⟨w, rfl, hw, h⟩⟩

/-- Characters that stand for themselves, and what comes after them. -/
theorem matchesAll_word {w : List Char} {es : List Expr} :
    MatchesAll (w.map (fun c => one (.single c)) ++ es) p q ↔ ∃ m, Place.Spells w p m ∧ MatchesAll es m q := by
  induction w generalizing p with
  | nil => simp [Place.Spells]
  | cons c cs ih =>
    constructor
    · rintro ⟨_, ⟨d, rest, hrest, hd, rfl⟩, h⟩
      obtain rfl : d = c := by simpa using hd
      obtain ⟨m, hm, hes⟩ := ih.1 h
      exact ⟨m, ⟨rest, hrest, hm⟩, hes⟩
    · rintro ⟨m, ⟨rest, hrest, hm⟩, hes⟩
      exact ⟨_, ⟨c, rest, hrest, by simp, rfl⟩, ih.2 ⟨m, hm, hes⟩⟩

end Expr

/-! ## One or more characters of a set -/

/-- One or more characters of a set, as many as there are, in a group. -/
def Expr.stretch (i : Nat) (S : CharSet) : Expr := .group i (.rounds 1 none true (.one S))

theorem Expr.matches_stretch {i : Nat} {S : CharSet} {p q : Place} : (stretch i S).Matches p q ↔
    ∃ w, w ≠ [] ∧ (∀ c ∈ w, S.mem c = true) ∧ Place.Spells w p q := by
  constructor
  · intro h
    obtain ⟨w, hlen, -, hw, hspells⟩ := matches_rounds_one.1 (show (rounds 1 none true (one S)).Matches p q from h)
    exact ⟨w, List.length_pos_iff.1 hlen, hw, hspells⟩
  · rintro ⟨w, hne, hw, hspells⟩
    have h : (rounds 1 none true (one S)).Matches p q :=
      matches_rounds_one.2 ⟨w, List.length_pos_iff.2 hne, by simp, hw, hspells⟩
    exact h

namespace Program

variable {i : Nat} {S : CharSet} {text : List Char}

theorem ofExpr_stretch (i : Nat) (S : CharSet) : ofExpr (.stretch i S) =
    ⟨#[.done, .closeGroup i 0, .fork 3 1, .take S 2, .openGroup i 3], 4⟩ := rfl

/-- The first two steps leave the stretch. -/
theorem guards_stretch (i : Nat) (S : CharSet) : (ofExpr (.stretch i S)).Guards (· < 2) S 3 2 where
  takes := rfl
  done {s} hs := by
    rcases s with _ | _ | _ | _ | _ | s <;> simp [ofExpr_stretch] at hs ⊢
  start := by simp [ofExpr_stretch]
  stays {s n T} hs := by
    rcases s with _ | _ | _ | _ | _ | s <;> simp [ofExpr_stretch] at hs ⊢
    omega
  on {s n st} hs hn hlt := by
    rcases s with _ | _ | _ | _ | _ | s <;> simp [ofExpr_stretch] at hs ⊢
    · exact ⟨1, hs.symm⟩
    · subst hs
      simp [Step.nexts] at hn
      omega
    · subst hs
      simp [Step.nexts] at hn
      omega
  ends p := by
    have hclose : (ofExpr (.stretch i S)).steps[1]? = some (.closeGroup i 0) := rfl
    have hfork : (ofExpr (.stretch i S)).steps[2]? = some (.fork 3 1) := rfl
    have hend : (ofExpr (.stretch i S)).Reaches 1 1 p p := .go hclose trivial List.mem_cons_self (.done rfl)
    exact ⟨2, .go hfork trivial (List.mem_cons_of_mem _ List.mem_cons_self) hend⟩

/-- What is found for a stretch: characters of the set up to one that does not belong to it. -/
theorem exists_of_found_stretch {f : Finish} (hf : f.Found (ofExpr (.stretch i S)) text) :
    ∃ pre w post, text = pre ++ w ++ post ∧ w ≠ [] ∧ (∀ c ∈ w, S.mem c = true) ∧
      post.head?.any S.mem = false ∧ f.span = ⟨byteLength pre, byteLength (pre ++ w)⟩ ∧
      f.place = between (pre ++ w) post ∧ (Match.ofFinish f).text = w := by
  obtain ⟨pre, rest, htext, hstart⟩ := in_iff.1 hf.within.start
  have hmatches := matches_of_finish? hf.again
  rw [hstart] at hmatches
  obtain ⟨w, hne, hw, hspells⟩ := Expr.matches_stretch.1 hmatches
  obtain ⟨post, rfl, hplace⟩ := spells_iff.1 hspells
  have hafter := (guards_stretch i S).head?_rest hf.again
  have hspan : f.span = ⟨byteLength pre, byteLength (pre ++ w)⟩ := by
    rw [Finish.span, hstart, hplace]
    rfl
  have hslice : Text.slice? text f.span = some w :=
    Text.slice?_eq_some.2 ⟨pre, post, by simp [htext], by rw [hspan], by rw [hspan]⟩
  refine ⟨pre, w, post, by simp [htext], hne, hw, ?_, hspan, hplace, ?_⟩
  · rwa [hplace] at hafter
  · exact Option.some.inj (hf.text_ofFinish.symm.trans hslice)

theorem start_lt_stop_stretch {f : Finish} (hf : f.Found (ofExpr (.stretch i S)) text) :
    f.span.start < f.span.stop := by
  obtain ⟨pre, w, post, -, hne, -, -, hspan, -⟩ := exists_of_found_stretch hf
  have hpos : 0 < byteLength w := Nat.pos_of_ne_zero fun h => hne (Text.byteLength_eq_zero.1 h)
  rw [hspan, Text.byteLength_append]
  exact Nat.lt_add_of_pos_right hpos

/-- Where a character of the set stands, some match covers it. -/
theorem covers_stretch {pre post : List Char} {c : Char} (htext : text = pre ++ c :: post) (hc : S.mem c = true) :
    ∃ m ∈ (ofExpr (.stretch i S)).findAll text, m.span.start ≤ byteLength pre ∧ byteLength pre < m.span.stop := by
  have hin : (between pre (c :: post)).In text := in_iff.2 ⟨pre, c :: post, htext, rfl⟩
  have hspells : Place.Spells [c] (between pre (c :: post)) (between (pre ++ [c]) post) :=
    spells_iff.2 ⟨post, rfl, rfl⟩
  have hmatches := (Expr.matches_stretch (i := i)).2 ⟨[c], by simp, by simpa using hc, hspells⟩
  have hstart := Place.in_ofText text
  exact findFrom_covers (fun f hf => start_lt_stop_stretch hf) none hstart (Nat.lt_succ_self _)
    (hstart.leads_of_le hin (Nat.zero_le _)) ((liveAt_ofExpr _).2 ⟨_, hmatches⟩)

/-- A match that covers the character before another match ends where that one starts. -/
theorem place_eq_of_covers {prog : Program} {f g : Finish} {pre post : List Char} {c : Char}
    (hf : .ofFinish f ∈ prog.findAll text) (hg : .ofFinish g ∈ prog.findAll text) (hfound : g.Found prog text)
    (htext : text = pre ++ c :: post) (hstart : f.span.start = byteLength (pre ++ [c]))
    (hne : f.span.start < f.span.stop) (hle : g.span.start ≤ byteLength pre) (hlt : byteLength pre < g.span.stop) :
    g.place = between (pre ++ [c]) post := by
  have hbefore : byteLength pre < byteLength (pre ++ [c]) := by
    have hpos := c.utf8Size_pos
    rw [Text.byteLength_append, Text.byteLength_cons, Text.byteLength_nil]
    omega
  refine hfound.within.place.eq_of_offset (in_iff.2 ⟨_, _, by simp [htext], rfl⟩) (Nat.le_antisymm ?_ ?_)
  · have hapart : (prog.findAll text).Pairwise fun a b => a.span.Precedes b.span ∨ b.span.Precedes a.span :=
      (findAll_pairwise _ _).imp .inl
    have hsymm : Std.Symm fun a b : Match => a.span.Precedes b.span ∨ b.span.Precedes a.span := ⟨fun _ _ => Or.symm⟩
    have hdiffer : Match.ofFinish g ≠ Match.ofFinish f := fun heq => by
      have hspans : g.span = f.span := congrArg Match.span heq
      rw [hspans] at hle
      omega
    rcases hapart.forall hg hf hdiffer with h | h
    · have hstop : g.span.stop ≤ f.span.start := h.stop_le
      rwa [hstart] at hstop
    · have hstop : f.span.stop ≤ g.span.start := h.stop_le
      omega
  · have hin : (between pre (c :: post)).In text := in_iff.2 ⟨pre, c :: post, htext, rfl⟩
    have hleads := hin.leads_of_le hfound.within.place (Nat.le_of_lt hlt)
    generalize hq : between pre (c :: post) = q at hleads
    cases hleads with
    | refl =>
      have hoffset : g.span.stop = byteLength pre := congrArg Place.offset hq.symm
      omega
    | past hrest hleads =>
      subst hq
      obtain ⟨rfl, rfl⟩ := List.cons.inj hrest
      rw [Place.past_between] at hleads
      exact hleads.offset_le

/-- **What is found for a stretch is a run of characters of the set.** -/
theorem isRun_of_mem_stretch {m : Match} (hm : m ∈ (ofExpr (.stretch i S)).findAll text) :
    IsRun S.mem text ⟨m.span, m.text⟩ := by
  obtain ⟨f, rfl, hf⟩ := exists_finish_of_mem_findAll hm
  obtain ⟨pre, w, post, htext, hne, hw, hafter, hspan, -, hchars⟩ := exists_of_found_stretch hf
  rw [hchars]
  refine ⟨hne, hw, pre, post, htext, hspan, ?_, hafter⟩
  -- A character of the set before the match would be covered by another match, which could go on.
  refine Bool.eq_false_iff.2 fun hbefore => ?_
  obtain ⟨pre, c, rfl⟩ : ∃ pre' c, pre = pre' ++ [c] := by
    rcases List.eq_nil_or_concat pre with rfl | ⟨pre', c, rfl⟩
    · cases hbefore
    · exact ⟨pre', c, List.concat_eq_append ..⟩
  have hc : S.mem c = true := by simpa using hbefore
  have htext' : text = pre ++ c :: (w ++ post) := by simpa using htext
  obtain ⟨m, hm', hle, hlt⟩ := covers_stretch (i := i) htext' hc
  obtain ⟨g, rfl, hg⟩ := exists_finish_of_mem_findAll hm'
  have hplace : g.place = between (pre ++ [c]) (w ++ post) :=
    place_eq_of_covers hm hm' hg htext' (by rw [hspan]) (start_lt_stop_stretch hf) hle hlt
  obtain ⟨d, ds, rfl⟩ := List.exists_cons_of_ne_nil hne
  have hd : S.mem d = false := by
    have hnext := (guards_stretch i S).head?_rest hg.again
    rw [hplace] at hnext
    exact hnext
  exact absurd (hw d List.mem_cons_self) (by simp [hd])

/-- **The matches of a stretch are the runs of characters of the set**, in the order of the text. -/
theorem findAll_stretch (i : Nat) (S : CharSet) (text : List Char) :
    ((ofExpr (.stretch i S)).findAll text).map (fun m => ⟨m.span, m.text⟩) = runs S.mem text := by
  have hruns : (runs S.mem text).Pairwise fun a b => a.span.start < b.span.start :=
    (Text.runs_apart S.mem text).imp_of_mem fun ha _ h => Nat.lt_of_lt_of_le (mem_runs.1 ha).start_lt_stop h
  refine eq_of_mem_iff (fun r : Run => r.span.start)
    (List.pairwise_map.2 ((findAll_pairwise _ _).imp fun h => h.start_lt)) hruns
    fun r => ⟨fun hr => ?_, fun hr => ?_⟩
  · obtain ⟨m, hm, rfl⟩ := List.mem_map.1 hr
    exact mem_runs.2 (isRun_of_mem_stretch hm)
  · obtain ⟨pre, post, htext, hspan, -⟩ := (mem_runs.1 hr).between
    obtain ⟨c, cs, hchars⟩ := List.exists_cons_of_ne_nil (mem_runs.1 hr).ne_nil
    have hc : S.mem c = true := (mem_runs.1 hr).all c (by simp [hchars])
    have htext' : text = pre ++ c :: (cs ++ post) := by rw [htext, hchars, List.append_assoc]; rfl
    obtain ⟨m, hm, hle, hlt⟩ := covers_stretch (i := i) htext' hc
    have hstart : r.span.start = byteLength pre := by rw [hspan]
    rw [← hstart] at hle hlt
    have heq := Text.eq_of_mem_runs hr (mem_runs.2 (isRun_of_mem_stretch hm)) hle hlt
    exact List.mem_map.2 ⟨m, hm, heq.symm⟩

end Program

end ProseLint.Pattern
