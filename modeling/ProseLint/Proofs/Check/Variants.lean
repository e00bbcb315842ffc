/-
When consistency checks raise alerts. A use of a variant is a match with its group, unless the group is
masked. What a check does depends on the uses alone, in the order of the texts, the matches and the pairs
(`Check.found_eq_raise`): each of them is noted, and an alert is raised at the first use of a variant whose
other variant has been used before. So over any number of texts that share a context each pair has one
alert if both its variants are used, at the first use of the one that comes second, and no other alert
(`Check.consistency_raises_once`).
-/
import ProseLint.Proofs.Check.Contexts
import ProseLint.Proofs.Rule.Consistency
import Mathlib.Data.List.Induction

namespace ProseLint

open Text (Span)
open Pattern (Match)

namespace Check

/-- A use of a variant in a masked text: its group, the group of the other variant of the pair, and the span
of the group. -/
structure Use where
  name : String
  other : String
  text : Masked
  span : Span

/-- The use of a pair that a match makes. It counts for the first variant if the group of this takes part,
and else for the second. A group that is masked does not count. -/
def use? (p : Pattern) (t : Masked) (m : Match) (pair : String × String) : Option Use :=
  match (p.indexOf? pair.1).bind m.group? with
  | some s => if t.isMasked s then none else some ⟨pair.1, pair.2, t, s⟩
  | none =>
    match (p.indexOf? pair.2).bind m.group? with
    | some s => if t.isMasked s then none else some ⟨pair.2, pair.1, t, s⟩
    | none => none

/-- The uses of pairs in a text, in the order of the matches. -/
def uses (p : Pattern) (pairs : List (String × String)) (t : Masked) : List Use :=
  (p.findAll t.copy).flatMap fun m => pairs.filterMap (use? p t m)

/-- The alert at a use. It quotes what is used. -/
def useAlert (c : Check) (u : Use) : Alert := c.alert u.span [u.text.slice u.span]

/-- The alerts at uses: at each one that is the first of its variant, when the other variant has been used. -/
def raise (c : Check) : Context → List Use → List Alert
  | _, [] => []
  | ctx, u :: us =>
    (if !ctx.contains u.name && ctx.contains u.other then [c.useAlert u] else []) ++ raise c (ctx.push u.name) us

/-! ## What a run makes of the uses -/

section Runs

variable {c : Check} {p : Pattern} {pairs : List (String × String)} {ctx : Context} {t : Masked}

theorem raise_append (c : Check) (ctx : Context) (us vs : List Use) :
    raise c ctx (us ++ vs) = raise c ctx us ++ raise c ((us.map (·.name)).foldl Context.push ctx) vs := by
  induction us generalizing ctx with
  | nil => rfl
  | cons u us ih => rw [List.cons_append, raise, raise, ih, List.append_assoc, List.map_cons, List.foldl_cons]

theorem raise_eq_nil {us : List Use} (h : ∀ u ∈ us, ctx.contains u.name = true) : raise c ctx us = [] := by
  induction us generalizing ctx with
  | nil => rfl
  | cons u us ih =>
    have hrest : raise c (ctx.push u.name) us = [] := ih fun v hv => by
      rw [Context.contains_push, h v (List.mem_cons_of_mem _ hv), Bool.or_true]
    rw [raise, hrest, h u List.mem_cons_self]
    rfl

theorem shown?_ofPair (p : Pattern) (t : Masked) (m : Match) (pair : String × String) :
    shown? t m (.ofPair p pair) = (use? p t m pair).map (·.name) := by
  unfold shown? Variants.used? use?
  simp only [Variants.ofPair]
  cases (p.indexOf? pair.1).bind m.group? with
  | some s => cases hs : t.isMasked s <;> simp [Option.filter, hs]
  | none =>
    cases (p.indexOf? pair.2).bind m.group? with
    | some s => cases hs : t.isMasked s <;> simp [Option.filter, hs]
    | none => rfl

/-- A pair becomes complete when one of its variants is noted first and the other has been noted. -/
theorem completes_iff (ctx : Context) {a b name other : String} (hab : a ≠ b)
    (h : name = a ∧ other = b ∨ name = b ∧ other = a) :
    (!(ctx.contains a && ctx.contains b) && ((ctx.push name).contains a && (ctx.push name).contains b)) =
      (!ctx.contains name && ctx.contains other) := by
  rcases h with ⟨rfl, rfl⟩ | ⟨rfl, rfl⟩
  · simp only [Context.contains_push, beq_self_eq_true, Bool.true_or, Bool.true_and, beq_false_of_ne hab.symm,
      Bool.false_or]
    cases ctx.contains other <;> simp
  · simp only [Context.contains_push, beq_self_eq_true, Bool.true_or, Bool.and_true, beq_false_of_ne hab,
      Bool.false_or]
    cases ctx.contains other <;> simp

/-- **One pair.** The alert is the one at the use. -/
theorem notePair_eq_raise {pair : String × String} (hne : pair.1 ≠ pair.2) (m : Match) :
    (c.notePair t m ctx (.ofPair p pair)).1.toList = raise c ctx (use? p t m pair).toList := by
  have hfirst := completes_iff ctx hne (.inl ⟨rfl, rfl⟩)
  have hsecond := completes_iff ctx hne (.inr ⟨rfl, rfl⟩)
  unfold notePair Variants.used? use?
  simp only [Variants.ofPair, Variants.complete]
  cases (p.indexOf? pair.1).bind m.group? with
  | some s =>
    by_cases hs : t.isMasked s = true
    · simp only [hs, if_true]
      rfl
    · simp only [hs, if_false, hfirst, Option.toList_some, raise, List.append_nil, Bool.false_eq_true]
      cases !ctx.contains pair.1 && ctx.contains pair.2 <;> rfl
  | none =>
    cases (p.indexOf? pair.2).bind m.group? with
    | some s =>
      by_cases hs : t.isMasked s = true
      · simp only [Option.map_some, hs, if_true]
        rfl
      · simp only [Option.map_some, hs, if_false, hsecond, Option.toList_some, raise, List.append_nil,
          Bool.false_eq_true]
        cases !ctx.contains pair.2 && ctx.contains pair.1 <;> rfl
    | none => rfl

/-- **One match.** -/
theorem notePairs_eq_raise (hne : ∀ pair ∈ pairs, pair.1 ≠ pair.2) (m : Match) :
    (c.notePairs t m ctx (pairs.map (Variants.ofPair p))).1 = raise c ctx (pairs.filterMap (use? p t m)) := by
  induction pairs generalizing ctx with
  | nil => rfl
  | cons pair pairs ih =>
    have hsplit : (pair :: pairs).filterMap (use? p t m) =
        (use? p t m pair).toList ++ pairs.filterMap (use? p t m) := by
      rw [List.filterMap_cons]
      cases use? p t m pair <;> rfl
    have hctx : (c.notePair t m ctx (.ofPair p pair)).2 =
        ((use? p t m pair).toList.map (·.name)).foldl Context.push ctx := by
      rw [notePair_context, shown?_ofPair]
      cases use? p t m pair <;> rfl
    rw [hsplit, raise_append, ← hctx, ← notePair_eq_raise (hne pair List.mem_cons_self)]
    exact congrArg _ (ih fun q hq => hne q (List.mem_cons_of_mem _ hq))

theorem notePairs_names (p : Pattern) (t : Masked) (m : Match) (pairs : List (String × String)) :
    (pairs.map (Variants.ofPair p)).filterMap (shown? t m) = (pairs.filterMap (use? p t m)).map (·.name) := by
  rw [List.filterMap_map, List.map_filterMap]
  exact congrArg (List.filterMap · pairs) (funext fun pair => shown?_ofPair p t m pair)

theorem noteMatches_eq_raise (hne : ∀ pair ∈ pairs, pair.1 ≠ pair.2) (ms : List Match) :
    (c.noteMatches t (pairs.map (Variants.ofPair p)) ctx ms).1 =
      raise c ctx (ms.flatMap fun m => pairs.filterMap (use? p t m)) := by
  induction ms generalizing ctx with
  | nil => rfl
  | cons m ms ih =>
    have hctx : (c.notePairs t m ctx (pairs.map (Variants.ofPair p))).2 =
        ((pairs.filterMap (use? p t m)).map (·.name)).foldl Context.push ctx := by
      rw [notePairs_context, notePairs_names]
    rw [List.flatMap_cons, raise_append, ← hctx, ← notePairs_eq_raise hne]
    exact congrArg _ ih

theorem noted_eq_names (hc : c.matcher = .consistency p pairs) (t : Masked) :
    c.noted t = (uses p pairs t).map (·.name) := by
  rw [noted, hc, uses, List.map_flatMap]
  exact congrArg (List.flatMap · _) (funext fun m => notePairs_names p t m pairs)

/-- **One text.** -/
theorem run_eq_raise (hc : c.matcher = .consistency p pairs) (hne : ∀ pair ∈ pairs, pair.1 ≠ pair.2) (t : Masked)
    (ctx : Context) (host : ScriptHost) : (c.run t ctx host).1 = raise c ctx (uses p pairs t) := by
  rw [run, hc]
  exact noteMatches_eq_raise hne _

theorem after_eq_names (hc : c.matcher = .consistency p pairs) (ctx : Context) (ts : List Masked) (host : ScriptHost) :
    ctx.after (ts.map (⟨c, ·, host⟩)) = ((ts.flatMap (uses p pairs)).map (·.name)).foldl Context.push ctx := by
  induction ts generalizing ctx with
  | nil => rfl
  | cons t ts ih =>
    rw [List.map_cons, Context.after, List.foldl_cons, ← Context.after, ih, Context.afterRun_eq, CheckRun.noted,
      noted_eq_names hc, List.flatMap_cons, List.map_append, List.foldl_append]

/-- **Several texts, one after another.** -/
theorem found_eq_raise (hc : c.matcher = .consistency p pairs) (hne : ∀ pair ∈ pairs, pair.1 ≠ pair.2)
    (ctx : Context) (ts : List Masked) (host : ScriptHost) :
    ctx.found (ts.map (⟨c, ·, host⟩)) = raise c ctx (ts.flatMap (uses p pairs)) := by
  induction ts generalizing ctx with
  | nil => rfl
  | cons t ts ih =>
    have hctx : ctx.afterRun ⟨c, t, host⟩ = ((uses p pairs t).map (·.name)).foldl Context.push ctx := by
      rw [Context.afterRun_eq, CheckRun.noted, noted_eq_names hc]
    rw [List.map_cons, Context.found, ih, hctx, run_eq_raise hc hne, List.flatMap_cons, raise_append]

end Runs

/-! ## Pairs and their variants -/

section Pairs

variable {pairs : List (String × String)}

/-- Two names are the variants of one of the pairs. -/
def Partners (pairs : List (String × String)) (name other : String) : Prop :=
  ∃ pair ∈ pairs, (name, other) = pair ∨ (other, name) = pair

theorem Partners.symm {name other : String} (h : Partners pairs name other) : Partners pairs other name := by
  obtain ⟨pair, hpair, h⟩ := h
  exact ⟨pair, hpair, h.symm⟩

theorem partners_of_mem_uses {p : Pattern} {t : Masked} {u : Use} (h : u ∈ uses p pairs t) :
    Partners pairs u.name u.other := by
  obtain ⟨m, -, h⟩ := List.mem_flatMap.1 h
  obtain ⟨pair, hpair, h⟩ := List.mem_filterMap.1 h
  refine ⟨pair, hpair, ?_⟩
  unfold use? at h
  split at h
  · split at h
    · cases h
    · exact .inl (Option.some.inj h ▸ rfl)
  · split at h
    · split at h
      · cases h
      · exact .inr (Option.some.inj h ▸ rfl)
    · cases h

/-- Two pairs have no name in common. -/
def NoneShared (a b : String × String) : Prop := ∀ n, (n = a.1 ∨ n = a.2) → ¬ (n = b.1 ∨ n = b.2)

instance : Std.Symm NoneShared := ⟨fun _ _ h n hb ha => h n ha hb⟩

theorem pairwise_noneShared (hnodup : (Rule.sides pairs).Nodup) : pairs.Pairwise NoneShared := by
  refine (List.nodup_flatMap.1 hnodup).2.imp fun {a b} hdisjoint n ha hb => ?_
  exact hdisjoint (by simpa using ha) (by simpa using hb)

theorem ne_of_nodup_sides (hnodup : (Rule.sides pairs).Nodup) {pair : String × String} (h : pair ∈ pairs) :
    pair.1 ≠ pair.2 := by
  have hpair := (List.nodup_flatMap.1 hnodup).1 pair h
  simpa using hpair

/-- **A variant has one partner.** -/
theorem Partners.unique (hnodup : (Rule.sides pairs).Nodup) {name other other' : String}
    (h : Partners pairs name other) (h' : Partners pairs name other') : other = other' := by
  obtain ⟨a, ha, hname⟩ := h
  obtain ⟨b, hb, hname'⟩ := h'
  have hab : a = b := by
    by_contra hne
    refine (pairwise_noneShared hnodup).forall ha hb hne name ?_ ?_
    · rcases hname with rfl | rfl <;> simp
    · rcases hname' with rfl | rfl <;> simp
  subst hab
  have hne := ne_of_nodup_sides hnodup ha
  rcases hname with rfl | rfl <;> rcases hname' with heq | heq <;> simp_all

theorem Partners.ne (hnodup : (Rule.sides pairs).Nodup) {name other : String} (h : Partners pairs name other) :
    name ≠ other := by
  obtain ⟨pair, hpair, rfl | rfl⟩ := h
  · exact ne_of_nodup_sides hnodup hpair
  · exact (ne_of_nodup_sides hnodup hpair).symm

end Pairs

/-! ## Where pairs become complete -/

section Completions

variable {us : List Use} {pairs : List (String × String)} {c : Check} {ctx : Context}

def names (us : List Use) : List String := us.map (·.name)

/-- Where both variants of a pair have been used for the first time: at the first use of the one that comes
second. -/
def completion? (us : List Use) (pair : String × String) : Option Nat :=
  if pair.1 ∈ names us ∧ pair.2 ∈ names us then
    some (max ((names us).idxOf pair.1) ((names us).idxOf pair.2))
  else none

/-- A use is the first one of its variant, and the other variant has been used before. -/
def CompletesAt (us : List Use) (i : Nat) : Prop :=
  ∃ u ∈ us[i]?, u.name ∉ names (us.take i) ∧ u.other ∈ names (us.take i)

instance (us : List Use) (i : Nat) : Decidable (CompletesAt us i) :=
  inferInstanceAs (Decidable (∃ u ∈ us[i]?, _ ∧ _))

/-- The uses that complete a pair, in order. -/
def completions (us : List Use) : List Nat := (List.range us.length).filter fun i => decide (CompletesAt us i)

theorem names_take (us : List Use) (i : Nat) : names (us.take i) = (names us).take i := List.map_take

/-- A name stands first where it stands and does not before. -/
theorem first_iff {ns : List String} {n : String} {i : Nat} :
    ns[i]? = some n ∧ n ∉ ns.take i ↔ n ∈ ns ∧ ns.idxOf n = i := by
  constructor
  · rintro ⟨hi, hnew⟩
    have hmem := List.mem_of_getElem? hi
    have hle : n ∈ ns.take (i + 1) := by
      rw [List.take_add_one, hi]
      simp
    rw [List.mem_take_iff_idxOf_lt hmem] at hnew hle
    exact ⟨hmem, by omega⟩
  · rintro ⟨hmem, rfl⟩
    exact ⟨List.getElem?_idxOf hmem, fun hlt => Nat.lt_irrefl _ ((List.mem_take_iff_idxOf_lt hmem).1 hlt)⟩

/-- **A use completes a pair if it is the first one of its variant and later than the first one of the other.** -/
theorem completesAt_iff_first (hnodup : (Rule.sides pairs).Nodup) (hus : ∀ u ∈ us, Partners pairs u.name u.other)
    {i : Nat} :
    CompletesAt us i ↔ ∃ name other, Partners pairs name other ∧ name ∈ names us ∧ other ∈ names us ∧
      (names us).idxOf other < (names us).idxOf name ∧ (names us).idxOf name = i := by
  simp only [CompletesAt, names_take]
  constructor
  · rintro ⟨u, hu, hnew, hother⟩
    have hname : (names us)[i]? = some u.name := by rw [names, List.getElem?_map, hu, Option.map_some]
    obtain ⟨hmem, hidx⟩ := first_iff.1 ⟨hname, hnew⟩
    have hmem' := List.mem_of_mem_take hother
    exact ⟨_, _, hus u (List.mem_of_getElem? hu), hmem, hmem', hidx ▸ (List.mem_take_iff_idxOf_lt hmem').1 hother, hidx⟩
  · rintro ⟨name, other, hpartners, hmem, hmem', hlt, hidx⟩
    obtain ⟨hname, hnew⟩ := first_iff.2 ⟨hmem, hidx⟩
    rw [names, List.getElem?_map, Option.map_eq_some_iff] at hname
    obtain ⟨u, hu, rfl⟩ := hname
    obtain rfl := hpartners.unique hnodup (hus u (List.mem_of_getElem? hu))
    exact ⟨u, hu, hnew, (List.mem_take_iff_idxOf_lt hmem').2 (hidx ▸ hlt)⟩

theorem completion?_eq_some {pair : String × String} {i : Nat} : completion? us pair = some i ↔
    (pair.1 ∈ names us ∧ pair.2 ∈ names us) ∧ max ((names us).idxOf pair.1) ((names us).idxOf pair.2) = i := by
  unfold completion?
  split
  · rename_i h
    simp [h]
  · rename_i h
    simp [h]

/-- **Each use that completes a pair does so where the pair has its completion.** -/
theorem completesAt_iff (hnodup : (Rule.sides pairs).Nodup) (hus : ∀ u ∈ us, Partners pairs u.name u.other) {i : Nat} :
    CompletesAt us i ↔ ∃ pair ∈ pairs, completion? us pair = some i := by
  rw [completesAt_iff_first hnodup hus]
  constructor
  · rintro ⟨name, other, ⟨pair, hpair, rfl | rfl⟩, hmem, hmem', hlt, hidx⟩
    · exact ⟨_, hpair, completion?_eq_some.2 ⟨⟨hmem, hmem'⟩, by simp only; omega⟩⟩
    · exact ⟨_, hpair, completion?_eq_some.2 ⟨⟨hmem', hmem⟩, by simp only; omega⟩⟩
  · rintro ⟨pair, hpair, h⟩
    obtain ⟨⟨hfirst, hsecond⟩, hmax⟩ := completion?_eq_some.1 h
    have hne := ne_of_nodup_sides hnodup hpair
    have hidx : (names us).idxOf pair.1 ≠ (names us).idxOf pair.2 := fun heq => hne ((List.idxOf_inj hfirst).1 heq)
    have hpartners : Partners pairs pair.1 pair.2 := ⟨pair, hpair, .inl rfl⟩
    rcases Nat.lt_or_ge ((names us).idxOf pair.1) ((names us).idxOf pair.2) with hlt | hge
    · exact ⟨pair.2, pair.1, hpartners.symm, hsecond, hfirst, hlt, by omega⟩
    · exact ⟨pair.1, pair.2, hpartners, hfirst, hsecond, by omega, by omega⟩

/-- **The completions are those of the pairs**, one for each pair of which both variants are used. -/
theorem completions_perm (hnodup : (Rule.sides pairs).Nodup) (hus : ∀ u ∈ us, Partners pairs u.name u.other) :
    (completions us).Perm (pairs.filterMap (completion? us)) := by
  have hname {pair : String × String} {i : Nat} (h : completion? us pair = some i) :
      ∃ n, (n = pair.1 ∨ n = pair.2) ∧ (names us)[i]? = some n := by
    obtain ⟨⟨hfirst, hsecond⟩, hmax⟩ := completion?_eq_some.1 h
    rcases Nat.le_total ((names us).idxOf pair.1) ((names us).idxOf pair.2) with hle | hle
    · exact ⟨pair.2, .inr rfl, by rw [← hmax, Nat.max_eq_right hle, List.getElem?_idxOf hsecond]⟩
    · exact ⟨pair.1, .inl rfl, by rw [← hmax, Nat.max_eq_left hle, List.getElem?_idxOf hfirst]⟩
  have hnodup' : (pairs.filterMap (completion? us)).Nodup := by
    refine List.pairwise_filterMap.2 ((pairwise_noneShared hnodup).imp fun {a b} hshared i hi j hj hij => ?_)
    obtain ⟨n, hn, hni⟩ := hname hi
    obtain ⟨m, hm, hmj⟩ := hname hj
    obtain rfl : n = m := Option.some.inj (hni.symm.trans (hij ▸ hmj))
    exact hshared n hn hm
  refine (List.perm_ext_iff_of_nodup (List.nodup_range.filter _) hnodup').2 fun i => ?_
  rw [List.mem_filter, decide_eq_true_iff, List.mem_range, List.mem_filterMap, ← completesAt_iff hnodup hus,
    and_iff_right_iff_imp]
  rintro ⟨u, hu, -⟩
  exact (List.getElem?_eq_some_iff.1 hu).1

theorem completions_increasing (us : List Use) : (completions us).Pairwise (· < ·) :=
  List.pairwise_lt_range.filter _

/-! ## Alerts -/

theorem completesAt_append {vs : List Use} {i : Nat} (hi : i < us.length) :
    CompletesAt (us ++ vs) i ↔ CompletesAt us i := by
  rw [CompletesAt, CompletesAt, List.getElem?_append_left hi, List.take_append_of_le_length (Nat.le_of_lt hi)]

theorem completesAt_concat {u : Use} :
    CompletesAt (us ++ [u]) us.length ↔ u.name ∉ names us ∧ u.other ∈ names us := by
  rw [CompletesAt, List.getElem?_concat_length, List.take_left]
  simp

theorem completions_concat (us : List Use) (u : Use) : completions (us ++ [u]) =
    completions us ++ if u.name ∉ names us ∧ u.other ∈ names us then [us.length] else [] := by
  have hbefore : (List.range us.length).filter (fun i => decide (CompletesAt (us ++ [u]) i)) = completions us :=
    List.filter_congr fun i hi => by simp only [completesAt_append (List.mem_range.1 hi)]
  rw [completions, List.length_append, List.length_singleton, List.range_succ, List.filter_append, hbefore,
    List.filter_singleton, cond_eq_ite]
  simp only [completesAt_concat, decide_eq_true_iff]

/-- **On a context without the names of the pairs, the alerts stand where pairs become complete.** -/
theorem raise_completions (c : Check) (hus : ∀ u ∈ us, ctx.contains u.name = false ∧ ctx.contains u.other = false) :
    List.Forall₂ (fun i a => ∃ u, us[i]? = some u ∧ a = c.useAlert u) (completions us) (raise c ctx us) := by
  induction us using List.reverseRecOn with
  | nil => exact .nil
  | append_singleton us u ih =>
    have hbefore := ih fun v hv => hus v (List.mem_append_left _ hv)
    obtain ⟨hname, hother⟩ := hus u (by simp)
    have hctx (n : String) : ((us.map (·.name)).foldl Context.push ctx).contains n = true ↔
        ctx.contains n = true ∨ n ∈ names us := by
      rw [Context.contains_foldl_push, Bool.or_eq_true, List.contains_iff_mem, names]
    have hraise : raise c ((us.map (·.name)).foldl Context.push ctx) [u] =
        if u.name ∉ names us ∧ u.other ∈ names us then [c.useAlert u] else [] := by
      simp only [raise, List.append_nil]
      refine if_congr ?_ rfl rfl
      rw [Bool.and_eq_true, Bool.not_eq_true', Bool.eq_false_iff, ne_eq, hctx, hctx, hname, hother]
      simp
    have hbefore' : List.Forall₂ (fun i a => ∃ v, (us ++ [u])[i]? = some v ∧ a = c.useAlert v) (completions us)
        (raise c ctx us) := by
      refine hbefore.imp fun i a hv => ?_
      obtain ⟨v, hv, ha⟩ := hv
      exact ⟨v, by rw [List.getElem?_append_left (List.getElem?_eq_some_iff.1 hv).1, hv], ha⟩
    rw [completions_concat, raise_append, hraise]
    refine List.rel_append hbefore' ?_
    split
    · exact .cons ⟨u, List.getElem?_concat_length, rfl⟩ .nil
    · exact .nil

end Completions

/-- What a consistency check does on texts that share a context. -/
structure RaisesOnce (c : Check) (p : Pattern) (pairs : List (String × String)) (ctx : Context) (ts : List Masked)
    (host : ScriptHost) : Prop where
  /-- There is one alert for each pair of which both variants are used, at the first use of the one that comes
  second, and the alerts are in the order of the uses. -/
  alerts : ∃ places : List Nat, places.Pairwise (· < ·) ∧
    places.Perm (pairs.filterMap (completion? (ts.flatMap (uses p pairs)))) ∧
    List.Forall₂ (fun i a => ∃ u, (ts.flatMap (uses p pairs))[i]? = some u ∧ a = c.useAlert u) places
      (ctx.found (ts.map (⟨c, ·, host⟩)))
  /-- Each use is noted, in order. -/
  notes : (ctx.after (ts.map (⟨c, ·, host⟩))).notes = ctx.notes ++ (ts.flatMap (uses p pairs)).map (·.name)
  /-- Another run on one of the texts finds nothing. -/
  again : ∀ t ∈ ts, (c.run t (ctx.after (ts.map (⟨c, ·, host⟩))) host).1 = []

/-- **A consistency check raises the alert of a pair once, at the right use.** On a context that knows none
of its groups, and over any texts that it is run on one after another, it raises one alert for each pair of
which both variants are used, where the variant that comes second is used first. It notes each use, and what
it has been run on gives no more alerts. -/
theorem consistency_raises_once {d : Definition} {stylesPath : Option String} {fs : Files} {c : Check}
    (h : d.compile stylesPath fs = .ok c) (hkind : c.IsConsistency) :
    ∃ variants nonword p, d.kind = .consistency variants nonword ∧
      Pattern.ofText? (d.consistencySource variants nonword) = some p ∧
      c.matcher = .consistency p (Rule.pairNames d.name 0 variants) ∧
      ∀ ctx : Context, (∀ n ∈ c.groupNames, ctx.contains n = false) → ∀ (ts : List Masked) (host : ScriptHost),
        RaisesOnce c p (Rule.pairNames d.name 0 variants) ctx ts host := by
  obtain ⟨p, pairs, hmatcher⟩ := hkind
  have hmakes := (Definition.makes_of_compile h).2
  rw [hmatcher] at hmakes
  obtain ⟨variants, nonword, hd, hp, rfl⟩ := hmakes
  refine ⟨variants, nonword, p, hd, hp, hmatcher, fun ctx hctx ts host => ?_⟩
  have hnodup := Rule.nodup_sides_pairNames d.name 0 variants
  have hne : ∀ pair ∈ Rule.pairNames d.name 0 variants, pair.1 ≠ pair.2 := fun _ => ne_of_nodup_sides hnodup
  let us := ts.flatMap (uses p (Rule.pairNames d.name 0 variants))
  have hus : ∀ u ∈ us, Partners (Rule.pairNames d.name 0 variants) u.name u.other := fun u hu => by
    obtain ⟨t, -, hu⟩ := List.mem_flatMap.1 hu
    exact partners_of_mem_uses hu
  have hnew : ∀ u ∈ us, ctx.contains u.name = false ∧ ctx.contains u.other = false := fun u hu => by
    obtain ⟨pair, hpair, hname⟩ := hus u hu
    have hgroups : pair.1 ∈ c.groupNames ∧ pair.2 ∈ c.groupNames := by
      rw [groupNames, hmatcher]
      exact ⟨List.mem_flatMap.2 ⟨pair, hpair, by simp⟩, List.mem_flatMap.2 ⟨pair, hpair, by simp⟩⟩
    rcases hname with rfl | rfl
    · exact ⟨hctx _ hgroups.1, hctx _ hgroups.2⟩
    · exact ⟨hctx _ hgroups.2, hctx _ hgroups.1⟩
  exact {
    alerts := by
      rw [found_eq_raise hmatcher hne]
      exact ⟨completions us, completions_increasing us, completions_perm hnodup hus, raise_completions c hnew⟩
    notes := by rw [after_eq_names hmatcher, Context.notes_foldl_push]
    again := fun t ht => by
      rw [run_eq_raise hmatcher hne, after_eq_names hmatcher]
      refine raise_eq_nil fun u hu => ?_
      rw [Context.contains_foldl_push, Bool.or_eq_true, List.contains_iff_mem]
      exact .inr (List.mem_map_of_mem (List.mem_flatMap.2 ⟨t, ht, hu⟩)) }

/-- A rule that wants one spelling of two words used throughout. -/
def twoSpellings : Definition :=
  { Engine.spellingRule Engine.colorName "color" "colour" with
    kind := .consistency [("color", "colour"), ("gray", "grey")] true }

/-- Both words are spelled one way in a text and the other way in the next one, where they are flagged once. -/
theorem consistency_raises_once_spellings :
    ∃ c, twoSpellings.compile none .empty = .ok c ∧ c.IsConsistency ∧
      (∀ n ∈ c.groupNames, (Context.fresh "text").contains n = false) ∧
      ((Context.fresh "text").found ([.unmasked "colour gray".toList, .unmasked "grey color grey".toList].map
        (⟨c, ·, Engine.noScripts⟩))).map (·.span) = [⟨0, 4⟩, ⟨5, 10⟩] ∧
      ∃ p pairs, c.matcher = .consistency p pairs ∧ RaisesOnce c p pairs (.fresh "text")
        [.unmasked "colour gray".toList, .unmasked "grey color grey".toList] Engine.noScripts := by
  have hcompile : (twoSpellings.compile none .empty).toOption.map (fun c => (c.matcher.kindName,
      ((Context.fresh "text").found ([.unmasked "colour gray".toList, .unmasked "grey color grey".toList].map
        (⟨c, ·, Engine.noScripts⟩))).map (·.span))) = some ("consistency", [⟨0, 4⟩, ⟨5, 10⟩]) := by
    decide +kernel
  obtain ⟨c, hc, hrun⟩ := Rule.exists_of_toOption_map hcompile
  obtain ⟨hname, hspans⟩ := Prod.mk.inj hrun
  have hkind := isConsistency_of_kindName hname
  have hnew : ∀ n ∈ c.groupNames, (Context.fresh "text").contains n = false := fun n _ => Context.contains_fresh _ _
  obtain ⟨variants, -, p, -, -, hmatcher, honce⟩ := consistency_raises_once hc hkind
  exact ⟨c, hc, hkind, hnew, hspans, p, _, hmatcher, honce _ hnew _ _⟩

end Check

end ProseLint
