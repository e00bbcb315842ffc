/-
Choices of groups with names. The texts of the groups stand between bars in a group that does not capture,
between word edges or not. Where each can be read alone and in a group, the pattern has all the names, and
in every match exactly one of the groups takes part (`Pattern.existsUnique_name`).
-/
import ProseLint.Proofs.Pattern.Frame
import ProseLint.Proofs.Pattern.Levels

namespace ProseLint

namespace Pattern

/-! ## Reading -/

/-- Whether a text is a pattern alone and in parentheses. -/
def standsAlone (e : String) : Bool := (ofText? e).isSome && (ofText? ("(" ++ e ++ ")")).isSome

namespace Reader

variable {f : Flags} {r s p : Reader} {t : List Char} {k : Nat}

/-- **A text that is a pattern alone and in parentheses fits into a group.** -/
theorem exists_fits {e : String} (h : standsAlone e = true) (hf : f.plain = .initial) :
    ∃ r, Fits f e.toList r := by
  obtain ⟨halone, hparens⟩ := Bool.and_eq_true_iff.1 h
  obtain ⟨p, hp⟩ := Option.isSome_iff_exists.1 halone
  obtain ⟨p', hp'⟩ := Option.isSome_iff_exists.1 hparens
  have hverbose : f.verbose = false := congrArg Flags.verbose hf
  obtain ⟨r₀, hr₀, -⟩ := exists_of_ofText? hp
  obtain ⟨r₁, hr₁, -⟩ := exists_of_ofText? hp'
  rw [← String.length_toList] at hr₀
  obtain ⟨r, hr⟩ := exists_read?_under hf hr₀
  have htext : ("(" ++ e ++ ")").toList = enclosed none e.toList ++ [] := by
    have hopen : "(".toList = ['('] := by decide
    have hclose : ")".toList = [')'] := by decide
    rw [String.toList_append, String.toList_append, hopen, hclose, List.append_nil]
    rfl
  rw [htext] at hr₁
  obtain ⟨q, hq⟩ := exists_read?_under hf hr₁
  exact ⟨r, fits_of_read?_enclosed (s := under f) hr hverbose List.not_mem_nil hq⟩

variable {es : List (Option (List Char) × List Char)} {rs : List Reader}

/-- Texts that fit, with bars between them in a group that does not capture, are read to the choice of
their groups. -/
theorem read?_choice (hf : f.verbose = false) (hs : s.Bare f) (hes : List.Forall₂ (fun e r => Fits f e.2 r) es rs)
    (hnames : ∀ e ∈ es, ∀ n ∈ e.1, '>' ∉ n) (hne : es ≠ [])
    (h : s.read? k ('(' :: '?' :: ':' :: (joined es ++ ')' :: t)) = some p) :
    ∃ m depth, ∃ q : Reader, q.read? m t = some p ∧ q.flags = f ∧ q.branches = [] ∧
      q.pieces = ⟨.choice (Program.groupsOf (numbered 0 rs)), depth, false⟩ :: s.pieces ∧
      List.Forall₂ (fun e g => ∀ n ∈ e.1, (g.1, String.ofList n) ∈ q.names) es (numbered 0 rs) := by
  have hverbose : s.flags.verbose = false := by rw [hs.flags, hf]
  obtain ⟨m, x, hx, h⟩ := exists_of_read?_next hverbose h
  obtain rfl := Option.some.inj (hx.symm.trans (step?_plainGroup hverbose _))
  obtain ⟨m, q, h, -, hopened, hbranches, -, hgiven⟩ :=
    read?_joined (s := s.openGroup s.flags none) hf hes hnames hne hs.flags rfl h
  have hgroups : (s.openGroup s.flags none).groups = 0 := hs.groups
  rw [hgroups] at hbranches hgiven
  have hbody : q.body.expr = .choice (Program.groupsOf (numbered 0 rs)) := hbranches.body
  obtain ⟨m, depth, q', h, hflags, hnone, hpieces, hkept⟩ := read?_closed hopened h
  exact ⟨m, depth, q', h, hflags.trans hs.flags, hnone.trans hs.branches, by rw [hpieces, hbody], hkept ▸ hgiven⟩

end Reader

/-- An expression is the choice of groups, with others around it that have no groups. -/
def Expr.ChoiceOf (gs : List (Nat × Expr)) (e : Expr) : Prop :=
  ∃ pre post, e = .sequence (pre ++ .choice (Program.groupsOf gs) :: post) ∧ ∀ d ∈ pre ++ post, d.NoGroups

namespace Reader

variable {f : Flags} {s p : Reader} {k : Nat} {es : List (Option (List Char) × List Char)} {rs : List Reader}

/-- **Texts that fit are read to the choice of their groups between the edges**, behind what has been read before. -/
theorem body_of_joined (hf : f.verbose = false) (hs : s.Bare f)
    (hes : List.Forall₂ (fun e r => Fits f e.2 r) es rs) (hnames : ∀ e ∈ es, ∀ n ∈ e.1, '>' ∉ n) (hne : es ≠ [])
    {alternatives : String} (halternatives : alternatives.toList = joined es) {nonword : Bool}
    (h : s.read? k (Rule.wrap alternatives nonword).toList = some p) :
    p.body.expr = .sequence (s.pieces.reverse.map (·.expr) ++
        (edges f nonword ++ .choice (Program.groupsOf (numbered 0 rs)) :: edges f nonword)) ∧
      List.Forall₂ (fun e g => ∀ n ∈ e.1, (g.1, String.ofList n) ∈ p.names) es (numbered 0 rs) := by
  obtain ⟨m, q, hq, hlead, h⟩ := exists_of_wrap hf hs h
  rw [halternatives] at h
  obtain ⟨m, depth, q', h, hflags, hbranches, hpieces, hgiven⟩ := read?_choice hf hq hes hnames hne h
  obtain ⟨hbody, hnames⟩ := body_of_read?_edgeText hf hflags hbranches h
  refine ⟨?_, hnames ▸ hgiven⟩
  rw [hbody, hpieces, List.reverse_cons, List.map_append, hlead]
  simp

/-- Texts that fit are read to the choice of their groups, and nothing around it has groups. -/
theorem choiceOf_wrap (hf : f.verbose = false) (hs : s.Bare f)
    (hes : List.Forall₂ (fun e r => Fits f e.2 r) es rs) (hnames : ∀ e ∈ es, ∀ n ∈ e.1, '>' ∉ n) (hne : es ≠ [])
    {alternatives : String} (halternatives : alternatives.toList = joined es) {nonword : Bool}
    (h : s.read? k (Rule.wrap alternatives nonword).toList = some p) :
    p.body.expr.ChoiceOf (numbered 0 rs) ∧
      List.Forall₂ (fun e g => ∀ n ∈ e.1, (g.1, String.ofList n) ∈ p.names) es (numbered 0 rs) := by
  obtain ⟨hbody, hgiven⟩ := body_of_joined hf hs hes hnames hne halternatives h
  have hedges : ∀ d ∈ edges f nonword, d.NoGroups := by
    intro d hd
    obtain ⟨a, -, rfl⟩ := List.mem_map.1 hd
    rfl
  have hlead : ∀ d ∈ s.pieces.reverse.map (·.expr), d.NoGroups := by
    intro d hd
    obtain ⟨x, hx, rfl⟩ := List.mem_map.1 hd
    exact hs.pieces x (List.mem_reverse.1 hx)
  refine ⟨⟨s.pieces.reverse.map (·.expr) ++ edges f nonword, edges f nonword, ?_, ?_⟩, hgiven⟩
  · rw [hbody, List.append_assoc]
  · intro d hd
    rw [List.mem_append, List.mem_append] at hd
    rcases hd with (hd | hd) | hd
    · exact hlead d hd
    · exact hedges d hd
    · exact hedges d hd

end Reader

/-! ## Matches -/

namespace Expr

variable {gs : List (Nat × Expr)} {e : Expr}

theorem ChoiceOf.groupIndices (h : e.ChoiceOf gs) :
    e.groupIndices [] = (Program.groupsOf gs).reverse.flatMap (·.groupIndices []) := by
  obtain ⟨pre, post, rfl, hframe⟩ := h
  obtain ⟨hpre, hpost⟩ := List.forall_mem_append.1 hframe
  have hnone : ∀ es : List Expr, (∀ d ∈ es, d.NoGroups) → es.reverse.flatMap (·.groupIndices []) = [] := by
    intro es hes
    exact List.flatMap_eq_nil_iff.2 fun d hd => hes d (List.mem_reverse.1 hd)
  rw [groupIndices_sequence, List.reverse_append, List.reverse_cons, List.flatMap_append, List.flatMap_append,
    List.flatMap_singleton, hnone pre hpre, hnone post hpost, groupIndices_choice, List.append_nil, List.nil_append]

theorem ChoiceOf.index_mem (h : e.ChoiceOf gs) {g : Nat × Expr} (hg : g ∈ gs) : g.1 ∈ e.groupIndices [] := by
  rw [h.groupIndices]
  refine List.mem_flatMap.2 ⟨.group g.1 g.2, List.mem_reverse.2 (List.mem_map.2 ⟨g, hg, rfl⟩), ?_⟩
  rw [Expr.groupIndices, groupIndices_eq]
  exact List.mem_append_right _ (List.mem_singleton_self _)

/-- Where no index is given twice, the groups inside the groups have other indices than these. -/
theorem without_of_nodup (h : ((Program.groupsOf gs).flatMap (·.groupIndices [])).Nodup) {g : Nat × Expr}
    (hg : g ∈ gs) : g.2.Without (gs.map (·.1)) := by
  induction gs with
  | nil => cases hg
  | cons k gs ih =>
    have hindices : (Expr.group k.1 k.2).groupIndices [] = k.2.groupIndices [] ++ [k.1] := by
      rw [Expr.groupIndices, groupIndices_eq]
    change (((Expr.group k.1 k.2) :: Program.groupsOf gs).flatMap (·.groupIndices [])).Nodup at h
    rw [List.flatMap_cons, hindices, List.nodup_append, List.nodup_append] at h
    obtain ⟨⟨-, -, hown⟩, hrest, hapart⟩ := h
    have hmem : ∀ {g : Nat × Expr}, g ∈ gs → ∀ i ∈ g.1 :: g.2.groupIndices [],
        i ∈ (Program.groupsOf gs).flatMap (·.groupIndices []) := by
      intro g hg i hi
      refine List.mem_flatMap.2 ⟨.group g.1 g.2, List.mem_map.2 ⟨g, hg, rfl⟩, ?_⟩
      rw [Expr.groupIndices, groupIndices_eq, List.mem_append, List.mem_singleton]
      exact (List.mem_cons.1 hi).symm
    intro i hi hin
    rw [List.map_cons, List.mem_cons] at hin
    rcases List.mem_cons.1 hg with rfl | hg'
    · rcases hin with rfl | hin
      · exact hown _ hi _ (List.mem_singleton_self _) rfl
      · obtain ⟨g', hg', rfl⟩ := List.mem_map.1 hin
        exact hapart _ (List.mem_append_left _ hi) _ (hmem hg' _ List.mem_cons_self) rfl
    · rcases hin with rfl | hin
      · exact hapart _ (List.mem_append_right _ (List.mem_singleton_self _)) _
          (hmem hg' _ (List.mem_cons_of_mem _ hi)) rfl
      · exact ih hrest hg' i hi hin

end Expr

/-- A name has one index, and no two names have the same. -/
theorem indexOf?_inj {p : Pattern} {n m : String} {i : Nat} (hn : p.indexOf? n = some i)
    (hm : p.indexOf? m = some i) : n = m := by
  have hthere : ∀ {n : String}, p.indexOf? n = some i → p.groupNames[i - 1]? = some (some n) := by
    intro n hn
    obtain ⟨k, hk, rfl⟩ := Option.map_eq_some_iff.1 hn
    obtain ⟨hlt, heq, -⟩ := List.findIdx?_eq_some_iff_getElem.1 hk
    rw [Nat.add_sub_cancel, List.getElem?_eq_getElem hlt, eq_of_beq heq]
  have hsame := (hthere hn).symm.trans (hthere hm)
  exact Option.some.inj (Option.some.inj hsame)

/-- Where groups are taken once, one of them takes part. -/
theorem Match.existsUnique_group? {G : List Nat} {m : Match} (h : (m.groups.filter (·.1 ∈ G)).length = 1)
    (hG : 0 ∉ G) : ∃! i, i ∈ G ∧ (m.group? i).isSome := by
  have hlookup : ∀ i ∈ G, (m.group? i).isSome ↔ ∃ s, (i, s) ∈ m.groups := by
    intro i hi
    have hne : i ≠ 0 := fun heq => hG (heq ▸ hi)
    rw [Match.group?, if_neg hne]
    constructor
    · intro hsome
      obtain ⟨s, hs⟩ := Option.isSome_iff_exists.1 hsome
      obtain ⟨l, l', heq, -⟩ := List.lookup_eq_some_iff.1 hs
      exact ⟨s, by rw [heq]; simp⟩
    · rintro ⟨s, hs⟩
      rw [List.lookup_isSome_iff]
      exact ⟨(i, s), hs, beq_self_eq_true i⟩
  obtain ⟨g, hg⟩ := List.length_eq_one_iff.1 h
  have hmem : g ∈ m.groups.filter (·.1 ∈ G) := by rw [hg]; exact List.mem_singleton_self g
  obtain ⟨hgroup, hin⟩ := List.mem_filter.1 hmem
  have hin : g.1 ∈ G := of_decide_eq_true hin
  refine ⟨g.1, ⟨hin, (hlookup g.1 hin).2 ⟨g.2, hgroup⟩⟩, fun j hj => ?_⟩
  obtain ⟨s, hs⟩ := (hlookup j hj.1).1 hj.2
  have hother : (j, s) ∈ m.groups.filter (·.1 ∈ G) := List.mem_filter.2 ⟨hs, decide_eq_true hj.1⟩
  rw [hg, List.mem_singleton] at hother
  rw [← hother]

/-- **One group of a choice takes part in every match.** Groups inside the groups do not count. -/
theorem existsUnique_group {e : Expr} {gs : List (Nat × Expr)} (he : e.ChoiceOf gs) (hne : gs ≠ [])
    (hordered : (e.groupIndices []).Pairwise (· > ·)) (hpos : ∀ i ∈ e.groupIndices [], 0 < i) {text : List Char}
    {m : Match} (hm : m ∈ (Program.ofExpr e).findAll text) :
    ∃! i, i ∈ gs.map (·.1) ∧ (m.group? i).isSome := by
  have hnodup : ((Program.groupsOf gs).flatMap (·.groupIndices [])).Nodup := by
    have hsorted := hordered
    rw [he.groupIndices] at hsorted
    have hreverse : ((Program.groupsOf gs).reverse.flatMap (·.groupIndices [])).Nodup :=
      hsorted.imp fun h => Nat.ne_of_gt h
    exact (List.Perm.flatMap_right _ (List.reverse_perm _)).nodup_iff.1 hreverse
  have htakes : Program.Leads (gs.map (·.1)) Program.OneTaken (Program.addExpr · e) := by
    obtain ⟨pre, post, rfl, hframe⟩ := he
    have hwithout : ∀ d ∈ pre ++ post, d.Without (gs.map (·.1)) := by
      intro d hd i hi
      rw [hframe d hd] at hi
      cases hi
    obtain ⟨hpre, hpost⟩ := List.forall_mem_append.1 hwithout
    refine Program.Leads.sequence (Program.oneTaken_choice hne fun g hg => ?_) hpre hpost
    exact ⟨List.mem_map_of_mem hg, Expr.without_of_nodup hnodup hg⟩
  obtain ⟨level, hlevelled⟩ := Program.exists_levelled htakes
  have hzero : 0 ∉ gs.map (·.1) := by
    intro hin
    obtain ⟨g, hg, hzero⟩ := List.mem_map.1 hin
    have := hpos g.1 (he.index_mem hg)
    omega
  exact Match.existsUnique_group? (hlevelled.taken_of_mem_findAll hm) hzero

/-- **The groups of a choice can be told apart by their names**: each name is that of a group, and in every
match exactly one of the groups takes part. -/
theorem existsUnique_name {source : String} {p : Pattern} {r : Reader} {gs : List (Nat × Expr)}
    {names : List String} (h : ofText? source = some p)
    (hr : Reader.initial.read? source.length source.toList = some r) (he : r.body.expr.ChoiceOf gs) (hne : gs ≠ [])
    (hgiven : List.Forall₂ (fun n g => (g.1, n) ∈ r.names) names gs) :
    (∀ n ∈ names, (p.indexOf? n).isSome) ∧
      ∀ text, ∀ m ∈ p.findAll text, ∃! n, n ∈ names ∧ ((p.indexOf? n).bind m.group?).isSome := by
  obtain ⟨r', hr', hprogram, hnames, -⟩ := exists_of_ofText? h
  obtain rfl : r = r' := Option.some.inj (hr.symm.trans hr')
  obtain ⟨hsorted, hpos⟩ := (Reader.ordered_initial.read? hr).body (Reader.opened_of_read? hr)
  obtain ⟨hleft, hright⟩ := exists_mem_of_forall₂ hgiven
  have hpresent : ∀ g ∈ gs, g.1 ∈ r.body.expr.groupIndices [] := fun g hg => he.index_mem hg
  have hindex : ∀ n ∈ names, ∃ g ∈ gs, p.indexOf? n = some g.1 := by
    intro n hn
    obtain ⟨g, hg, hname⟩ := hleft n hn
    exact ⟨g, hg, indexOf?_of_mem hr hnames (hpresent g hg) hname⟩
  refine ⟨fun n hn => ?_, fun text m hm => ?_⟩
  · obtain ⟨g, -, hg⟩ := hindex n hn
    rw [hg]
    rfl
  · rw [findAll, hprogram] at hm
    obtain ⟨i, ⟨hi, htook⟩, honly⟩ := existsUnique_group he hne hsorted hpos hm
    obtain ⟨g, hg, rfl⟩ := List.mem_map.1 hi
    obtain ⟨n, hn, hname⟩ := hright g hg
    have hown : p.indexOf? n = some g.1 := indexOf?_of_mem hr hnames (hpresent g hg) hname
    refine ⟨n, ⟨hn, by rw [hown]; exact htook⟩, fun k hk => ?_⟩
    obtain ⟨g', hg', hother⟩ := hindex k hk.1
    have htook' := hk.2
    rw [hother] at htook'
    have hsame : g'.1 = g.1 := honly g'.1 ⟨List.mem_map_of_mem hg', htook'⟩
    exact indexOf?_inj (hother.trans (congrArg some hsame)) hown

end Pattern

end ProseLint
