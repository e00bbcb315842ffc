/-
Addresses in texts and in copies. The pattern of addresses matches what spells an `Address`
(`matches_addressExpr`). A copy has none: where a range starts, an address starts in the text, so whatever
looks like an address in the copy is one in the text already, and is masked. So masking a copy changes
nothing (`mask_mask`). Of what an address is made of only one character may be a blank
(`second_of_masked_blank`).
-/
import ProseLint.Proofs.Mask.Exact
import ProseLint.Proofs.Pattern.Stretches

namespace ProseLint

open Text (Span byteLength)
open Pattern (Place Expr)
open Pattern.Place (Spells between in_iff spells_iff spells_append)

/-! ## Addresses -/

/-- What addresses start with. -/
def addressSchemes : List (List Char) := ["http".toList, "https".toList, "ftp".toList]

/-- An address: a scheme, slashes, two characters and others that are no blanks. The first of the two is
none of a few, the second may be anything but a line feed. -/
structure Address where
  scheme : List Char
  first : Char
  second : Char
  others : List Char
  scheme_mem : scheme ∈ addressSchemes
  first_mem : addressHead.mem first = true
  second_ne : second ≠ '\n'
  others_shown : ∀ c ∈ others, Unicode.isBlank c = false

namespace Address

def lead (a : Address) : List Char := a.scheme ++ "://".toList

def chars (a : Address) : List Char := a.lead ++ a.first :: a.second :: a.others

theorem byteLength_pos (a : Address) : 0 < byteLength a.chars := by
  refine Nat.pos_of_ne_zero fun h => ?_
  have hnil := Text.byteLength_eq_zero.1 h
  simp [chars] at hnil

theorem shown_lead (a : Address) : ∀ c ∈ a.lead, Unicode.isBlank c = false ∧ c ≠ filler := by
  have hall : (addressSchemes.all fun s =>
      (s ++ "://".toList).all fun c => !Unicode.isBlank c && c != filler) = true := by decide +kernel
  have hlead := List.all_eq_true.1 hall a.scheme a.scheme_mem
  intro c hc
  simpa using List.all_eq_true.1 hlead c hc

theorem isBlank_first (a : Address) : Unicode.isBlank a.first = false := by
  have hmem := a.first_mem
  simp only [addressHead, Pattern.CharSet.mem_compl, Pattern.CharSet.mem_union, Bool.not_eq_true',
    Bool.or_eq_false_iff] at hmem
  exact hmem.1.1.1.1.1

/-- Where a blank stands in an address, it is the second character. -/
theorem second_of_isBlank {e rest : List Char} {c : Char} (a : Address) (h : a.chars = e ++ c :: rest)
    (hc : Unicode.isBlank c = true) : e = a.lead ++ [a.first] ∧ c = a.second := by
  have hlead : c ∉ a.lead := fun hmem => by simp [(a.shown_lead c hmem).1] at hc
  rcases List.append_eq_append_iff.1 h with ⟨e, rfl, heq⟩ | ⟨e', hlead', heq⟩
  · rcases e with _ | ⟨x, _ | ⟨y, e⟩⟩
    · obtain ⟨rfl, -⟩ := List.cons.inj heq
      simp [a.isBlank_first] at hc
    · obtain ⟨rfl, htail⟩ := List.cons.inj heq
      exact ⟨rfl, (List.cons.inj htail).1.symm⟩
    · obtain ⟨-, htail⟩ := List.cons.inj heq
      obtain ⟨-, hothers⟩ := List.cons.inj htail
      have hothers : c ∈ a.others := by simp [hothers]
      simp [a.others_shown c hothers] at hc
  · cases e' with
    | nil =>
      obtain ⟨rfl, -⟩ := List.cons.inj heq
      simp [a.isBlank_first] at hc
    | cons x e' =>
      obtain ⟨rfl, -⟩ := List.cons.inj heq
      exact absurd (by simp [hlead']) hlead

/-- What an address starts with could stand after the slashes of another one. -/
theorem exists_chars_eq (a : Address) : ∃ x y cs, a.chars = x :: y :: cs ∧
    addressHead.mem x = true ∧ x ≠ '\n' ∧ y ≠ '\n' := by
  have hmem := a.scheme_mem
  simp only [addressSchemes, List.mem_cons, List.not_mem_nil, or_false] at hmem
  rcases hmem with h | h | h
  all_goals
    rw [chars, lead, h]
    exact ⟨_, _, _, rfl, by decide +kernel, by decide, by decide⟩

end Address

theorem spellsOne_addressScheme : addressScheme.SpellsOne addressSchemes := by
  intro p q
  constructor
  · rintro (h | h)
    · obtain ⟨m, hm, m', hs, rfl⟩ := (Expr.matchesAll_word (w := "http".toList)).1 h
      obtain ⟨w, -, hlen, hw, h⟩ := Expr.matches_rounds_one.1 hs
      match w, hlen, hw, h with
      | [], _, _, h => exact ⟨"http".toList, by simp [addressSchemes], spells_append.2 ⟨m, hm, h⟩⟩
      | [c], _, hw, h =>
        obtain rfl : c = 's' := by simpa using hw
        exact ⟨"https".toList, by simp [addressSchemes], spells_append.2 ⟨m, hm, h⟩⟩
      | _ :: _ :: _, hlen, _, _ => simp at hlen
    · obtain ⟨m, hm, rfl⟩ := (Expr.matchesAll_word (w := "ftp".toList)).1 h
      exact ⟨"ftp".toList, by simp [addressSchemes], hm⟩
  · rintro ⟨w, hw, h⟩
    simp only [addressSchemes, List.mem_cons, List.not_mem_nil, or_false] at hw
    rcases hw with rfl | rfl | rfl
    · refine .inl ((Expr.matchesAll_word (w := "http".toList)).2 ⟨q, h, q, ?_, rfl⟩)
      exact Expr.matches_rounds_one.2 ⟨[], Nat.le_refl _, by simp, by simp, rfl⟩
    · obtain ⟨m, hm, h⟩ := spells_append.1 (show Spells ("http".toList ++ ['s']) p q from h)
      refine .inl ((Expr.matchesAll_word (w := "http".toList)).2 ⟨m, hm, q, ?_, rfl⟩)
      exact Expr.matches_rounds_one.2 ⟨['s'], by simp, by simp, by simp, h⟩
    · have hftp : Expr.MatchesAll (("ftp".toList.map fun c => .one (.single c)) ++ []) p q :=
        Expr.matchesAll_word.2 ⟨q, h, rfl⟩
      exact .inr hftp

/-- **The expression of addresses matches what spells an address.** -/
theorem matches_addressExpr {p q : Place} : addressExpr.Matches p q ↔ ∃ a : Address, Spells a.chars p q := by
  constructor
  · rintro ⟨m, hscheme, h⟩
    obtain ⟨scheme, hmem, hspells⟩ := (spellsOne_addressScheme p m).1 hscheme
    obtain ⟨n, hslashes, i, hfirst, j, hsecond, k, hothers, rfl⟩ := (Expr.matchesAll_word (w := "://".toList)).1 h
    obtain ⟨first, hfirst, hf⟩ := Expr.matches_one.1 hfirst
    obtain ⟨second, hsecond, hs⟩ := Expr.matches_one.1 hsecond
    obtain ⟨others, -, -, hothers, ho⟩ := Expr.matches_rounds_one.1 hothers
    refine ⟨⟨scheme, first, second, others, hmem, hfirst, ?_, fun c hc => ?_⟩, ?_⟩
    · simpa [Pattern.CharSet.notLineFeed] using hsecond
    · simpa [Pattern.CharSet.mem, Pattern.CharClass.mem] using hothers c hc
    · refine spells_append.2 ⟨n, spells_append.2 ⟨m, hspells, hslashes⟩, ?_⟩
      exact spells_append.2 ⟨i, hf, spells_append.2 ⟨j, hs, ho⟩⟩
  · rintro ⟨a, h⟩
    obtain ⟨n, hlead, h⟩ := spells_append.1 h
    obtain ⟨m, hscheme, hslashes⟩ := spells_append.1 hlead
    obtain ⟨i, hfirst, h⟩ := spells_append.1 (show Spells ([a.first] ++ a.second :: a.others) n q from h)
    obtain ⟨j, hsecond, hothers⟩ := spells_append.1 (show Spells ([a.second] ++ a.others) i q from h)
    refine ⟨m, (spellsOne_addressScheme p m).2 ⟨a.scheme, a.scheme_mem, hscheme⟩, ?_⟩
    refine (Expr.matchesAll_word (w := "://".toList)).2 ⟨n, hslashes, ?_⟩
    refine ⟨i, Expr.matches_one.2 ⟨a.first, a.first_mem, hfirst⟩, j, Expr.matches_one.2 ⟨a.second, ?_, hsecond⟩,
      q, Expr.matches_rounds_one.2 ⟨a.others, Nat.zero_le _, by simp, fun c hc => ?_, hothers⟩, rfl⟩
    · simpa [Pattern.CharSet.notLineFeed] using a.second_ne
    · simpa [Pattern.CharSet.mem, Pattern.CharClass.mem] using a.others_shown c hc

/-! ## Addresses in texts -/

section Texts

variable {text pre post : List Char} {a : Address}

theorem matches_address (pre post : List Char) (a : Address) :
    addressExpr.Matches (between pre (a.chars ++ post)) (between (pre ++ a.chars) post) :=
  matches_addressExpr.2 ⟨a, spells_iff.2 ⟨post, rfl, rfl⟩⟩

theorem exists_address_of_finish {f : Pattern.Finish} (hf : f.Found (.ofExpr addressExpr) text) :
    ∃ pre a post, text = pre ++ Address.chars a ++ post ∧
      f.span = ⟨byteLength pre, byteLength (pre ++ a.chars)⟩ := by
  obtain ⟨pre, rest, htext, hstart⟩ := in_iff.1 hf.within.start
  have hmatches := Pattern.Program.matches_of_finish? hf.again
  rw [hstart] at hmatches
  obtain ⟨a, ha⟩ := matches_addressExpr.1 hmatches
  obtain ⟨post, rfl, hplace⟩ := spells_iff.1 ha
  refine ⟨pre, a, post, by simp [htext], ?_⟩
  rw [Pattern.Finish.span, hstart, hplace]
  rfl

theorem Masker.exists_address_of_mem_found {s : Span} (h : s ∈ found text urlPattern) :
    ∃ pre a post, text = pre ++ Address.chars a ++ post ∧ s = ⟨byteLength pre, byteLength (pre ++ a.chars)⟩ := by
  rw [urlPattern_eq] at h
  obtain ⟨m, hm, rfl⟩ := List.mem_map.1 h
  obtain ⟨f, rfl, hf⟩ := Pattern.Program.exists_finish_of_mem_findAll hm
  exact exists_address_of_finish hf

/-- **Wherever an address starts, something is masked.** -/
theorem Masker.held_of_address (htext : text = pre ++ a.chars ++ post) :
    Held (found text urlPattern) (byteLength pre) := by
  have hin : (between pre (a.chars ++ post)).In text := in_iff.2 ⟨_, _, by simp [htext], rfl⟩
  have hlive := (Pattern.Program.liveAt_ofExpr addressExpr).2 ⟨_, matches_address pre post a⟩
  have hne : ∀ f : Pattern.Finish, f.Found (.ofExpr addressExpr) text → f.span.start < f.span.stop := by
    intro f hf
    obtain ⟨pre, a, post, -, hspan⟩ := exists_address_of_finish hf
    have hpos := a.byteLength_pos
    rw [hspan, Text.byteLength_append]
    exact Nat.lt_add_of_pos_right hpos
  have hstart := Place.in_ofText text
  obtain ⟨m, hm, hle, hlt⟩ := Pattern.Program.findFrom_covers hne none hstart (Nat.lt_succ_self _)
    (hstart.leads_of_le hin (Nat.zero_le _)) hlive
  rw [urlPattern_eq]
  exact ⟨m.span, List.mem_map_of_mem hm, hle, hlt⟩

end Texts

/-! ## Masking again -/

namespace Masker

variable {m : Masker} {text pre cs : List Char} {format : String}

/-- Where masking sets in, an address starts. -/
theorem exists_address_of_first (hm : m.pattern? format = none) (htext : text = pre ++ cs)
    (hheld : Held (m.ranges text format) (byteLength pre))
    (hbefore : ∀ i, i + 1 = byteLength pre → ¬ Held (m.ranges text format) i) :
    ∃ a post, cs = Address.chars a ++ post := by
  obtain ⟨r, hr, hle, hlt⟩ := hheld
  have hstart : r.start = byteLength pre := by
    by_contra hne
    exact hbefore (byteLength pre - 1) (by omega) ⟨r, hr, by omega, by omega⟩
  obtain ⟨⟨s, hs, heq⟩, -⟩ := Span.ends_unite hr
  have hfound : s ∈ found text urlPattern := by
    have hmem := (List.mem_filter.1 hs).1
    rw [hm] at hmem
    exact (List.mem_append.1 hmem).resolve_right (by simp [found])
  obtain ⟨pre', a, post, htext', rfl⟩ := exists_address_of_mem_found hfound
  rw [List.append_assoc] at htext'
  obtain ⟨-, hcs⟩ := Text.prefix_unique (htext.symm.trans htext') (hstart.symm.trans heq)
  exact ⟨a, post, hcs⟩

/-- Next to a character that is not masked, what the copy goes on with stands in the text, or else an
address starts there. -/
theorem address_or_shown (hm : m.pattern? format = none) (htext : text = pre ++ cs)
    (hbefore : ∀ i, i + 1 = byteLength pre → ¬ Held (m.ranges text format) i) {c : Char} {v : List Char}
    (hveil : veil (Held (m.ranges text format)) (byteLength pre) cs = c :: v) :
    (∃ a post, cs = Address.chars a ++ post) ∨ ¬ Held (m.ranges text format) (byteLength pre) ∧
      ∃ post, cs = c :: post ∧ v = veil (Held (m.ranges text format)) (byteLength pre + c.utf8Size) post := by
  by_cases hheld : Held (m.ranges text format) (byteLength pre)
  · exact .inl (exists_address_of_first hm htext hheld hbefore)
  · exact .inr ⟨hheld, exists_of_veil_eq_cons hheld hveil⟩

/-- Where the copy goes on with what an address has after its slashes, so does the text. -/
theorem exists_two (hm : m.pattern? format = none) (htext : text = pre ++ cs)
    (hbefore : ∀ i, i + 1 = byteLength pre → ¬ Held (m.ranges text format) i) {c d : Char} {v : List Char}
    (hveil : veil (Held (m.ranges text format)) (byteLength pre) cs = c :: d :: v)
    (hc : addressHead.mem c = true) (hd : d ≠ '\n') :
    ∃ x y zs, cs = x :: y :: zs ∧ addressHead.mem x = true ∧ y ≠ '\n' := by
  rcases address_or_shown hm htext hbefore hveil with ⟨a, post, rfl⟩ | ⟨hfree, cs, rfl, hv⟩
  · obtain ⟨x, y, zs, heq, hx, -, hy⟩ := a.exists_chars_eq
    exact ⟨x, y, zs ++ post, by rw [heq]; rfl, hx, hy⟩
  · have htext' : text = (pre ++ [c]) ++ cs := by simp [htext]
    have hlen : byteLength (pre ++ [c]) = byteLength pre + c.utf8Size := by simp
    have hbefore' : ∀ i, i + 1 = byteLength (pre ++ [c]) → ¬ Held (m.ranges text format) i := by
      intro i hi
      have hpos := c.utf8Size_pos
      have hwhole := (m.rangedIn_ranges text format).whole pre c cs (by simp [htext]) (c.utf8Size - 1) (by omega)
      rw [show i = 0 + byteLength pre + (c.utf8Size - 1) by omega, hwhole, Nat.zero_add]
      exact hfree
    rw [← hlen] at hv
    rcases address_or_shown hm htext' hbefore' hv.symm with ⟨a, post, rfl⟩ | ⟨-, zs, rfl, -⟩
    · obtain ⟨x, y, zs, heq, -, hx, -⟩ := a.exists_chars_eq
      exact ⟨c, x, y :: zs ++ post, by rw [heq]; rfl, hc, hx⟩
    · exact ⟨c, d, zs, rfl, hc, hd⟩

/-- No address stands in a copy. -/
theorem copy_ne_address (hm : m.pattern? format = none) (u : List Char) (a : Address) (v : List Char) :
    (m.mask text format).copy ≠ u ++ a.chars ++ v := by
  intro hcopy
  have hfiller : filler ∉ a.lead := fun hmem => (a.shown_lead _ hmem).2 rfl
  obtain ⟨c, w, hlead⟩ : ∃ c w, a.lead = c :: w :=
    List.exists_cons_of_ne_nil (List.append_ne_nil_of_right_ne_nil _ (by decide))
  have hveil : veil (Held (m.ranges text format)) 0 text =
      u ++ c :: (w ++ a.first :: a.second :: (a.others ++ v)) := by
    rw [← cover_eq_veil (m.rangedIn_ranges text format).toRanged]
    refine hcopy.trans ?_
    simp [Address.chars, hlead]
  have hc : c ≠ filler := fun h => hfiller (by simp [hlead, h])
  obtain ⟨pre, post, htext, -, hveil⟩ := exists_of_veil_eq_append hc hveil
  rw [Nat.zero_add, ← List.cons_append, ← hlead] at hveil
  obtain ⟨hfree, cs, hpost, hv⟩ := exists_of_veil_eq_word hfiller hveil
  rw [hpost, ← List.append_assoc] at htext
  rw [← Text.byteLength_append] at hv
  have hbefore : ∀ i, i + 1 = byteLength (pre ++ a.lead) → ¬ Held (m.ranges text format) i := by
    intro i hi
    have hslash := hfree (a.scheme ++ ":/".toList) '/' [] (by simp [Address.lead])
    have hlen : byteLength (pre ++ a.lead) = byteLength pre + byteLength (a.scheme ++ ":/".toList) + 1 := by
      simp only [Address.lead, Text.byteLength_append]
      rfl
    rwa [show i = byteLength pre + byteLength (a.scheme ++ ":/".toList) by omega]
  obtain ⟨x, y, zs, rfl, hx, hy⟩ := exists_two hm htext hbefore hv.symm a.first_mem a.second_ne
  -- So an address with the same scheme stands in the text, and its first character is shown.
  let b : Address := ⟨a.scheme, x, y, [], a.scheme_mem, hx, hy, by simp⟩
  have hheld : Held (found text urlPattern) (byteLength pre) :=
    held_of_address (htext.trans (by simp [Address.chars, Address.lead, b]) : text = pre ++ b.chars ++ zs)
  exact hfree [] c w hlead ((m.held_ranges text format _).2 (.inl hheld))

end Masker

/-- **A copy has no addresses.** Where a format has no pattern of its own, the pattern of addresses finds
nothing in the copy of a text, and masking the copy leaves it as it is. -/
theorem mask_mask {m : Masker} {format : String} (hm : m.pattern? format = none) (text : List Char) :
    ∃ url, Pattern.ofText? urlSource = some url ∧ url.findAll (m.mask text format).copy = [] ∧
      (m.mask (m.mask text format).copy format).ranges = [] ∧
      (m.mask (m.mask text format).copy format).copy = (m.mask text format).copy := by
  have hfound : Masker.found (m.mask text format).copy urlPattern = [] := by
    refine List.eq_nil_iff_forall_not_mem.2 fun s hs => ?_
    obtain ⟨u, a, v, hcopy, -⟩ := Masker.exists_address_of_mem_found hs
    exact Masker.copy_ne_address hm u a v hcopy
  have hagain : m.mask (m.mask text format).copy format = .unmasked (m.mask text format).copy := by
    refine Masker.mask_eq_unmasked fun s hs => ?_
    rw [hfound, hm] at hs
    cases hs
  refine ⟨_, urlPattern_eq, ?_, ?_, ?_⟩
  · rw [urlPattern_eq] at hfound
    exact List.map_eq_nil_iff.1 hfound
  · rw [hagain]
    rfl
  · rw [hagain]
    rfl

/-- A masker whose one pattern is for another format. -/
def mdMasker : Masker := Masker.plain.add "md" "[0-9]+"

theorem mask_mask_link :
    mdMasker.pattern? "txt" = none ∧
      (mdMasker.mask "see http://ab.cd now".toList "txt").copy = "see ************ now".toList ∧
      ∃ url, Pattern.ofText? urlSource = some url ∧
        url.findAll (mdMasker.mask "see http://ab.cd now".toList "txt").copy = [] ∧
        (mdMasker.mask (mdMasker.mask "see http://ab.cd now".toList "txt").copy "txt").ranges = [] ∧
        (mdMasker.mask (mdMasker.mask "see http://ab.cd now".toList "txt").copy "txt").copy =
          (mdMasker.mask "see http://ab.cd now".toList "txt").copy := by
  have hnone : mdMasker.pattern? "txt" = none := by
    rw [mdMasker, Masker.pattern?_add]
    rfl
  have hcopy : (mdMasker.mask "see http://ab.cd now".toList "txt").copy = "see ************ now".toList := by
    simp only [Masker.mask, Masker.ranges, urlPattern_eq, hnone]
    decide +kernel
  exact ⟨hnone, hcopy, mask_mask hnone _⟩

/-! ## Blanks in addresses -/

/-- **A blank that is masked is the second character of an address.** Where a format has no pattern of its
own, no range holds another blank: an address goes on up to a blank or to the end of the text, but for that
one character. -/
theorem second_of_masked_blank {m : Masker} {format : String} (hm : m.pattern? format = none)
    {text pre post : List Char} {c : Char} (htext : text = pre ++ c :: post) (hc : Unicode.isBlank c = true)
    (hheld : Held (m.mask text format).ranges (byteLength pre)) :
    ∃ u a v, text = u ++ Address.chars a ++ v ∧ pre = u ++ a.lead ++ [a.first] ∧ c = a.second := by
  obtain ⟨s, hs, hle, hlt⟩ : Held (Masker.found text urlPattern) (byteLength pre) := by
    refine ((m.held_ranges text format _).1 hheld).resolve_right ?_
    rw [hm]
    rintro ⟨s, hs, -⟩
    cases hs
  obtain ⟨u, a, v, htext', rfl⟩ := Masker.exists_address_of_mem_found hs
  have heq : u ++ (a.chars ++ v) = pre ++ c :: post := by rw [← htext, htext', List.append_assoc]
  obtain ⟨e, rfl, hchars⟩ := Text.prefix_of_byteLength_le heq hle
  simp only [Text.byteLength_append] at hlt
  obtain ⟨e', hsplit, hpost⟩ := Text.prefix_of_byteLength_le hchars.symm (by omega)
  cases e' with
  | nil =>
    rw [List.append_nil] at hsplit
    rw [hsplit] at hlt
    exact absurd hlt (Nat.lt_irrefl _)
  | cons d e' =>
    obtain ⟨rfl, -⟩ := List.cons.inj hpost
    obtain ⟨rfl, hsecond⟩ := a.second_of_isBlank hsplit hc
    exact ⟨u, a, v, htext', by simp, hsecond⟩

theorem ranges_shortLink : (Masker.plain.mask "see http://a foo".toList "text").ranges = [⟨4, 16⟩] := by
  simp only [Masker.mask, Masker.ranges, urlPattern_eq]
  decide +kernel

theorem second_of_masked_blank_shortLink :
    Held (Masker.plain.mask "see http://a foo".toList "text").ranges 12 ∧
      ∃ u a v, "see http://a foo".toList = u ++ Address.chars a ++ v ∧
        "see http://a".toList = u ++ a.lead ++ [a.first] ∧ ' ' = a.second := by
  have hheld : Held (Masker.plain.mask "see http://a foo".toList "text").ranges 12 := by
    rw [ranges_shortLink]
    decide
  have htext : "see http://a foo".toList = "see http://a".toList ++ ' ' :: "foo".toList := rfl
  exact ⟨hheld, second_of_masked_blank rfl htext (by decide +kernel) hheld⟩

/-- **An address hides the word after a host of one character.** -/
theorem masked_blank_shortLink :
    Masker.plain.pattern? "text" = none ∧
      ∃ r ∈ (Masker.plain.mask "see http://a foo".toList "text").ranges,
        ∃ cs, Text.slice? "see http://a foo".toList r = some cs ∧ "foo".toList <:+ cs ∧
          ∃ c ∈ cs, Unicode.isBlank c = true := by
  refine ⟨rfl, ⟨4, 16⟩, by rw [ranges_shortLink]; exact List.mem_cons_self, "http://a foo".toList, rfl, ?_⟩
  exact ⟨⟨"http://a ".toList, rfl⟩, ' ', by decide, by decide +kernel⟩

end ProseLint
