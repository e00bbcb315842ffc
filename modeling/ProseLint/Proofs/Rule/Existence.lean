/-
Which token an existence rule has found. The tokens of a rule are put between bars in one group. Where each
makes a rule of its own and leaves the flags as they were, what is flagged is what one of them alone finds
from there (`Definition.existence_finds_token`). A token that switches a flag switches it for those after it
as well (`Definition.existence_switches_others`).
-/
import Mathlib
import ProseLint.Check.Run
import ProseLint.Proofs.Check.Dictionary
import ProseLint.Proofs.Pattern.Bars
import ProseLint.Proofs.Rule.Substitution

namespace ProseLint

open Pattern (Flags Reader barred edge?)
open Rule

namespace Definition

/-- The pattern of a token that is alone in its rule. -/
def tokenPattern? (d : Definition) (nonword : Bool) (token : String) : Option Pattern :=
  Pattern.ofText? (d.existenceSource [token] [] nonword)

/-- A token is a pattern, and a rule of its own. -/
def IsToken (d : Definition) (nonword : Bool) (token : String) : Prop :=
  (Pattern.ofText? token).isSome ∧ (d.tokenPattern? nonword token).isSome

instance (d : Definition) (nonword : Bool) (token : String) : Decidable (d.IsToken nonword token) :=
  inferInstanceAs (Decidable (_ ∧ _))

/-- Whether a token leaves the flags as they were when it is read in a rule. -/
def keepsFlags (d : Definition) (token : String) : Bool :=
  ((Reader.under d.flags).read? token.length token.toList).any (·.flags = d.flags)

/-- A token that is alone in its rule finds what is flagged, from where it starts. -/
def FoundAlone (d : Definition) (nonword : Bool) (t : Masked) (a : Alert) (token : String) : Prop :=
  ∃ q, d.tokenPattern? nonword token = some q ∧ q.Finds t.copy a.span.start a.span

/-! ## Reading -/

variable {d : Definition} {tokens : List String} {nonword : Bool} {p : Pattern}

theorem toList_existenceSource (hne : tokens ≠ []) :
    (d.existenceSource tokens [] nonword).toList = d.switch.toList ++ (wrap (alternatives tokens) nonword).toList := by
  have hsome : (nonword || tokens.isEmpty) = nonword := by rw [List.isEmpty_eq_false_iff.2 hne, Bool.or_false]
  rw [existenceSource, hsome, String.toList_append, String.toList_append]
  exact congrArg (· ++ _) (List.append_nil _)

/-- **A token fits between the bars of a rule.** -/
theorem IsToken.exists_fits {token : String} (h : d.IsToken nonword token) :
    ∃ r, Reader.Fits d.flags token.toList r := by
  obtain ⟨q, hq⟩ := Option.isSome_iff_exists.1 h.1
  obtain ⟨q', hq'⟩ := Option.isSome_iff_exists.1 h.2
  obtain ⟨r, hr, -⟩ := Pattern.exists_of_ofText? hq
  obtain ⟨r', hr', -⟩ := Pattern.exists_of_ofText? hq'
  rw [← String.length_toList] at hr
  obtain ⟨r, hr⟩ := Reader.exists_read?_under (f := d.flags) rfl hr
  rw [toList_existenceSource (List.cons_ne_nil _ _)] at hr'
  obtain ⟨m, s, hs, -, hread⟩ := exists_bare hr'
  obtain ⟨m, s', hs', -, hread⟩ := Reader.exists_of_wrap rfl hs hread
  have hsingle : (alternatives [token]).toList = token.toList := by
    rw [Pattern.toList_alternatives, List.map_singleton, List.intercalate_singleton]
  rw [hsingle] at hread
  exact ⟨r, Reader.fits_of_read? hr rfl hs' (Pattern.newline_not_mem_edgeText nonword) hread⟩

/-- Tokens are read to the branches of all of them. -/
theorem program_of_tokens {rs : List Reader} (hrs : List.Forall₂ (fun e r => Reader.Fits d.flags e.toList r) tokens rs)
    (hkeep : ∀ r ∈ rs.dropLast, r.flags = d.flags) (hne : tokens ≠ [])
    (hp : Pattern.ofText? (d.existenceSource tokens [] nonword) = some p) :
    p.program = .ofBranches (edge? d.flags nonword) (Reader.branchesFrom 0 rs) := by
  obtain ⟨r, hr, hprogram, -⟩ := Pattern.exists_of_ofText? hp
  rw [toList_existenceSource hne] at hr
  obtain ⟨m, s, hs, hempty, hread⟩ := exists_bare hr
  have hbody := Reader.body_of_barred rfl hs (List.forall₂_map_left_iff.2 hrs) hkeep (by simpa using hne)
    (Pattern.toList_alternatives tokens) hread
  rw [hprogram, hbody]
  refine Pattern.Program.ofExpr_edges d.flags nonword (fun e he => ?_) _
  obtain ⟨x, hx, rfl⟩ := List.mem_map.1 he
  exact hempty x (List.mem_reverse.1 hx)

/-- What a token is read to, as a rule of its own. -/
theorem program_of_token {token : String} {r : Reader} (hr : Reader.Fits d.flags token.toList r)
    (hp : d.tokenPattern? nonword token = some p) (place : Pattern.Place) :
    p.program.spanAt? place = (Pattern.Program.ofBranches (edge? d.flags nonword) r.exprs).spanAt? place := by
  rw [program_of_tokens (.cons hr .nil) (by simp) (List.cons_ne_nil _ _) hp,
    Pattern.Program.spanAt?_branchesFrom _ 0 (List.cons_ne_nil _ _), List.findSome?_cons]
  cases (Pattern.Program.ofBranches (edge? d.flags nonword) r.exprs).spanAt? place <;> rfl

/-- Tokens that keep the flags are read so. -/
theorem flags_of_keepsFlags {token : String} {r : Reader} (hr : Reader.Fits d.flags token.toList r)
    (h : d.keepsFlags token = true) : r.flags = d.flags := by
  obtain ⟨r', hr', hflags⟩ := (Option.any_eq_true _ _).1 h
  rw [← String.length_toList, hr.read] at hr'
  obtain rfl := Option.some.inj hr'
  exact of_decide_eq_true hflags

theorem exists_fits_tokens (h : ∀ e ∈ tokens, d.IsToken nonword e) (hkeep : ∀ e ∈ tokens.dropLast, d.keepsFlags e) :
    ∃ rs, List.Forall₂ (fun e r => Reader.Fits d.flags e.toList r) tokens rs ∧
      ∀ r ∈ rs.dropLast, r.flags = d.flags := by
  obtain ⟨rs, hrs⟩ := Pattern.exists_forall₂ fun e he => (h e he).exists_fits
  refine ⟨rs, hrs, ?_⟩
  intro r hr
  obtain ⟨e, he, hfits⟩ := (Pattern.exists_mem_of_forall₂ (Pattern.forall₂_dropLast hrs)).2 r hr
  exact flags_of_keepsFlags hfits (hkeep e he)

/-! ## What is flagged -/

/-- A pattern finds the span that it finds at a place. -/
theorem finds_of_spanAt? {q : Pattern} {text : List Char} {place : Pattern.Place} {s : Text.Span}
    (hin : place.In text) (h : q.program.spanAt? place = some s) : q.Finds text place.offset s := by
  obtain ⟨f, hf, -, rfl⟩ := Pattern.Program.spanAt?_eq_some h
  exact Pattern.finds_of_finish? hin hf

/-- **Tokens that keep the flags do not affect one another.** Where each token is a pattern and a rule of its
own, and all but the last one keep the flags, whatever a check of the rule flags is what one of the tokens
alone in the rule finds from where it starts. -/
theorem existence_finds_token (hkind : d.kind = .existence tokens [] nonword) (hne : tokens ≠ [])
    {stylesPath : Option String} {fs : Files} {c : Check} (h : d.compile stylesPath fs = .ok c)
    (htokens : ∀ e ∈ tokens, d.IsToken nonword e) (hkeep : ∀ e ∈ tokens.dropLast, d.keepsFlags e)
    (t : Masked) (ctx : Context) (host : ScriptHost) :
    ∀ a ∈ (c.run t ctx host).1, ∃ e ∈ tokens, d.FoundAlone nonword t a e := by
  obtain ⟨matcher, hmatcher, rfl⟩ := exists_of_map_ok h
  simp only [Definition.matcher, hkind] at hmatcher
  obtain ⟨p, hp, rfl⟩ := exists_of_map_ok hmatcher
  have hp := ofText?_of_pattern hp
  intro a ha
  obtain ⟨s, hs, rfl⟩ := List.mem_map.1 ha
  obtain ⟨m, hm, rfl⟩ := List.mem_map.1 (List.mem_filter.1 hs).1
  obtain ⟨f, rfl, hf⟩ := Pattern.Program.exists_finish_of_mem_findAll hm
  obtain ⟨rs, hrs, hflags⟩ := exists_fits_tokens htokens hkeep
  -- At the start of the match the first token that finds something finds the match.
  have hfound := Pattern.Program.spanAt?_of_finish? hf.again rfl
  have hrs' : rs ≠ [] := by
    rintro rfl
    exact hne (List.forall₂_nil_right_iff.1 hrs)
  rw [program_of_tokens hrs hflags hne hp, Pattern.Program.spanAt?_branchesFrom _ 0 hrs'] at hfound
  obtain ⟨r, hr, hspan⟩ := List.exists_of_findSome?_eq_some hfound
  obtain ⟨e, he, hfits⟩ := (Pattern.exists_mem_of_forall₂ hrs).2 r hr
  obtain ⟨q, hq⟩ := Option.isSome_iff_exists.1 (htokens e he).2
  rw [← program_of_token hfits hq] at hspan
  exact ⟨e, he, q, hq, finds_of_spanAt? hf.within.start hspan⟩

def tokensRule (tokens : List String) : Definition where
  name := ⟨"T", "S", isSegment_t, isSegment_s⟩
  message := ""
  description := ""
  severity := .suggestion
  scope := "text"
  link := none
  ignoreCase := false
  negate := false
  kind := .existence tokens [] true

def tokensCheck (tokens : List String) (p : Pattern) : Check where
  name := (tokensRule tokens).name
  severity := .suggestion
  scope := "text"
  message := ""
  description := ""
  link := none
  matcher := .existence p

theorem compile_tokensRule {tokens : List String} {p : Pattern}
    (h : Pattern.ofText? ((tokensRule tokens).existenceSource tokens [] true) = some p) :
    (tokensRule tokens).compile none .empty = .ok (tokensCheck tokens p) := by
  have hkind : (tokensRule tokens).kind = .existence tokens [] true := rfl
  rw [compile, matcher, hkind]
  simp only [pattern, h]
  rfl

/-- Tokens of which the first one switches a flag for a part of its own and the second one has branches. -/
def fruitTokens : List String := ["(?x: an | a ) apple", "pl(um|an)|pear"]

/-- A text with something for both tokens. -/
def fruitText : List Char := "an apple, a plum".toList

theorem existence_finds_token_fruit :
    ∃ c, (tokensRule fruitTokens).compile none .empty = .ok c ∧ ∀ ctx host,
      (c.run (Masker.plain.mask fruitText "text") ctx host).1.map (·.span) = [⟨0, 8⟩, ⟨12, 16⟩] ∧
      ∀ a ∈ (c.run (Masker.plain.mask fruitText "text") ctx host).1, ∃ e ∈ fruitTokens,
        (tokensRule fruitTokens).FoundAlone true (Masker.plain.mask fruitText "text") a e := by
  have htokens : ∀ e ∈ fruitTokens, (tokensRule fruitTokens).IsToken true e := by decide +kernel
  have hkeep : ∀ e ∈ fruitTokens.dropLast, (tokensRule fruitTokens).keepsFlags e := by decide +kernel
  have hread : (Pattern.ofText? ((tokensRule fruitTokens).existenceSource fruitTokens [] true)).any fun p =>
      ((tokensCheck fruitTokens p).existence p (.unmasked fruitText)).map (·.span) = [⟨0, 8⟩, ⟨12, 16⟩] := by
    decide +kernel
  obtain ⟨p, hp, hspans⟩ := (Option.any_eq_true _ _).1 hread
  have hcompile := compile_tokensRule hp
  have hmask : Masker.plain.mask fruitText "text" = .unmasked fruitText :=
    Masker.mask_plain_of_not_mem (by decide) "text"
  refine ⟨_, hcompile, fun ctx host => ⟨?_, ?_⟩⟩
  · rw [hmask]
    exact of_decide_eq_true hspans
  · exact existence_finds_token rfl (by decide) hcompile htokens hkeep _ ctx host

/-! ## A token that switches a flag -/

/-- Tokens of which the first one switches a flag and leaves it switched. -/
def switchTokens : List String := ["(?i)a", "b"]

/-- The only place in the text. -/
theorem in_capital {place : Pattern.Place} (h : place.In "B".toList) (hoffset : place.offset = 0) :
    place = .ofText "B".toList :=
  h.eq_of_offset (Pattern.Place.in_ofText _) hoffset

/-- **A token may switch a flag for the tokens after it.** Each token is a pattern and a rule of its own, and
the rule compiles, but what it flags is found by none of the tokens alone. -/
theorem existence_switches_others :
    (∀ e ∈ switchTokens, (tokensRule switchTokens).IsToken true e) ∧
    ∃ c, (tokensRule switchTokens).compile none .empty = .ok c ∧
      ∀ ctx host, ∃ a ∈ (c.run (Masker.plain.mask "B".toList "text") ctx host).1, ∀ e ∈ switchTokens,
        ¬ (tokensRule switchTokens).FoundAlone true (Masker.plain.mask "B".toList "text") a e := by
  have htokens : switchTokens.all (fun e => decide ((tokensRule switchTokens).IsToken true e)) = true := by cbv
  have hruns : (Pattern.ofText? ((tokensRule switchTokens).existenceSource switchTokens [] true)).any (fun p =>
      (tokensCheck switchTokens p).alert ⟨0, 1⟩ ["B".toList] ∈
        (tokensCheck switchTokens p).existence p (.unmasked "B".toList)) = true := by cbv
  have hnone : switchTokens.all (fun e => ((tokensRule switchTokens).tokenPattern? true e).all fun q =>
      (q.program.search (.ofText "B".toList)).isNone) = true := by cbv
  rw [List.all_eq_true] at htokens hnone
  obtain ⟨p, hp, hmem⟩ := (Option.any_eq_true _ _).1 hruns
  refine ⟨fun e he => of_decide_eq_true (htokens e he), tokensCheck switchTokens p, compile_tokensRule hp,
    fun ctx host => ?_⟩
  rw [Masker.mask_plain_of_not_mem (by decide)]
  refine ⟨_, of_decide_eq_true hmem, fun e he => ?_⟩
  rintro ⟨q, hq, place, m, stop, hin, hoffset, hsearch, -⟩
  obtain rfl := in_capital hin hoffset
  have hq' := hnone e he
  rw [hq, Option.all_some, hsearch] at hq'
  cases hq'

end Definition

end ProseLint
