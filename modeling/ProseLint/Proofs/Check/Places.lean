/-
What a template says with arguments. Its places cut a template into pieces, in one way only (`Cut.pieces_eq`).
Filling it puts an argument, or the place itself where no argument is left, between each piece and the next
(`fill_cut`): the arguments are put in as they are, and nothing is looked for in what comes out.
-/
import ProseLint.Check.Template
import Mathlib.Data.List.Infix

namespace ProseLint.Template

/-- What stands where an argument goes. -/
def place : List Char := "%s".toList

/-- A template is a piece and then pieces with a place before each, and no piece has a place in it. -/
structure Cut (template first : List Char) (rest : List (List Char)) : Prop where
  joined : template = first ++ rest.flatMap (place ++ ·)
  bare : ∀ piece ∈ first :: rest, ¬ place <:+: piece

/-- Pieces with arguments between them, in order; a place stays where there is no argument for it. -/
def paste (first : List Char) (rest args : List (List Char)) : List Char :=
  first ++ (rest.mapIdx fun i piece => args.getD i place ++ piece).flatten

/-- The pieces of a template: the first one, and those after a place. -/
def pieces : List Char → List Char × List (List Char)
  | [] => ([], [])
  | '%' :: 's' :: cs => ([], (pieces cs).1 :: (pieces cs).2)
  | c :: cs => (c :: (pieces cs).1, (pieces cs).2)

variable {c : Char} {cs first : List Char} {rest : List (List Char)}

/-! ## Pieces -/

theorem place_isPrefix_iff : place <+: c :: cs ↔ c = '%' ∧ ∃ cs', cs = 's' :: cs' := by
  show ['%', 's'] <+: c :: cs ↔ _
  rw [List.cons_prefix_cons, eq_comm]
  refine and_congr_right fun _ => ?_
  cases cs with
  | nil => simp
  | cons d cs => simp [List.cons_prefix_cons, eq_comm]

theorem pieces_place (cs : List Char) : pieces (place ++ cs) = ([], (pieces cs).1 :: (pieces cs).2) := rfl

/-- A character that starts no place belongs to the piece that goes on after it. -/
theorem pieces_cons (h : ¬ place <+: c :: cs) : pieces (c :: cs) = (c :: (pieces cs).1, (pieces cs).2) := by
  rw [pieces]
  rintro cs' rfl rfl
  exact h (place_isPrefix_iff.2 ⟨rfl, cs', rfl⟩)

/-- A template starts with its first piece. -/
theorem pieces_isPrefix (cs : List Char) : (pieces cs).1 <+: cs := by
  fun_induction pieces cs with
  | case1 => exact List.prefix_rfl
  | case2 cs => exact List.nil_prefix
  | case3 c cs _ ih => exact List.cons_prefix_cons.2 ⟨rfl, ih⟩

theorem cut_pieces (cs : List Char) : Cut cs (pieces cs).1 (pieces cs).2 := by
  fun_induction pieces cs with
  | case1 => exact ⟨rfl, by simp [place]⟩
  | case2 cs ih =>
    refine ⟨?_, List.forall_mem_cons.2 ⟨by simp [place], ih.bare⟩⟩
    show place ++ cs = [] ++ (place ++ (pieces cs).1 ++ (pieces cs).2.flatMap (place ++ ·))
    rw [List.nil_append, List.append_assoc, ← ih.joined]
  | case3 c cs hplain ih =>
    obtain ⟨hfirst, hrest⟩ := List.forall_mem_cons.1 ih.bare
    refine ⟨congrArg (c :: ·) ih.joined, List.forall_mem_cons.2 ⟨fun hwithin => ?_, hrest⟩⟩
    rcases List.infix_cons_iff.1 hwithin with hstart | hwithin
    · -- a place at the start of the piece would be one at the start of the template
      have hplace : place <+: c :: cs := hstart.trans (List.cons_prefix_cons.2 ⟨rfl, pieces_isPrefix cs⟩)
      obtain ⟨hc, cs', hcs⟩ := place_isPrefix_iff.1 hplace
      exact hplain cs' hc hcs
    · exact hfirst hwithin

/-- What a bare piece is followed by, nothing or a place, does not change it. -/
theorem pieces_append (hbare : ¬ place <:+: first) {tail : List Char} (htail : tail = [] ∨ place <+: tail) :
    pieces (first ++ tail) = (first ++ (pieces tail).1, (pieces tail).2) := by
  induction first with
  | nil => rfl
  | cons c first ih =>
    rw [List.infix_cons_iff, not_or] at hbare
    have hplain : ¬ place <+: c :: (first ++ tail) := by
      intro hstart
      obtain ⟨rfl, cs', hcs⟩ := place_isPrefix_iff.1 hstart
      cases first with
      | nil =>
        rcases htail with rfl | htail
        · cases hcs
        · rw [List.nil_append] at hcs
          rw [hcs] at htail
          exact absurd (place_isPrefix_iff.1 htail).1 (by decide)
      | cons d first =>
        obtain ⟨rfl, -⟩ := List.cons.inj hcs
        exact hbare.1 ⟨first, rfl⟩
    rw [List.cons_append, pieces_cons hplain, ih hbare.2]
    rfl

/-- **A template is cut in one way.** -/
theorem Cut.pieces_eq {template : List Char} (h : Cut template first rest) : pieces template = (first, rest) := by
  obtain ⟨rfl, hbare⟩ := h
  induction rest generalizing first with
  | nil =>
    rw [List.flatMap_nil, pieces_append (hbare _ List.mem_cons_self) (.inl rfl)]
    exact congrArg (·, []) (List.append_nil first)
  | cons piece rest ih =>
    obtain ⟨hfirst, hrest⟩ := List.forall_mem_cons.1 hbare
    have htail : pieces ((piece :: rest).flatMap (place ++ ·)) = ([], piece :: rest) := by
      rw [List.flatMap_cons, List.append_assoc, pieces_place, ih hrest]
    rw [pieces_append hfirst (.inr ⟨piece ++ rest.flatMap (place ++ ·), by simp⟩), htail, List.append_nil]

/-! ## Filling -/

theorem paste_place (first : List Char) (rest args : List (List Char)) :
    paste [] (first :: rest) args = args.headD place ++ paste first rest args.tail := by
  cases args with
  | nil => simp [paste, List.mapIdx_cons]
  | cons arg args => simp [paste, List.mapIdx_cons]

theorem fillChars_eq_paste (cs : List Char) (args : List (List Char)) :
    fillChars cs args = paste (pieces cs).1 (pieces cs).2 args := by
  fun_induction fillChars cs args with
  | case1 args => rfl
  | case2 cs arg args ih => rw [ih, pieces, paste_place, List.headD_cons, List.tail_cons]
  | case3 cs ih =>
    rw [ih, pieces, paste_place]
    rfl
  | case4 c cs args harg hnone ih =>
    have hplain : ¬ place <+: c :: cs := fun hstart => by
      obtain ⟨hc, cs', hcs⟩ := place_isPrefix_iff.1 hstart
      cases args with
      | nil => exact hnone cs' rfl hc hcs
      | cons arg args => exact harg cs' arg args rfl hc hcs
    rw [pieces_cons hplain, ih]
    rfl

/-- Arguments for which there is no place do not count. -/
theorem paste_take (first : List Char) (rest args : List (List Char)) :
    paste first rest (args.take rest.length) = paste first rest args := by
  refine congrArg (first ++ ·.flatten) (List.mapIdx_eq_mapIdx_iff.2 fun i hi => ?_)
  rw [List.getD_eq_getElem?_getD, List.getElem?_take_of_lt hi, ← List.getD_eq_getElem?_getD]

/-- **The arguments stand between the pieces of a template.** -/
theorem fill_cut {template : String} (h : Cut template.toList first rest) (args : List (List Char)) :
    fill template args = String.ofList (paste first rest args) := by
  rw [fill, fillChars_eq_paste, h.pieces_eq]

/-- **Templates are filled place by place.** There is one way to cut a template at its places. Its pieces stay,
and between them stand the arguments in order, or places when there are no more arguments; arguments beyond the
places do not count, and without arguments the template says what it says. -/
theorem fill_positional (template : String) (args : List (List Char)) :
    ∃ first rest, Cut template.toList first rest ∧
      (∀ first' rest', Cut template.toList first' rest' → first' = first ∧ rest' = rest) ∧
      (fill template args).toList = first ++ (rest.mapIdx fun i piece => args.getD i place ++ piece).flatten ∧
      fill template args = fill template (args.take rest.length) ∧
      fill template [] = template := by
  have hcut := cut_pieces template.toList
  refine ⟨_, _, hcut, fun first' rest' hcut' => ?_, ?_, ?_, fill_nil template⟩
  · rw [hcut'.pieces_eq]
    exact ⟨rfl, rfl⟩
  · rw [fill_cut hcut, String.toList_ofList, paste]
  · rw [fill_cut hcut, fill_cut hcut, paste_take]

/-- A place that an argument makes with what stands next to it is none. -/
example : fill "%%ss, %s" ["%".toList, "%s".toList, "more".toList] = "%%s, %s" := by decide

end ProseLint.Template
