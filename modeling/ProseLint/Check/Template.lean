/-
Templates of messages. Each `%s` in a template is a place for an argument; without arguments a
template says what it says (`fill_nil`).
-/
namespace ProseLint.Template

/-- Puts arguments in the places of a template, in order. Places without an argument stay, and
arguments are not looked into. -/
def fillChars : List Char → List (List Char) → List Char
  | [], _ => []
  | '%' :: 's' :: rest, arg :: args => arg ++ fillChars rest args
  | '%' :: 's' :: rest, [] => '%' :: 's' :: fillChars rest []
  | c :: rest, args => c :: fillChars rest args

def fill (template : String) (args : List (List Char)) : String :=
  String.ofList (fillChars template.toList args)

theorem fillChars_nil (cs : List Char) : fillChars cs [] = cs := by
  generalize h : ([] : List (List Char)) = args
  fun_induction fillChars cs args with
  | case1 => rfl
  | case2 => cases h
  | case3 rest ih => rw [ih rfl]
  | case4 c rest args _ _ ih => rw [ih h]

/-- **Nothing is put into a template without arguments.** -/
@[simp] theorem fill_nil (template : String) : fill template [] = template := by
  rw [fill, fillChars_nil, String.ofList_toList]

end ProseLint.Template
