/-
Options and operands of programs: letters behind a dash, words behind two dashes, which may be cut
short, and operands among them.
-/
import ProseLint.Shell.Tree

namespace ProseLint.Shell

/-- What a program takes besides operands. -/
structure OptionTable where
  letters : List Char
  words : List (String × Char)
  /-- the letters of words that take a value -/
  valued : List Char := []
  /-- whether options may stand behind operands -/
  anywhere : Bool

namespace OptionTable

structure Parsed where
  options : List Char
  values : List (Char × Bytes) := []
  operands : List Bytes
  deriving Repr

/-- The letter that a word stands for, or a complaint. -/
def letterOf (t : OptionTable) (word : Bytes) : Except Bytes Char :=
  let starting := t.words.filter fun w => word.isPrefixOf w.1.toList
  let written := '\'' :: '-' :: '-' :: word ++ ['\'']
  match t.words.lookup (String.ofList word), starting with
  | some c, _ => .ok c
  | none, [(_, c)] => .ok c
  | none, [] => .error ("unrecognized option ".toList ++ written)
  | none, ws =>
    let listed := ws.flatMap fun w => " '--".toList ++ w.1.toList ++ ['\'']
    .error ("option ".toList ++ written ++ " is ambiguous; possibilities:".toList ++ listed)

def lettersOf (t : OptionTable) : Bytes → Except Bytes (List Char)
  | [] => .ok []
  | c :: cs =>
    if t.letters.contains c then (t.lettersOf cs).map (c :: ·)
    else .error ("invalid option -- '".toList ++ [c, '\''])

def parse (t : OptionTable) : List Bytes → Except Bytes Parsed
  | [] => .ok { options := [], operands := [] }
  | ['-', '-'] :: args => .ok { options := [], operands := args }
  | ('-' :: '-' :: word) :: args => do
    let name := word.takeWhile (· ≠ '=')
    let c ← t.letterOf name
    let found := t.words.find? fun w => w.2 = c ∧ name.isPrefixOf w.1.toList
    let whole := (found.map (·.1.toList)).getD name
    let named := "option '--".toList ++ whole ++ ['\'']
    match t.valued.contains c, word.drop name.length with
    | false, _ :: _ => throw (named ++ " doesn't allow an argument".toList)
    | false, [] =>
      let p ← t.parse args
      return { p with options := c :: p.options }
    | true, _ :: value =>
      let p ← t.parse args
      return { p with values := (c, value) :: p.values }
    | true, [] =>
      match args with
      | value :: args =>
        let p ← t.parse args
        return { p with values := (c, value) :: p.values }
      | [] => throw (named ++ " requires an argument".toList)
  | ('-' :: c :: cs) :: args => do
    let options ← t.lettersOf (c :: cs)
    let p ← t.parse args
    return { p with options := options ++ p.options }
  | arg :: args =>
    if t.anywhere then (t.parse args).map fun p => { p with operands := arg :: p.operands }
    else .ok { options := [], operands := arg :: args }

end OptionTable

end ProseLint.Shell
