/-
Escapes with a backslash in what `echo` and `printf` show.
-/
import ProseLint.Shell.Tree
import ProseLint.Text.Digits

namespace ProseLint.Shell.Escape

def isOctal (c : Char) : Bool := '0' ≤ c && c ≤ '7'

/-- The byte that up to three octal digits spell, and the rest. -/
def octal (cs : Bytes) : Char × Bytes :=
  let digits := (cs.take 3).takeWhile isOctal
  (Char.ofNat (Text.natOfDigits 8 digits % 256), cs.drop digits.length)

/-- What a backslash and one letter stand for. -/
def control? : Char → Option Char
  | 'a' => some '\x07'
  | 'b' => some '\x08'
  | 'e' => some '\x1b'
  | 'f' => some '\x0c'
  | 'n' => some '\n'
  | 'r' => some '\r'
  | 't' => some '\t'
  | 'v' => some '\x0b'
  | '\\' => some '\\'
  | _ => none

/-- What an escape shows, from after its backslash, and the rest. What is no escape shows the
backslash. -/
def shown : Bytes → Char × Bytes
  | c :: cs =>
    if isOctal c then octal (c :: cs)
    else
      match control? c with
      | some d => (d, cs)
      | none => ('\\', c :: cs)
  | [] => ('\\', [])

/-- A text with its escapes read, and whether one of them ends all output. A zero may stand before
the three octal digits. -/
def read : (steps : Nat) → Bytes → Bytes × Bool
  | 0, cs => (cs, false)
  | _ + 1, [] => ([], false)
  | _ + 1, '\\' :: 'c' :: _ => ([], true)
  | steps + 1, '\\' :: cs =>
    let cs := match cs with
      | '0' :: d :: rest => if isOctal d then d :: rest else cs
      | _ => cs
    let (c, rest) := shown cs
    let (more, ended) := read steps rest
    (c :: more, ended)
  | steps + 1, c :: cs =>
    let (more, ended) := read steps cs
    (c :: more, ended)

def unescaped (cs : Bytes) : Bytes × Bool := read (cs.length + 1) cs

/-- What `echo` shows of arguments: they stand with blanks between them, on a line of their own
unless the first one is `-n`. -/
def echo (args : List Bytes) : Bytes :=
  let (args, ending) := match args with
    | ['-', 'n'] :: args => (args, [])
    | args => (args, ['\n'])
  let rec all : List Bytes → Bytes
    | [] => ending
    | a :: rest =>
      let (cs, ended) := unescaped a
      if ended then cs
      else if rest.isEmpty then cs ++ ending
      else cs ++ ' ' :: all rest
  all args

end ProseLint.Shell.Escape
