/-
How programs name files and arguments in their complaints.
-/
import ProseLint.Shell.Tree
import ProseLint.Text.Utf8
import ProseLint.Unicode.Display

namespace ProseLint.Shell.Quoted

/-- How many bytes the character takes that a byte starts, if it starts one. -/
def spelled (c : Char) : Nat :=
  if c < '\xc2' then 1 else if c < '\xe0' then 2 else if c < '\xf0' then 3 else 4

/-- Bytes as characters with the bytes that spell them; a byte that spells none stands alone. So many
bytes are passed over first. -/
def letters : (passed : Nat) → Bytes → List (Option Char × Bytes)
  | _, [] => []
  | n + 1, _ :: cs => letters n cs
  | 0, c :: cs =>
    let own := (c :: cs).take (spelled c)
    match Text.decode (own.map fun c => UInt8.ofNat c.toNat) with
    | [some d] => (some d, own) :: letters (own.length - 1) cs
    | _ => (none, [c]) :: letters 0 cs

/-- What programs know of the characters in bytes. -/
def displayFor (cs : Bytes) : Unicode.Display :=
  if cs.all (· < '\x80') then .plain else .ofVersion "15.1"

/-- The characters of bytes that can be shown, and the bytes that cannot. -/
def shown (cs : Bytes) : List (Bool × Bytes) :=
  let d := displayFor cs
  (letters 0 cs).map fun (c, own) => (c.any d.isShown, own)

def isPlain (c : Char) : Bool := ' ' ≤ c && c ≤ '~'

def octal (c : Char) : Bytes :=
  let digit (n : Nat) : Char := Char.ofNat ('0'.toNat + n % 8)
  [digit (c.toNat / 64), digit (c.toNat / 8), digit c.toNat]

/-- The letter that stands for a control character behind a backslash. -/
def letter? : Char → Option Char
  | '\x07' => some 'a'
  | '\x08' => some 'b'
  | '\x0c' => some 'f'
  | '\n' => some 'n'
  | '\r' => some 'r'
  | '\t' => some 't'
  | '\x0b' => some 'v'
  | _ => none

/-- Bytes that cannot be shown, behind backslashes. -/
def escaped (cs : Bytes) : Bytes :=
  cs.flatMap fun c => '\\' :: match letter? c with
    | some l => [l]
    | none => octal c

/-- Whether a character at an index makes it necessary to quote a name. -/
def isSpecial (length index : Nat) (c : Char) : Bool :=
  " !\"$&()*;<=>[^\x60|'?:\\".contains c || ((c = '#' || c = '~') && index = 0) ||
    ((c = '\x7b' || c = '\x7d') && length = 1)

/-- Whether a character of a name with an apostrophe can stand in double quotes. -/
def isMild (c : Char) : Bool := !"!\"$&()*;<=>[^\x60|?\\".contains c

/-- What stands between single quotes: an apostrophe is taken out of them, and what cannot be shown
is put in quotes of its own. -/
def inside : (escaping : Bool) → List (Bool × Bytes) → Bytes
  | _, [] => []
  | escaping, (true, cs) :: rest =>
    let back := if escaping then ['\'', '\''] else []
    (if cs = ['\''] then "'\\''".toList else back ++ cs) ++ inside false rest
  | escaping, (false, cs) :: rest =>
    (if escaping then [] else "'$'".toList) ++ escaped cs ++ inside true rest

def always (cs : Bytes) : Bytes :=
  let all := shown cs
  if cs.contains '\'' ∧ cs.all isMild ∧ all.all (·.1) then '"' :: cs ++ ['"']
  else '\'' :: inside false all ++ ['\'']

/-- The name of a file, in quotes if it has characters that a shell would not take as they are. -/
def name (cs : Bytes) : Bytes :=
  let special := (cs.zip (List.range cs.length)).any fun (c, i) => isSpecial cs.length i c
  if !cs.isEmpty ∧ !special ∧ (shown cs).all (·.1) then cs else always cs

def argument (cs : Bytes) : Bytes :=
  let opening := "\xe2\x80\x98".toList
  let closing := "\xe2\x80\x99".toList
  let body := (shown cs).flatMap fun (canShow, own) =>
    if !canShow then escaped own
    else if own = ['\\'] ∨ own = closing then '\\' :: own
    else own
  opening ++ body ++ closing

/-- Bytes with those that are no plain characters behind backslashes. -/
def plain (cs : Bytes) : Bytes := cs.flatMap fun c => if isPlain c then [c] else escaped [c]

end ProseLint.Shell.Quoted
