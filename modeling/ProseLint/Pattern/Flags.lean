/-
The flags a pattern is read under, and the blanks and remarks that reading skips when the flag `x`
allows them.
-/
import ProseLint.Unicode.Letter

namespace ProseLint.Pattern

/-- What the letters i, m, s, U, u, R and x of `(?imsUuRx)` switch. -/
structure Flags where
  ignoreCase : Bool
  multiLine : Bool
  dotAll : Bool
  swapGreed : Bool
  unicode : Bool
  lineBreaks : Bool
  verbose : Bool
  deriving DecidableEq, Repr

namespace Flags

def initial : Flags := ⟨false, false, false, false, true, false, false⟩

def switch? (f : Flags) (on : Bool) : Char → Option Flags
  | 'i' => some { f with ignoreCase := on }
  | 'm' => some { f with multiLine := on }
  | 's' => some { f with dotAll := on }
  | 'U' => some { f with swapGreed := on }
  | 'u' => some { f with unicode := on }
  | 'R' => some { f with lineBreaks := on }
  | 'x' => some { f with verbose := on }
  | _ => none

/-- Reads letters up to `:` or `)`. A hyphen, of which there may be one and not at the end, makes
the letters after it switch their flags off; no letter may come twice. Answers the flags, whether
any letter was there, whether `:` ended them, and the rest. -/
def readLetters? (f : Flags) (seen : List Char) (off lone : Bool) :
    List Char → Option (Flags × Bool × Bool × List Char)
  | [] => none
  | c :: cs =>
    if c = ':' ∨ c = ')' then
      if lone then none else some (f, !seen.isEmpty, c = ':', cs)
    else if c = '-' then
      if off then none else readLetters? f seen true true cs
    else if seen.contains c then none
    else match f.switch? (!off) c with
      | none => none
      | some f => readLetters? f (c :: seen) off false cs

end Flags

/-- The rest after blanks and remarks, which run from `#` to the end of the line. -/
def skipBlanks (inRemark : Bool) : List Char → List Char
  | [] => []
  | c :: cs =>
    if inRemark then skipBlanks (c ≠ '\n') cs
    else if Unicode.isBlank c then skipBlanks false cs
    else if c = '#' then skipBlanks true cs
    else c :: cs

def Flags.skip (f : Flags) (cs : List Char) : List Char :=
  if f.verbose then skipBlanks false cs else cs

/-- The next character that is not skipped, as far as a hyphen looks ahead: past blanks and the
first `#`. -/
def Flags.peek (f : Flags) (cs : List Char) : Option Char :=
  if f.verbose then
    match cs.dropWhile Unicode.isBlank with
    | '#' :: cs => (cs.dropWhile Unicode.isBlank).head?
    | cs => cs.head?
  else cs.head?

/-- What stands before the next `}`, without what the flags allow to skip, and the rest after it. -/
def readBraced? (verbose inRemark : Bool) : List Char → Option (List Char × List Char)
  | [] => none
  | c :: cs =>
    if inRemark then readBraced? verbose (c ≠ '\n') cs
    else if verbose && Unicode.isBlank c then readBraced? verbose false cs
    else if verbose && c = '#' then readBraced? verbose true cs
    else if c = '}' then some ([], cs)
    else (readBraced? verbose false cs).map fun (word, rest) => (c :: word, rest)

/-- The digits a text starts with, without what the flags allow to skip between them. -/
def readDigits (verbose inRemark : Bool) : List Char → List Char × List Char
  | [] => ([], [])
  | c :: cs =>
    if inRemark then readDigits verbose (c ≠ '\n') cs
    else if Text.isDigit c then
      let (digits, rest) := readDigits verbose false cs
      (c :: digits, rest)
    else if verbose && Unicode.isBlank c then readDigits verbose false cs
    else if verbose && c = '#' then readDigits verbose true cs
    else ([], c :: cs)

/-- A decimal number of 32 bits, with blanks on both sides. -/
def readCount? (f : Flags) (cs : List Char) : Option (Nat × List Char) :=
  let (digits, rest) := readDigits f.verbose false (cs.dropWhile Unicode.isBlank)
  let n := Text.natOfDigits 10 digits
  if digits.isEmpty ∨ Nat.pow 2 32 ≤ n then none
  else some (n, f.skip (rest.dropWhile Unicode.isBlank))

end ProseLint.Pattern
