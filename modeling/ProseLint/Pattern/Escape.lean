/-
Escapes: what follows a backslash in a pattern. `readEscape?` answers a character, a set of
characters or an assertion.
-/
import ProseLint.Pattern.Expr
import ProseLint.Pattern.Flags
import ProseLint.Unicode.Lookup

namespace ProseLint.Pattern

/-- What a single character or an escape stands for. -/
inductive Atom where
  | char (c : Char)
  | set (s : CharSet)
  | assert (a : Assertion)
  deriving DecidableEq, Repr

def Flags.fold (f : Flags) (s : CharSet) : CharSet :=
  if f.ignoreCase then if f.unicode then .folded s else .foldedPlain s else s

/-- The complement of a set. Without Unicode it would take in bytes that are no characters, so
there is none. -/
def Flags.negate? (f : Flags) (negated : Bool) (s : CharSet) : Option CharSet :=
  if negated then if f.unicode then some (.compl s) else none else some s

/-- The characters with a meaning of their own somewhere in a pattern. -/
def isMeta (c : Char) : Bool := "\\.+*?()|[]\x7b\x7d^$#&-~".toList.contains c

/-- The characters that may be escaped to stand for themselves: all below 80 but letters, digits
and angle brackets. -/
def standsForItself (c : Char) : Bool :=
  c.toNat < 0x80 && !c.isAlphanum && c ≠ '<' && c ≠ '>'

/-- The first `n` of the text, where the flags allow to skip something before each. -/
def readHexDigits? (f : Flags) : Nat → List Char → Option (List Char × List Char)
  | 0, cs => some ([], cs)
  | n + 1, cs =>
    match f.skip cs with
    | [] => none
    | c :: cs =>
      if (Text.hexDigit? c).isSome then
        (readHexDigits? f n cs).map fun (digits, rest) => (c :: digits, rest)
      else none

/-- A character by its code point: so many digits, or digits in braces. Without Unicode two digits
from 80 on would be a byte that is no character. -/
def readCodePoint? (f : Flags) (digits : Nat) (cs : List Char) : Option (Char × List Char) :=
  match f.skip cs with
  | '{' :: cs => do
    let (word, rest) ← readBraced? f.verbose false cs
    if word.isEmpty ∨ word.any (Text.hexDigit? · |>.isNone) then none
    else return (← Text.charOfNat? (Text.hexNat word), rest)
  | cs => do
    let (word, rest) ← readHexDigits? f digits cs
    let c ← Text.charOfNat? (Text.hexNat word)
    if !f.unicode ∧ digits = 2 ∧ 0x80 ≤ c.toNat then none else return (c, rest)

def splitAt? (sep : List Char) : List Char → Option (List Char × List Char)
  | [] => none
  | c :: cs =>
    if sep.isPrefixOf (c :: cs) then some ([], (c :: cs).drop sep.length)
    else (splitAt? sep cs).map fun (a, b) => (c :: a, b)

/-- The tables that the inside of `\p{…}` asks for, and whether their complement is meant. -/
def propertyTables? (word : List Char) : Option (List Unicode.RangeTable × Bool) :=
  match splitAt? ['!', '='] word with
  | some (name, value) => (Unicode.valuedTables? name value).map (·, true)
  | none =>
    match (splitAt? [':'] word).or (splitAt? ['='] word) with
    | some (name, value) => (Unicode.valuedTables? name value).map (·, false)
    | none => (Unicode.namedTables? word).map (·, false)

def readProperty? (f : Flags) (negated : Bool) (cs : List Char) : Option (CharSet × List Char) :=
  if !f.unicode then none
  else do
    let (word, rest) ← match f.skip cs with
      | [] => none
      | '{' :: cs => readBraced? f.verbose false cs
      | c :: cs => if c = '\\' then none else some ([c], cs)
    let (tables, complement) ← propertyTables? word
    return (← f.negate? (negated != complement) (f.fold (.ofTables tables)), rest)

def classOf (f : Flags) (kind : Char) : CharSet :=
  .cls (match kind, f.unicode with
    | 'd', true => .decimal
    | 'd', false => .plainDecimal
    | 's', true => .blank
    | 's', false => .plainBlank
    | _, true => .word
    | _, false => .plainWord)

def namedEdge? : List Char → Option WordEdge
  | ['s', 't', 'a', 'r', 't'] => some .start
  | ['e', 'n', 'd'] => some .finish
  | ['s', 't', 'a', 'r', 't', '-', 'h', 'a', 'l', 'f'] => some .startHalf
  | ['e', 'n', 'd', '-', 'h', 'a', 'l', 'f'] => some .finishHalf
  | _ => none

/-- What `\b` stands for. A brace after it names an edge if a letter or hyphen follows the brace;
otherwise the brace is left for a repetition. -/
def readBoundary? (f : Flags) (cs : List Char) : Option (WordEdge × List Char) :=
  match cs with
  | '{' :: inside =>
    match f.skip inside with
    | [] => none
    | c :: _ =>
      if c.isAlpha || c = '-' then do
        let (word, rest) ← readBraced? f.verbose false inside
        return (← namedEdge? word, rest)
      else some (.boundary, cs)
  | _ => some (.boundary, cs)

def readEscape? (f : Flags) : List Char → Option (Atom × List Char)
  | [] => none
  | c :: cs =>
    let word (edge : WordEdge) := some (.assert (.word edge !f.unicode), cs)
    match c with
    | 'x' => (readCodePoint? f 2 cs).map fun (c, rest) => (.char c, rest)
    | 'u' => (readCodePoint? f 4 cs).map fun (c, rest) => (.char c, rest)
    | 'U' => (readCodePoint? f 8 cs).map fun (c, rest) => (.char c, rest)
    | 'p' => (readProperty? f false cs).map fun (s, rest) => (.set s, rest)
    | 'P' => (readProperty? f true cs).map fun (s, rest) => (.set s, rest)
    | 'd' | 's' | 'w' => some (.set (classOf f c), cs)
    | 'D' | 'S' | 'W' => (f.negate? true (classOf f c.toLower)).map fun s => (.set s, cs)
    | 'a' => some (.char '\x07', cs)
    | 'f' => some (.char '\x0c', cs)
    | 't' => some (.char '\t', cs)
    | 'n' => some (.char '\n', cs)
    | 'r' => some (.char '\r', cs)
    | 'v' => some (.char '\x0b', cs)
    | 'A' => some (.assert .textStart, cs)
    | 'z' => some (.assert .textEnd, cs)
    | 'b' => (readBoundary? f cs).map fun (edge, rest) => (.assert (.word edge !f.unicode), rest)
    | 'B' => word .inner
    | '<' => word .start
    | '>' => word .finish
    | _ => if isMeta c || standsForItself c then some (.char c, cs) else none

end ProseLint.Pattern
