/-
The parts of a TOML document that lie within a line or a string: blanks, remarks, line ends,
strings, keys, numbers and dates. Each reader takes its part from the front of a text and answers
the rest.
-/
import ProseLint.Text.Digits
import ProseLint.Toml.Value

namespace ProseLint.Toml

open Text

def isBlank (c : Char) : Bool := c = ' ' || c = '\t'

def skipBlanks (cs : List Char) : List Char := cs.dropWhile isBlank

/-- A character that may stand in a remark, or in a string as it is. -/
def isPlain (c : Char) : Bool := c = '\t' || (0x20 ≤ c.toNat && c.toNat ≠ 0x7F)

def lineEnd? : List Char → Option (List Char)
  | '\n' :: cs => some cs
  | '\r' :: '\n' :: cs => some cs
  | _ => none

def skipRemark : List Char → List Char
  | '#' :: cs => cs.dropWhile isPlain
  | cs => cs

/-- What may follow on a line: blanks, a remark, and the end of the line or the document. -/
def restOfLine? (cs : List Char) : Option (List Char) :=
  match skipRemark (skipBlanks cs) with
  | [] => some []
  | cs => lineEnd? cs

/-- The rest after blanks, remarks and line ends. -/
def skipLines (inRemark : Bool) : List Char → List Char
  | [] => []
  | '\r' :: '\n' :: cs => skipLines false cs
  | c :: cs =>
    if c = '\n' then skipLines false cs
    else if inRemark && isPlain c then skipLines true cs
    else if !inRemark && isBlank c then skipLines false cs
    else if !inRemark && c = '#' then skipLines true cs
    else c :: cs

def codePoint? (digits : List Char) : Option Char :=
  if digits.all fun c => (hexDigit? c).isSome then charOfNat? (hexNat digits) else none

def escaped? : Char → Option Char
  | 'b' => some '\x08'
  | 't' => some '\t'
  | 'n' => some '\n'
  | 'f' => some '\x0c'
  | 'r' => some '\r'
  | '"' => some '"'
  | '\\' => some '\\'
  | _ => none

def before (c : Char) : Option (List Char × List Char) → Option (List Char × List Char) :=
  Option.map fun (read, rest) => (c :: read, rest)

def basic? : List Char → Option (List Char × List Char)
  | [] => none
  | '"' :: rest => some ([], rest)
  | '\\' :: 'u' :: a :: b :: c :: d :: rest => do before (← codePoint? [a, b, c, d]) (basic? rest)
  | '\\' :: 'U' :: a :: b :: c :: d :: e :: f :: g :: h :: rest => do
    before (← codePoint? [a, b, c, d, e, f, g, h]) (basic? rest)
  | '\\' :: e :: rest => do before (← escaped? e) (basic? rest)
  | c :: rest => if isPlain c && c ≠ '\\' then before c (basic? rest) else none

def literal? : List Char → Option (List Char × List Char)
  | [] => none
  | '\'' :: rest => some ([], rest)
  | c :: rest => if isPlain c then before c (literal? rest) else none

/-- Where a text of several lines is read: in the text, after a backslash and the blanks that
follow it, or in the blanks and line ends that such a backslash takes away. -/
inductive Folding where
  | text
  | slash
  | folded
  deriving DecidableEq

/-- A string in three double quotes, from after the opening ones and their line end. A backslash
before a line end takes away all blanks and line ends that follow. Up to two quotes may stand before
the closing three. -/
def longBasic? (place : Folding) : List Char → Option (List Char × List Char)
  | [] => none
  | '\r' :: '\n' :: rest =>
    match place with
    | .text => before '\n' (longBasic? .text rest)
    | _ => longBasic? .folded rest
  | '"' :: '"' :: '"' :: '"' :: '"' :: rest => if place = .slash then none else some (['"', '"'], rest)
  | '"' :: '"' :: '"' :: '"' :: rest => if place = .slash then none else some (['"'], rest)
  | '"' :: '"' :: '"' :: rest => if place = .slash then none else some ([], rest)
  | '\\' :: 'u' :: a :: b :: c :: d :: rest =>
    if place = .slash then none
    else do before (← codePoint? [a, b, c, d]) (longBasic? .text rest)
  | '\\' :: 'U' :: a :: b :: c :: d :: e :: f :: g :: h :: rest =>
    if place = .slash then none
    else do before (← codePoint? [a, b, c, d, e, f, g, h]) (longBasic? .text rest)
  | '\\' :: e :: rest =>
    if place = .slash then none
    else if isBlank e then longBasic? .slash rest
    else if e = '\n' then longBasic? .folded rest
    else if e = '\r' then
      match rest with
      | '\n' :: rest => longBasic? .folded rest
      | _ => none
    else do before (← escaped? e) (longBasic? .text rest)
  | c :: rest =>
    match place with
    | .text =>
      if c = '\n' || (isPlain c && c ≠ '\\') then before c (longBasic? .text rest) else none
    | .slash =>
      if isBlank c then longBasic? .slash rest
      else if c = '\n' then longBasic? .folded rest
      else none
    | .folded =>
      if isBlank c || c = '\n' then longBasic? .folded rest
      else if isPlain c && c ≠ '\\' then before c (longBasic? .text rest)
      else none

/-- A string in three single quotes, from after the opening ones and their line end. -/
def longLiteral? : List Char → Option (List Char × List Char)
  | [] => none
  | '\r' :: '\n' :: rest => before '\n' (longLiteral? rest)
  | '\'' :: '\'' :: '\'' :: '\'' :: '\'' :: rest => some (['\'', '\''], rest)
  | '\'' :: '\'' :: '\'' :: '\'' :: rest => some (['\''], rest)
  | '\'' :: '\'' :: '\'' :: rest => some ([], rest)
  | c :: rest => if c = '\n' || isPlain c then before c (longLiteral? rest) else none

def dropLineEnd (cs : List Char) : List Char := (lineEnd? cs).getD cs

def string? : List Char → Option (String × List Char)
  | '"' :: '"' :: '"' :: cs => finish (longBasic? .text (dropLineEnd cs))
  | '"' :: cs => finish (basic? cs)
  | '\'' :: '\'' :: '\'' :: cs => finish (longLiteral? (dropLineEnd cs))
  | '\'' :: cs => finish (literal? cs)
  | _ => none
where
  finish : Option (List Char × List Char) → Option (String × List Char) :=
    Option.map fun (read, rest) => (String.ofList read, rest)

def isBareKey (c : Char) : Bool := c.isAlphanum || c = '_' || c = '-'

/-- One key: a bare one, or a string of one line. -/
def simpleKey? : List Char → Option (String × List Char)
  | '"' :: cs => (basic? cs).map fun (read, rest) => (String.ofList read, rest)
  | '\'' :: cs => (literal? cs).map fun (read, rest) => (String.ofList read, rest)
  | cs =>
    match cs.takeWhile isBareKey with
    | [] => none
    | key => some (String.ofList key, cs.dropWhile isBareKey)

/-- Keys joined by dots, with blanks around each, no more than `room`. -/
def dottedKey? : (room : Nat) → List Char → Option (List String × List Char)
  | 0, _ => none
  | room + 1, cs => do
    let (key, rest) ← simpleKey? (skipBlanks cs)
    match skipBlanks rest with
    | '.' :: rest => (dottedKey? room rest).map fun (keys, rest) => (key :: keys, rest)
    | rest => return ([key], rest)

/-- Digits of a base, where single underscores may stand between two; the first is a digit. -/
def digitRun (base : Nat) : List Char → List Char × List Char
  | '_' :: c :: cs =>
    if (digit? base c).isSome then
      let (digits, rest) := digitRun base cs
      (c :: digits, rest)
    else ([], '_' :: c :: cs)
  | c :: cs =>
    if (digit? base c).isSome then
      let (digits, rest) := digitRun base cs
      (c :: digits, rest)
    else ([], c :: cs)
  | [] => ([], [])

def digits? (base : Nat) : List Char → Option (List Char × List Char)
  | '_' :: _ => none
  | cs =>
    match digitRun base cs with
    | ([], _) => none
    | run => some run

def sign : List Char → Bool × List Char
  | '-' :: cs => (true, cs)
  | '+' :: cs => (false, cs)
  | cs => (false, cs)

/-- Digits that do not start with a zero, unless it stands alone. -/
def wholeDigits? : List Char → Option (List Char × List Char)
  | '0' :: cs => some (['0'], cs)
  | cs => digits? 10 cs

/-- An integer of 64 bits. -/
def integer? (cs : List Char) : Option (Value × List Char) :=
  let inBase (base : Nat) (cs : List Char) : Option (Value × List Char) := do
    let (digits, rest) ← digits? base cs
    let n := natOfDigits base digits
    if n < Nat.pow 2 63 then return (.integer n, rest) else none
  match cs with
  | '0' :: 'x' :: cs => inBase 16 cs
  | '0' :: 'o' :: cs => inBase 8 cs
  | '0' :: 'b' :: cs => inBase 2 cs
  | cs => do
    let (negative, cs) := sign cs
    let (digits, rest) ← wholeDigits? cs
    let n := natOfDigits 10 digits
    if negative then
      if n ≤ Nat.pow 2 63 then return (.integer (-(n : Int)), rest) else none
    else if n < Nat.pow 2 63 then return (.integer n, rest) else none

/-- Whether the decimal `digits · 10 ^ exponent` is too large for a float: half a step above the
largest one, or more. -/
def overflows (digits : List Char) (exponent : Int) : Bool :=
  let digits := digits.dropWhile (· = '0')
  let n := natOfDigits 10 digits
  let limit := Nat.pow 2 1024 - Nat.pow 2 970
  let tall := (digits.length : Int) + exponent
  if digits.isEmpty then false
  else if 310 < tall then true
  else if tall < 308 then false
  else if 0 ≤ exponent then limit ≤ n * Nat.pow 10 exponent.toNat
  else limit * Nat.pow 10 (-exponent).toNat ≤ n

/-- A float: with a fraction, an exponent or both, or one of the words for what is no number. A
positive one may not be too large. -/
def float? (cs : List Char) : Option (Value × List Char) :=
  let (negative, cs) := sign cs
  match cs with
  | 'i' :: 'n' :: 'f' :: rest => some (.float, rest)
  | 'n' :: 'a' :: 'n' :: rest => some (.float, rest)
  | cs => do
    let (whole, rest) ← wholeDigits? cs
    let (fraction, rest) ← match rest with
      | '.' :: rest => digits? 10 rest
      | rest => some ([], rest)
    let (exponent, rest) ← match rest with
      | e :: more =>
        if e = 'e' ∨ e = 'E' then do
          let (down, more) := sign more
          let (digits, rest) ← digits? 10 more
          let n : Int := natOfDigits 10 digits
          some (some (if down then -n else n), rest)
        else some (none, rest)
      | [] => some (none, rest)
    if fraction.isEmpty ∧ exponent.isNone then none
    else if !negative ∧ overflows (whole ++ fraction) (exponent.getD 0 - fraction.length) then none
    else return (.float, rest)

def fixed? (digits : Nat) (cs : List Char) : Option (Nat × List Char) :=
  let read := cs.take digits
  if read.length = digits ∧ read.all isDigit then some (natOfDigits 10 read, cs.drop digits) else none

def char? (c : Char) : List Char → Option (List Char)
  | [] => none
  | d :: cs => if c = d then some cs else none

def daysIn (year month : Nat) : Nat :=
  if month = 2 then
    if year % 4 = 0 ∧ (year % 100 ≠ 0 ∨ year % 400 = 0) then 29 else 28
  else if month = 4 ∨ month = 6 ∨ month = 9 ∨ month = 11 then 30
  else 31

def day? (cs : List Char) : Option (List Char × List Char) := do
  let (year, rest) ← fixed? 4 cs
  let (month, rest) ← fixed? 2 (← char? '-' rest)
  let (day, rest) ← fixed? 2 (← char? '-' rest)
  if 1 ≤ month ∧ month ≤ 12 ∧ 1 ≤ day ∧ day ≤ daysIn year month then return (cs.take 10, rest)
  else none

/-- The written fraction of a second, with its point, cut to nanoseconds; one of zeros is not
written. -/
def fractionText (digits : List Char) : List Char :=
  match ((digits.take 9).reverse.dropWhile (· = '0')).reverse with
  | [] => []
  | digits => '.' :: digits

/-- A time of day; the fraction of a second has one digit or more. -/
def time? (cs : List Char) : Option (List Char × List Char) := do
  let (hour, rest) ← fixed? 2 cs
  let (minute, rest) ← fixed? 2 (← char? ':' rest)
  let (second, rest) ← fixed? 2 (← char? ':' rest)
  if 23 < hour ∨ 59 < minute ∨ 60 < second then none
  else match rest with
    | '.' :: more =>
      match more.takeWhile isDigit with
      | [] => return (cs.take 8, rest)
      | digits => return (cs.take 8 ++ fractionText digits, more.dropWhile isDigit)
    | rest => return (cs.take 8, rest)

/-- The distance from universal time: `Z`, or hours and minutes with a sign. No distance is written
with a plus. -/
def zone? : List Char → Option (List Char × List Char)
  | 'Z' :: cs | 'z' :: cs => some (['Z'], cs)
  | c :: cs =>
    if c = '+' ∨ c = '-' then do
      let (hour, rest) ← fixed? 2 cs
      let (minute, rest) ← fixed? 2 (← char? ':' rest)
      if 23 < hour ∨ 59 < minute then none
      else
        let way := if hour = 0 ∧ minute = 0 then '+' else c
        return (way :: cs.take 5, rest)
    else some ([], c :: cs)
  | [] => some ([], [])

def date? (cs : List Char) : Option (Value × List Char) :=
  let made (text : List Char) : Value := .date (String.ofList text)
  match day? cs with
  | none => (time? cs).map fun (time, rest) => (made time, rest)
  | some (day, rest) =>
    match rest with
    | c :: more =>
      if c = 'T' ∨ c = 't' ∨ c = ' ' then
        match time? more with
        | none => some (made day, rest)
        | some (time, rest) =>
          (zone? rest).map fun (zone, rest) => (made (day ++ 'T' :: time ++ zone), rest)
      else some (made day, rest)
    | [] => some (made day, [])

def number? (cs : List Char) : Option (Value × List Char) :=
  ((date? cs).or (float? cs)).or (integer? cs)

end ProseLint.Toml
