/-
Numbers with a point as `printf` reads and shows them: a number that is read is rounded to 53 binary
digits, and shown with as many decimal digits as are asked for, a half going to the even neighbour.
-/
import ProseLint.Shell.Arithmetic

namespace ProseLint.Shell

/-- A number as it is kept: `mantissa * 2 ^ exponent`, or no such number. -/
inductive Real where
  | finite (negative : Bool) (mantissa : Nat) (exponent : Int)
  | infinite (negative : Bool)
  | noNumber (negative : Bool)
  deriving DecidableEq, Repr

namespace Real

/-- The whole number nearest to a quotient, the even one of two. -/
def nearest (a b : Nat) : Nat :=
  let q := a / b
  let twice := 2 * (a % b)
  if b < twice ∨ (twice = b ∧ q % 2 = 1) then q + 1 else q

def scaled (a b : Nat) (exponent : Int) : Nat :=
  if exponent < 0 then nearest (a * Nat.pow 2 exponent.natAbs) b else nearest a (b * Nat.pow 2 exponent.natAbs)

def ofQuotient (negative : Bool) (a b : Nat) : Real :=
  if a = 0 then .finite negative 0 0
  else
    let guess : Int := (a.log2 : Int) - b.log2 - 53
    let fits (e : Int) : Bool := scaled a b e < Nat.pow 2 53
    let e := if fits guess then guess else if fits (guess + 1) then guess + 1 else guess + 2
    let e := max e (-1074)
    if 971 < e then .infinite negative else .finite negative (scaled a b e) e

def word? (w : String) (cs : Bytes) : Option Bytes :=
  if (cs.take w.length).map Char.toLower = w.toList then some (cs.drop w.length) else none

/-- An exponent behind its letter, if there is one. -/
def exponent (letter : Char) (cs : Bytes) : Int × Bytes :=
  match cs with
  | c :: rest =>
    let (negative, digits) := match rest with
      | '-' :: ds => (true, ds)
      | '+' :: ds => (false, ds)
      | ds => (false, ds)
    if c.toLower = letter ∧ digits.head?.any Text.isDigit then
      let n : Int := Text.natOfDigits 10 ((digits.takeWhile Text.isDigit).take 6)
      (if negative then -n else n, digits.dropWhile Text.isDigit)
    else (0, cs)
  | [] => (0, [])

/-- Digits of a base around a point, and their exponent in powers of `step`. -/
def digits? (base step : Nat) (letter : Char) (negative : Bool) (cs : Bytes) :
    Option (Real × Bytes) :=
  let isPart (c : Char) : Bool := (Text.digit? base c).isSome
  let whole := cs.takeWhile isPart
  let rest := cs.dropWhile isPart
  let (fraction, rest) := match rest with
    | '.' :: more => (more.takeWhile isPart, more.dropWhile isPart)
    | rest => ([], rest)
  if whole.isEmpty ∧ fraction.isEmpty then none
  else
    let (e, rest) := exponent letter rest
    let n := Text.natOfDigits base (whole ++ fraction)
    let down := Nat.pow base fraction.length
    let value :=
      if n = 0 then .finite negative 0 0
      else if 5000 < e then .infinite negative
      else if e < -5000 then .finite negative 0 0
      else if e < 0 then ofQuotient negative n (down * Nat.pow step e.natAbs)
      else ofQuotient negative (n * Nat.pow step e.natAbs) down
    some (value, rest)

/-- A number at the start of a text, after blanks and a sign, and what follows it. -/
def read? (cs : Bytes) : Option (Real × Bytes) :=
  let (negative, cs) := match cs.dropWhile Arithmetic.isSpace with
    | '-' :: cs => (true, cs)
    | '+' :: cs => (false, cs)
    | cs => (false, cs)
  let decimal := digits? 10 10 'e' negative cs
  let hexadecimal := match cs with
    | '0' :: x :: rest => if x = 'x' ∨ x = 'X' then digits? 16 2 'p' negative rest else none
    | _ => none
  match word? "infinity" cs, word? "inf" cs, word? "nan" cs with
  | some rest, _, _ => some (.infinite negative, rest)
  | _, some rest, _ => some (.infinite negative, rest)
  | _, _, some rest => some (.noNumber negative, rest)
  | _, _, _ => hexadecimal.or decimal

def quotient (mantissa : Nat) (exponent : Int) : Nat × Nat :=
  if exponent < 0 then (mantissa, Nat.pow 2 exponent.natAbs) else (mantissa * Nat.pow 2 exponent.natAbs, 1)

/-- Digits with a point before the last few; the point is also there without digits behind it if
`keepPoint`. -/
def pointed (places : Nat) (keepPoint : Bool) (n : Nat) : Bytes :=
  let ds := Nat.toDigits 10 n
  let ds := List.replicate (places + 1 - ds.length) '0' ++ ds
  let whole := ds.take (ds.length - places)
  if places = 0 then whole ++ (if keepPoint then ['.'] else [])
  else whole ++ '.' :: ds.drop (ds.length - places)

def fixed (places : Nat) (keepPoint : Bool) (a b : Nat) : Bytes :=
  pointed places keepPoint (nearest (a * Nat.pow 10 places) b)

/-- The digits of a quotient, one more than `places`, and its decimal exponent. -/
def leading (places : Nat) (a b : Nat) : Nat × Int :=
  if a = 0 then (0, 0)
  else
    let shifted (e : Int) : Nat :=
      let up := (places : Int) - e
      if up < 0 then nearest a (b * Nat.pow 10 up.natAbs) else nearest (a * Nat.pow 10 up.natAbs) b
    let guess : Int := ((a.log2 : Int) - b.log2) * 30103 / 100000 - 1
    let fits (e : Int) : Bool := shifted e < Nat.pow 10 (places + 1)
    let e := if fits guess then guess else if fits (guess + 1) then guess + 1 else guess + 2
    (shifted e, e)

def exponentText (letter : Char) (e : Int) : Bytes :=
  let ds := Nat.toDigits 10 e.natAbs
  letter :: (if e < 0 then '-' else '+') :: (List.replicate (2 - ds.length) '0' ++ ds)

def withoutZeros (cs : Bytes) : Bytes :=
  if cs.contains '.' then
    let rest := cs.reverse.dropWhile (· = '0')
    (match rest with
      | '.' :: rest => rest
      | rest => rest).reverse
  else cs

/-- What `%e`, `%f` and `%g` show, without a sign. -/
def shown (letter : Char) (precision : Nat) (alternate : Bool) (a b : Nat) : Bytes :=
  match letter.toLower with
  | 'f' => fixed precision alternate a b
  | 'e' =>
    let (n, e) := leading precision a b
    pointed precision alternate n ++ exponentText 'e' e
  | _ =>
    let precision := max precision 1
    let (n, e) := leading (precision - 1) a b
    let tidy (cs : Bytes) : Bytes := if alternate then cs else withoutZeros cs
    if -4 ≤ e ∧ e < precision then
      tidy (fixed ((precision : Int) - 1 - e).toNat alternate a b)
    else tidy (pointed (precision - 1) alternate n) ++ exponentText 'e' e

/-- Sixteen-fold digits of a number as it is kept, with a digit before the point: as many as are asked
for, or as many as are needed. -/
def sixteenfold (precision : Option Nat) (alternate : Bool) (mantissa : Nat) (exponent : Int) :
    Bytes :=
  let top := mantissa.log2
  let e : Int := if mantissa = 0 then 0 else max (exponent + top) (-1022)
  let scaled := scaled mantissa 1 (e - 52 - exponent)
  let places := precision.getD 13
  let kept := if places < 13 then nearest scaled (Nat.pow 16 (13 - places)) else scaled * Nat.pow 16 (places - 13)
  let fraction := Nat.toDigits 16 (kept % Nat.pow 16 places)
  let fraction := List.replicate (places - fraction.length) '0' ++ fraction.take places
  let fraction := if precision.isSome then fraction
    else (fraction.reverse.dropWhile (· = '0')).reverse
  let point := if fraction.isEmpty ∧ !alternate then [] else ['.']
  Nat.toDigits 16 (kept / Nat.pow 16 places) ++ point ++ fraction ++
    'p' :: (if e < 0 then '-' else '+') :: Nat.toDigits 10 e.natAbs

end Real

end ProseLint.Shell
