/-
What `printf` shows: a format that is gone through again until no arguments are left.
-/
import ProseLint.Shell.Escape
import ProseLint.Shell.Real

namespace ProseLint.Shell.Printf

/-- How one argument is to be shown. -/
structure Conversion where
  flags : List Char
  width : Nat
  precision : Option Nat
  letter : Char
  deriving Repr

namespace Conversion

def has (c : Conversion) (flag : Char) : Bool := c.flags.contains flag

def pad (c : Conversion) (cs : Bytes) : Bytes :=
  let blanks := List.replicate (c.width - cs.length) ' '
  if c.has '-' then cs ++ blanks else blanks ++ cs

/-- A number in a field of some width, with what stands before it in front of the zeros that fill
it. -/
def padNumber (c : Conversion) (zeros : Bool) (lead digits : Bytes) : Bytes :=
  if c.has '0' ∧ !c.has '-' ∧ zeros then
    lead ++ List.replicate (c.width - lead.length - digits.length) '0' ++ digits
  else c.pad (lead ++ digits)

def sign (c : Conversion) (negative : Bool) : Bytes :=
  if negative then ['-'] else if c.has '+' then ['+'] else if c.has ' ' then [' '] else []

def clip (c : Conversion) (cs : Bytes) : Bytes :=
  match c.precision with
  | some n => cs.take n
  | none => cs

def integer (c : Conversion) (lead digits : Bytes) : Bytes :=
  let digits := if c.precision = some 0 ∧ digits = ['0'] then [] else digits
  let digits := List.replicate ((c.precision.getD 0) - digits.length) '0' ++ digits
  let digits := if c.letter = 'o' ∧ c.has '#' ∧ digits.head? ≠ some '0' then '0' :: digits else digits
  c.padNumber c.precision.isNone lead digits

/-- An integer of 64 bits in the way its letter says. -/
def shownInteger (c : Conversion) (n : Int) : Bytes :=
  let bits := Arithmetic.bits n
  let mark (m : String) : Bytes := if c.has '#' ∧ bits ≠ 0 then m.toList else []
  match c.letter with
  | 'o' => c.integer [] (Nat.toDigits 8 bits)
  | 'u' => c.integer [] (Nat.toDigits 10 bits)
  | 'x' => c.integer (mark "0x") (Nat.toDigits 16 bits)
  | 'X' => c.integer (mark "0X") ((Nat.toDigits 16 bits).map Char.toUpper)
  | _ => c.integer (c.sign (n < 0)) (Nat.toDigits 10 n.natAbs)

def shownReal (c : Conversion) (r : Real) : Bytes :=
  let cased (cs : Bytes) : Bytes := if c.letter.isUpper then cs.map Char.toUpper else cs
  match r with
  | .finite negative mantissa exponent =>
    if c.letter = 'a' ∨ c.letter = 'A' then
      c.padNumber true (c.sign negative ++ cased "0x".toList)
        (cased (Real.sixteenfold c.precision (c.has '#') mantissa exponent))
    else
      let (a, b) := Real.quotient mantissa exponent
      let cs := Real.shown c.letter (c.precision.getD 6) (c.has '#') a b
      c.padNumber true (c.sign negative) (cased cs)
  | .infinite negative => c.padNumber false (c.sign negative) (cased "inf".toList)
  | .noNumber negative => c.padNumber false (c.sign negative) (cased "nan".toList)

end Conversion

/-- What has been shown, the complaints about arguments, and the arguments that are left. -/
structure Progress where
  /-- in pieces, the last one first -/
  shown : List Bytes := []
  complaints : List Bytes := []
  args : List Bytes

/-- Why showing ends early: an argument asks for it, or the format is at fault. -/
inductive Stop where
  | asked
  /-- more is asked for than there is room for -/
  | tooMuch
  | fault (complaint : Bytes)

abbrev Showing := EStateM Stop Progress

namespace Showing

def emit (cs : Bytes) : Showing Unit := modify fun p => { p with shown := cs :: p.shown }

def complain (arg : Bytes) (complaint : String) : Showing Unit := modify fun p =>
  { p with complaints := (arg ++ ": ".toList ++ complaint.toList) :: p.complaints }

def arg? : Showing (Option Bytes) := do
  let p ← get
  set { p with args := p.args.tail }
  return p.args.head?

/-- Complains about an argument that is no number, or not from end to end. -/
def check (arg : Bytes) (rest : Option Bytes) (inRange : Bool) : Showing Unit :=
  match rest with
  | none => if arg.isEmpty then return () else complain arg "expected numeric value"
  | some [] => if inRange then return () else complain arg "Numerical result out of range"
  | some _ => complain arg "not completely converted"

/-- Takes an argument that is an integer, with a sign or without. -/
def integer (signed : Bool) : Showing Int := do
  match ← arg? with
  | none => return 0
  | some ('\'' :: cs) | some ('"' :: cs) => return (cs.head?.getD '\x00').toNat
  | some arg =>
    let read := Arithmetic.integer? arg
    let n := (read.map (·.1)).getD 0
    let nearest := if signed then Arithmetic.clamp n
      else if Nat.pow 2 64 ≤ n.natAbs then Int.pow 2 64 - 1 else n
    check arg (read.map (·.2)) (nearest = n)
    return nearest

def real : Showing Real := do
  match ← arg? with
  | none => return .finite false 0 0
  | some ('\'' :: cs) | some ('"' :: cs) =>
    return Real.ofQuotient false (cs.head?.getD '\x00').toNat 1
  | some arg =>
    let read := Real.read? arg
    let r := (read.map (·.1)).getD (.finite false 0 0)
    let isLarge : Bool := match r with
      | .infinite _ => arg.any Text.isDigit
      | _ => false
    check arg (read.map (·.2)) (!isLarge)
    return r

/-- A number in a format, or the argument that a star stands for, in 32 bits. -/
def count (cs : Bytes) : Showing (Int × Bytes) := do
  match cs with
  | '*' :: rest => return ((← integer true).bmod (Nat.pow 2 32), rest)
  | cs => return (Text.natOfDigits 10 (cs.takeWhile Text.isDigit), cs.dropWhile Text.isDigit)

/-- What is longer than this is not shown at all. -/
def maxWidth : Nat := Nat.pow 2 31 - 2

/-- There is room for this much. -/
def room : Nat := Nat.pow 2 23

/-- Shows one argument, from after the percent sign of its conversion on, and answers the rest of
the format. -/
def conversion (cs : Bytes) : Showing Bytes := do
  let isFlag (c : Char) : Bool := "#-+ 0".contains c
  let flags := cs.takeWhile isFlag
  let (width, rest) ← count (cs.dropWhile isFlag)
  let flags := if width < 0 then '-' :: flags else flags
  let (precision, rest) ← match rest with
    | '.' :: rest =>
      let (n, rest) ← count rest
      pure (if n < 0 then none else some n.toNat, rest)
    | rest => pure (none, rest)
  match rest with
  | [] => throw (.fault "missing format character".toList)
  | letter :: rest =>
    let tooLong := maxWidth < width.natAbs || precision.any (maxWidth < ·)
    if !tooLong ∧ (room < width.natAbs ∨ precision.any (room < ·)) then throw .tooMuch
    let c : Conversion :=
      if tooLong then ⟨flags, 0, none, letter⟩ else ⟨flags, width.natAbs, precision, letter⟩
    let emit (cs : Bytes) : Showing Unit := if tooLong then return () else emit cs
    if letter = 's' then
      emit (c.pad (c.clip ((← arg?).getD [])))
      return rest
    else if letter = 'b' then
      let (text, ended) := Escape.unescaped ((← arg?).getD [])
      emit (c.pad (c.clip text))
      if ended then throw .asked else return rest
    else if letter = 'c' then
      emit (c.pad [((← arg?).bind List.head?).getD '\x00'])
      return rest
    else if letter = 'd' ∨ letter = 'i' then
      emit (c.shownInteger (← integer true))
      return rest
    else if "ouxX".contains letter then
      emit (c.shownInteger (← integer false))
      return rest
    else if "aAeEfFgG".contains letter then
      emit (c.shownReal (← real))
      return rest
    else
      let written := '%' :: cs.take (cs.length - rest.length)
      throw (.fault (written ++ ": invalid directive".toList))

/-- Goes through a format once. -/
def once : (steps : Nat) → Bytes → Showing Unit
  | 0, _ => return ()
  | _ + 1, [] => return ()
  | steps + 1, '%' :: '%' :: cs => do
    emit ['%']
    once steps cs
  | steps + 1, '%' :: cs => do once steps (← conversion cs)
  | steps + 1, '\\' :: cs => do
    let (c, rest) := Escape.shown cs
    emit [c]
    once steps rest
  | steps + 1, c :: cs => do
    emit [c]
    once steps cs

/-- Goes through a format until no arguments are left. -/
def all (format : Bytes) : (passes : Nat) → Showing Unit
  | 0 => return ()
  | passes + 1 => do
    let before := (← get).args.length
    once (format.length + 1) format
    let after := (← get).args.length
    if after = 0 ∨ after = before then return () else all format passes

end Showing

/-- What `printf` shows, its complaints in order, and how it ends, unless that is too much. -/
def run (format : Bytes) (args : List Bytes) : Option (Bytes × List Bytes × Nat) :=
  let finish (p : Progress) (more : List Bytes) (status : Nat) : Option (Bytes × List Bytes × Nat) :=
    some (p.shown.reverse.flatten, p.complaints.reverse ++ more,
      if p.complaints.isEmpty then status else max status 1)
  match (Showing.all format (args.length + 1)).run { args } with
  | .ok _ p | .error .asked p => finish p [] 0
  | .error (.fault complaint) p => finish p [complaint] 2
  | .error .tooMuch _ => none

end ProseLint.Shell.Printf
