/-
Conditions as `test` reads them: words that are operators where an operator may stand, and operands
elsewhere.
-/
import ProseLint.Shell.Arithmetic

namespace ProseLint.Shell.Condition

/-- The words that ask something of one operand, of two, or join conditions. -/
inductive Kind where
  | unary
  | binary
  | negation
  | and
  | or
  | opening
  | closing
  deriving DecidableEq, Repr

def kind? (w : Bytes) : Option Kind :=
  let s := if (w.drop 3).isEmpty then String.ofList w else ""
  if s = "!" then some .negation
  else if s = "-a" then some .and
  else if s = "-o" then some .or
  else if s = "(" then some .opening
  else if s = ")" then some .closing
  else if ["=", "!=", "<", ">", "-eq", "-ne", "-ge", "-gt", "-le", "-lt", "-nt", "-ot",
      "-ef"].contains s then some .binary
  else
    match w with
    | ['-', c] => if "rwxefdcbpugkstznhOGLS".contains c then some .unary else none
    | _ => none

structure Knowledge where
  /-- whether a file passes the test that a letter stands for -/
  passes : Char → Bytes → Bool
  sameFile : Bytes → Bytes → Bool

/-- What is left of the words of a condition, with the one that was read last first. -/
abbrev Evaluation := EStateM Bytes (List Bytes)

def fail {α : Type} (operator : Bytes) (complaint : String) : Evaluation α :=
  throw (if operator.isEmpty then complaint.toList else operator ++ ": ".toList ++ complaint.toList)

/-- The kind of the first of some words, if it stands as an operator there: one that asks something
of one operand needs it, and does not stand before an operator for two. -/
def operator? : List Bytes → Option Kind
  | [] => none
  | w :: rest =>
    match kind? w, rest with
    | some .unary, [] => none
    | some .unary, op :: _ :: _ => if kind? op = some .binary then none else some .unary
    | some .opening, [] => none
    | k, _ => k

def advance : Evaluation Unit := modify List.tail

def number (cs : Bytes) : Evaluation Int :=
  let bad : Evaluation Int := throw ("Illegal number: ".toList ++ cs)
  let (negative, rest) := match cs.dropWhile Arithmetic.isSpace with
    | '-' :: cs => (true, cs)
    | '+' :: cs => (false, cs)
    | cs => (false, cs)
  let digits := rest.takeWhile Text.isDigit
  let n : Int := Text.natOfDigits 10 digits
  let n := if negative then -n else n
  if digits.isEmpty ∨ !(rest.dropWhile Text.isDigit).all Arithmetic.isSpace ∨
      Arithmetic.clamp n ≠ n then bad
  else return n

def precedes (a b : Bytes) : Bool := a.map Char.toNat < b.map Char.toNat

def holds (k : Knowledge) (operator a b : Bytes) : Evaluation Bool := do
  match String.ofList operator with
  | "=" => return a = b
  | "!=" => return a ≠ b
  | "<" => return precedes a b
  | ">" => return precedes b a
  | "-eq" => return (← number a) = (← number b)
  | "-ne" => return (← number a) ≠ (← number b)
  | "-ge" => return (← number a) ≥ (← number b)
  | "-gt" => return (← number a) > (← number b)
  | "-le" => return (← number a) ≤ (← number b)
  | "-lt" => return (← number a) < (← number b)
  | "-ef" => return k.sameFile a b
  | _ => return false

def holdsOne (k : Knowledge) (letter : Char) (a : Bytes) : Evaluation Bool :=
  match letter with
  | 'z' => return a.isEmpty
  | 'n' => return !a.isEmpty
  | 't' => do
    let _ ← number a
    return false
  | letter => return k.passes letter a

mutual

def any (k : Knowledge) : (steps : Nat) → Option Kind → Evaluation Bool
  | 0, _ => return false
  | steps + 1, first => do
    let a ← every k steps first
    let ws ← get
    if operator? ws.tail = some .or then
      set (ws.drop 2)
      let b ← any k steps (operator? (ws.drop 2))
      return a || b
    else return a

def every (k : Knowledge) : (steps : Nat) → Option Kind → Evaluation Bool
  | 0, _ => return false
  | steps + 1, first => do
    let a ← negated k steps first
    let ws ← get
    if operator? ws.tail = some .and then
      set (ws.drop 2)
      let b ← every k steps (operator? (ws.drop 2))
      return a && b
    else return a

def negated (k : Knowledge) : (steps : Nat) → Option Kind → Evaluation Bool
  | 0, _ => return false
  | steps + 1, first => do
    if first = some .negation then
      let ws ← get
      if ws.tail.isEmpty then return true
      else
        advance
        return !(← negated k steps (operator? ws.tail))
    else single k steps first

def single (k : Knowledge) : (steps : Nat) → Option Kind → Evaluation Bool
  | 0, _ => return false
  | steps + 1, first => do
    match ← get with
    | [] => return false
    | w :: rest =>
      if first = some .opening then
        advance
        let inner := operator? rest
        if inner = some .closing then return false
        else
          let a ← any k steps inner
          advance
          if operator? (← get) = some .closing then return a
          else fail [] "closing paren expected"
      else if first = some .unary then
        match w, rest with
        | [_, letter], a :: _ =>
          advance
          holdsOne k letter a
        | _, _ => fail w "argument expected"
      else if operator? rest = some .binary then
        match rest with
        | op :: b :: _ =>
          set rest.tail
          holds k op w b
        | op :: [] => fail op "argument expected"
        | [] => return false
      else return !w.isEmpty

end

/-- Whether a condition holds, or what is wrong with it. -/
def eval (k : Knowledge) (args : List Bytes) : Except Bytes Bool :=
  let whole (args : List Bytes) (first : Option Kind) : Except Bytes Bool :=
    match (any k (8 * args.length + 16) first).run args with
    | .error complaint _ => .error complaint
    | .ok _ (w :: _ :: _) =>
      .error (if w.isEmpty then "unexpected operator".toList
        else w ++ ": unexpected operator".toList)
    | .ok a _ => .ok a
  let rec recheck : (steps : Nat) → List Bytes → Except Bytes Bool
    | 0, args => whole args (operator? args)
    | steps + 1, args =>
      let isBinary : Bool := match args with
        | [_, op, _] => kind? op = some .binary
        | _ => false
      if args.isEmpty then .ok false
      else if isBinary then whole args none
      else if args.length = 3 ∨ args.length = 4 then
        match args with
        | ['('] :: rest =>
          if rest.getLast? = some [')'] then whole rest.dropLast (operator? rest.dropLast)
          else whole args (operator? args)
        | ['!'] :: rest => (recheck steps rest).map (!·)
        | args => whole args (operator? args)
      else whole args (operator? args)
  recheck 4 args

end ProseLint.Shell.Condition
