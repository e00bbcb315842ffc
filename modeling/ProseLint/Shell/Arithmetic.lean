/-
Arithmetic of shell scripts: integers of 64 bits that wrap around, variables, and operators that are
taken as soon as their operands are known.
-/
import ProseLint.Shell.Tree
import ProseLint.Text.Digits

namespace ProseLint.Shell.Arithmetic

/-- The 64 bits of a number, as a number with a sign. -/
def wrap (n : Int) : Int := n.bmod (Nat.pow 2 64)

def clamp (n : Int) : Int := max (-(Int.pow 2 63)) (min n (Int.pow 2 63 - 1))

def isSpace (c : Char) : Bool := c = ' ' || ('\t' ≤ c && c ≤ '\r')

/-- The digits at the start of a text, after the mark of their base: `0x` for sixteen, `0` for
eight. -/
def digits (cs : Bytes) : Nat × Bytes :=
  let (base, cs) := match cs with
    | '0' :: x :: c :: rest =>
      if (x = 'x' ∨ x = 'X') ∧ (Text.hexDigit? c).isSome then (16, c :: rest)
      else (8, '0' :: x :: c :: rest)
    | '0' :: rest => (8, '0' :: rest)
    | cs => (10, cs)
  let isPart (c : Char) : Bool := (Text.digit? base c).isSome
  (Text.natOfDigits base (cs.takeWhile isPart), cs.dropWhile isPart)

/-- An integer at the start of a text, after blanks and a sign, and what follows it. Without digits
nothing is taken. -/
def integer? (cs : Bytes) : Option (Int × Bytes) :=
  let (negative, rest) := match cs.dropWhile isSpace with
    | '-' :: cs => (true, cs)
    | '+' :: cs => (false, cs)
    | cs => (false, cs)
  if rest.head?.any Text.isDigit then
    let (n, rest) := digits rest
    some (if negative then -n else n, rest)
  else none

/-- The number in a variable: none written is zero. -/
def stored? (cs : Bytes) : Option Int :=
  match integer? cs with
  | some (n, rest) => if rest.all isSpace ∧ clamp n = n then some n else none
  | none => if cs.isEmpty then some 0 else none

/-- The operators, the longest first. -/
def operators : List String :=
  ["<<=", ">>=", "==", "!=", "<=", ">=", "<<", ">>", "&&", "||", "+=", "-=", "*=", "/=", "%=", "&=",
    "^=", "|=", "<", ">", "=", "+", "-", "*", "/", "%", "&", "^", "|", "!", "~", "(", ")", "?", ":"]

/-- The operators of two operands that are numbers, by how close they bind them. -/
def levels : List (List String) :=
  [["|"], ["^"], ["&"], ["==", "!="], ["<=", ">=", "<", ">"], ["<<", ">>"], ["+", "-"],
    ["*", "/", "%"]]

inductive Token where
  | number (n : Int)
  | variable (name : String)
  | operator (text : String)
  | finish
  | unknown
  deriving DecidableEq, Repr

def token (cs : Bytes) : Token × Bytes :=
  match cs.dropWhile fun c => c = ' ' || c = '\t' || c = '\n' with
  | [] => (.finish, [])
  | c :: cs =>
    if Text.isDigit c then
      let (n, rest) := digits (c :: cs)
      (.number (clamp n), rest)
    else if Word.isNameStart c then
      (.variable (String.ofList (c :: cs.takeWhile Word.isNameChar)), cs.dropWhile Word.isNameChar)
    else
      match operators.find? (·.toList.isPrefixOf (c :: cs)) with
      | some o => (.operator o, (c :: cs).drop o.length)
      | none => (.unknown, cs)

inductive Fault where
  | unreadable (complaint : String)
  | badNumber (written : Bytes)
  deriving DecidableEq, Repr

/-- An expression in the middle of its evaluation, and the variables that it has given values. -/
structure Progress where
  rest : Bytes
  assigned : List (String × Int) := []

abbrev Evaluation := EStateM Fault Progress

def fail {α : Type} (complaint : String) : Evaluation α := throw (.unreadable complaint)

def peek : Evaluation Token := do return (token (← get).rest).1

def next : Evaluation Token := do
  let (t, rest) := token (← get).rest
  modify ({ · with rest })
  return t

def load (valueOf : String → Bytes) (name : String) : Evaluation Int := do
  match (← get).assigned.lookup name with
  | some n => return n
  | none =>
    match stored? (valueOf name) with
    | some n => return n
    | none => throw (.badNumber (valueOf name))

def store (name : String) (n : Int) : Evaluation Int := do
  modify fun p => { p with assigned := (name, n) :: p.assigned }
  return n

def truth (b : Bool) : Int := if b then 1 else 0

def bits (n : Int) : Nat := (n % Int.pow 2 64).toNat

def apply (operator : String) (a b : Int) : Evaluation Int :=
  match operator with
  | "|" => return wrap (Int.ofNat (bits a ||| bits b))
  | "^" => return wrap (Int.ofNat (bits a ^^^ bits b))
  | "&" => return wrap (Int.ofNat (bits a &&& bits b))
  | "==" => return truth (a = b)
  | "!=" => return truth (a ≠ b)
  | "<=" => return truth (a ≤ b)
  | ">=" => return truth (b ≤ a)
  | "<" => return truth (a < b)
  | ">" => return truth (b < a)
  | "<<" => return wrap (a * Int.pow 2 (bits b % 64))
  | ">>" => return a.fdiv (Int.pow 2 (bits b % 64))
  | "+" => return wrap (a + b)
  | "-" => return wrap (a - b)
  | "*" => return wrap (a * b)
  | "/" => if b = 0 then fail "division by zero" else return wrap (a.tdiv b)
  | _ => if b = 0 then fail "division by zero" else return wrap (a.tmod b)

/-- The operator in a sign that gives a variable its new value. -/
def updating? (sign : String) : Option (Option String) :=
  if sign = "=" then some none
  else if ["==", "!=", "<=", ">="].contains sign then none
  else
    match sign.toList.getLast? with
    | some '=' => some (some (String.ofList sign.toList.dropLast))
    | _ => none

mutual

/-- An assignment or a choice. What is not `live` is read over. -/
def assignment (valueOf : String → Bytes) : (steps : Nat) → (live : Bool) → Evaluation Int
  | 0, _ => fail "expecting primary"
  | steps + 1, live => do
    let before ← get
    match ← next with
    | .variable name =>
      match ← peek with
      | .operator sign =>
        match updating? sign with
        | some update =>
          let _ ← next
          let n ← assignment valueOf steps live
          if live then
            match update with
            | none => store name n
            | some operator => store name (← apply operator (← load valueOf name) n)
          else return n
        | none =>
          set before
          choice valueOf steps live
      | _ =>
        set before
        choice valueOf steps live
    | _ =>
      set before
      choice valueOf steps live

def choice (valueOf : String → Bytes) : (steps : Nat) → (live : Bool) → Evaluation Int
  | 0, _ => fail "expecting primary"
  | steps + 1, live => do
    let a ← disjunction valueOf steps live
    if (← peek) = .operator "?" then
      let _ ← next
      let b ← assignment valueOf steps (live && a ≠ 0)
      if (← next) = .operator ":" then
        let c ← choice valueOf steps (live && a = 0)
        return if a ≠ 0 then b else c
      else fail "expecting ':'"
    else return a

def disjunction (valueOf : String → Bytes) : (steps : Nat) → (live : Bool) → Evaluation Int
  | 0, _ => fail "expecting primary"
  | steps + 1, live => do
    let a ← conjunction valueOf steps live
    if (← peek) = .operator "||" then
      let _ ← next
      let b ← disjunction valueOf steps (live && a = 0)
      return truth (a ≠ 0 || b ≠ 0)
    else return a

def conjunction (valueOf : String → Bytes) : (steps : Nat) → (live : Bool) → Evaluation Int
  | 0, _ => fail "expecting primary"
  | steps + 1, live => do
    let a ← level valueOf steps live levels
    if (← peek) = .operator "&&" then
      let _ ← next
      let b ← conjunction valueOf steps (live && a ≠ 0)
      return truth (a ≠ 0 && b ≠ 0)
    else return a

def level (valueOf : String → Bytes) :
    (steps : Nat) → (live : Bool) → List (List String) → Evaluation Int
  | 0, _, _ => fail "expecting primary"
  | steps + 1, live, [] => operand valueOf steps live
  | steps + 1, live, os :: tighter => do
    chain valueOf steps live os tighter (← level valueOf steps live tighter)

def chain (valueOf : String → Bytes) : (steps : Nat) → (live : Bool) → List String →
    List (List String) → Int → Evaluation Int
  | 0, _, _, _, _ => fail "expecting primary"
  | steps + 1, live, os, tighter, a => do
    match ← peek with
    | .operator o =>
      if os.contains o then
        let _ ← next
        let b ← level valueOf steps live tighter
        chain valueOf steps live os tighter (← if live then apply o a b else pure b)
      else return a
    | _ => return a

def operand (valueOf : String → Bytes) : (steps : Nat) → (live : Bool) → Evaluation Int
  | 0, _ => fail "expecting primary"
  | steps + 1, live => do
    match ← next with
    | .number n => return n
    | .variable name => if live then load valueOf name else return 0
    | .operator "+" => operand valueOf steps live
    | .operator "-" => return wrap (-(← operand valueOf steps live))
    | .operator "!" => return truth ((← operand valueOf steps live) = 0)
    | .operator "~" => return -(← operand valueOf steps live) - 1
    | .operator "(" =>
      let n ← assignment valueOf steps live
      if (← next) = .operator ")" then return n else fail "expecting ')'"
    | _ => fail "expecting primary"

end

/-- The value of an expression, and the variables that it gives values, the first one first. -/
def eval (valueOf : String → Bytes) (cs : Bytes) : Except Fault (Int × List (String × Int)) :=
  let whole : Evaluation Int := do
    let n ← assignment valueOf (16 * cs.length + 32) true
    if (← peek) = .finish then return n else fail "expecting EOF"
  match whole.run { rest := cs } with
  | .ok n p => .ok (n, p.assigned.reverse)
  | .error fault _ => .error fault

end ProseLint.Shell.Arithmetic
