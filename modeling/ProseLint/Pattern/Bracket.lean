/-
Sets in square brackets. They hold characters, ranges, escapes, named classes and further sets in
brackets; `&&`, `--` and `~~` intersect, subtract and take the symmetric difference, from left to
right. `readBracket?` reads one, from after its opening bracket.
-/
import ProseLint.Pattern.Escape

namespace ProseLint.Pattern

inductive SetOp where
  | inter
  | diff
  | symmDiff
  deriving DecidableEq, Repr

def SetOp.apply : SetOp → CharSet → CharSet → CharSet
  | inter => .inter
  | diff => .diff
  | symmDiff => .symmDiff

/-- Members read so far: their union, how many there are, and how deep the deepest is nested. -/
structure Members where
  set : CharSet
  count : Nat
  depth : Nat

namespace Members

def none : Members := ⟨.empty, 0, 0⟩

def add (m : Members) (s : CharSet) (depth : Nat) : Members :=
  ⟨if m.count = 0 then s else .union m.set s, m.count + 1, max m.depth depth⟩

/-- Two members or more are nested one level deeper than one. -/
def depthOf (m : Members) : Nat := if m.count ≤ 1 then m.depth else m.depth + 1

end Members

/-- What is open while members are read: a bracket, with the members before it, or an operation,
with its left operand. -/
inductive Pending where
  | bracket (negated : Bool) (outer : Members)
  | operand (op : SetOp) (left : CharSet) (depth : Nat)

/-- The named classes, all of characters below 80. -/
def namedClass? (name : List Char) : Option CharSet :=
  match String.ofList name with
  | "alnum" => some (.union (.range '0' '9') (.union (.range 'A' 'Z') (.range 'a' 'z')))
  | "alpha" => some (.union (.range 'A' 'Z') (.range 'a' 'z'))
  | "ascii" => some (.range '\x00' '\x7f')
  | "blank" => some (.union (.single '\t') (.single ' '))
  | "cntrl" => some (.union (.range '\x00' '\x1f') (.single '\x7f'))
  | "digit" => some (.range '0' '9')
  | "graph" => some (.range '!' '~')
  | "lower" => some (.range 'a' 'z')
  | "print" => some (.range ' ' '~')
  | "punct" => some (.union (.range '!' '/') (.union (.range ':' '@')
      (.union (.range '[' '\x60') (.range '\x7b' '~'))))
  | "space" => some (.cls .plainBlank)
  | "upper" => some (.range 'A' 'Z')
  | "word" => some (.cls .plainWord)
  | "xdigit" => some (.union (.range '0' '9') (.union (.range 'A' 'F') (.range 'a' 'f')))
  | _ => none

/-- A named class, from after its opening bracket: `:name:]` or `:^name:]`. -/
def readNamedClass? (f : Flags) : List Char → Option (Option CharSet × List Char)
  | ':' :: cs =>
    let (negated, cs) := match cs with
      | '^' :: cs => (true, cs)
      | cs => (false, cs)
    match cs.dropWhile (· ≠ ':') with
    | ':' :: ']' :: rest =>
      (namedClass? (cs.takeWhile (· ≠ ':'))).map fun s => (f.negate? negated (f.fold s), rest)
    | _ => none
  | _ => none

/-- How many hyphens a set starts with, and the rest after them. -/
def leadingHyphens (verbose inRemark : Bool) : List Char → Nat × List Char
  | [] => (0, [])
  | c :: cs =>
    if inRemark then leadingHyphens verbose (c ≠ '\n') cs
    else if c = '-' then
      let (n, rest) := leadingHyphens verbose false cs
      (n + 1, rest)
    else if verbose && Unicode.isBlank c then leadingHyphens verbose false cs
    else if verbose && c = '#' then leadingHyphens verbose true cs
    else (0, c :: cs)

/-- What follows an opening bracket: perhaps `^`, then hyphens, or one `]`, that stand for
themselves. -/
def openBracket (f : Flags) (cs : List Char) : Bool × Members × List Char :=
  let cs := f.skip cs
  let (negated, cs) := match cs with
    | '^' :: cs => (true, f.skip cs)
    | cs => (false, cs)
  let (hyphens, cs) := leadingHyphens f.verbose false cs
  let members := (List.replicate hyphens '-').foldl (fun m c => m.add (.single c) 0) .none
  match hyphens, cs with
  | 0, ']' :: cs => (negated, members.add (.single ']') 0, f.skip cs)
  | _, cs => (negated, members, cs)

/-- A character or an escape in a set. Without Unicode only characters below 80 can stand there. -/
def readMember? (f : Flags) : List Char → Option (Atom × List Char)
  | [] => none
  | c :: cs => do
    let (atom, rest) ← if c = '\\' then readEscape? f cs else some (.char c, cs)
    match atom with
    | .assert _ => none
    | .char c => if !f.unicode ∧ 0x80 ≤ c.toNat then none else return (atom, rest)
    | .set _ => return (atom, rest)

/-- A member of a set: a character, an escape or a range. -/
def readRange? (f : Flags) (cs : List Char) : Option (CharSet × List Char) := do
  let (first, rest) ← readMember? f cs
  let rest := f.skip rest
  let alone : Option (CharSet × List Char) := match first with
    | .char c => some (.single c, rest)
    | .set s => some (s, rest)
    | .assert _ => none
  match rest with
  | [] => none
  | '-' :: more =>
    if f.peek more = some ']' ∨ f.peek more = some '-' then alone
    else do
      let (last, rest) ← readMember? f (f.skip more)
      match first, last with
      | .char a, .char b => if a ≤ b then return (.range a b, rest) else none
      | _, _ => none
  | _ => alone

/-- The operand that members make, joined with the operation that waits for it. -/
def closeOperand (f : Flags) (m : Members) : List Pending → CharSet × Nat × List Pending
  | .operand op left depth :: pending =>
    (op.apply (f.fold left) (f.fold m.set), max depth m.depthOf + 1, pending)
  | pending => (m.set, m.depthOf, pending)

/-- Reads members and what is pending up to the bracket that closes the set. Every step takes a
character, so `steps` need not be more than the characters there are. -/
def readMembers? (f : Flags) :
    (steps : Nat) → List Pending → Members → List Char → Option (CharSet × Nat × List Char)
  | 0, _, _, _ => none
  | steps + 1, pending, members, cs =>
    let operate (op : SetOp) (rest : List Char) :=
      let (left, depth, pending) := closeOperand f members pending
      readMembers? f steps (.operand op left depth :: pending) .none rest
    match f.skip cs with
    | [] => none
    | '[' :: rest =>
      match readNamedClass? f rest with
      | some (s, rest) => do readMembers? f steps pending (members.add (← s) 0) rest
      | none =>
        let (negated, inner, rest) := openBracket f rest
        readMembers? f steps (.bracket negated members :: pending) inner rest
    | ']' :: rest =>
      match closeOperand f members pending with
      | (set, depth, .bracket negated outer :: pending) => do
        let set ← f.negate? negated (f.fold set)
        if pending.isEmpty then return (set, depth + 1, rest)
        else readMembers? f steps pending (outer.add set (depth + 1)) rest
      | _ => none
    | '&' :: '&' :: rest => operate .inter rest
    | '-' :: '-' :: rest => operate .diff rest
    | '~' :: '~' :: rest => operate .symmDiff rest
    | cs => do
      let (s, rest) ← readRange? f cs
      readMembers? f steps pending (members.add s 0) rest

def readBracket? (f : Flags) (cs : List Char) : Option (CharSet × Nat × List Char) :=
  let (negated, members, rest) := openBracket f cs
  readMembers? f (rest.length + 1) [.bracket negated .none] members rest

end ProseLint.Pattern
