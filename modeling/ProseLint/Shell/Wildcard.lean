/-
Patterns of the shell for texts and names of files. A pattern is a list of pieces, each for one
character or for any number of them, and `accepted` says after which stretches from the start of a
text the pattern is at its end.
-/
import ProseLint.Shell.Tree
import ProseLint.Text.Digits

namespace ProseLint.Shell

/-- A piece of a pattern. -/
inductive Wildcard where
  | one (matches? : Char → Bool)
  | anything

namespace Wildcard

/-- Characters of a pattern, each with whether it is quoted. -/
abbrev Marked := List (Bool × Char)

def isIn (name : String) (c : Char) : Bool :=
  match name with
  | "alnum" => c.isAlphanum
  | "alpha" => c.isAlpha
  | "blank" => c = ' ' || c = '\t'
  | "cntrl" => c.toNat < 32 || c.toNat = 127
  | "digit" => Text.isDigit c
  | "graph" => '!' ≤ c && c ≤ '~'
  | "lower" => c.isLower
  | "print" => ' ' ≤ c && c ≤ '~'
  | "punct" => '!' ≤ c && c ≤ '~' && !c.isAlphanum
  | "space" => c = ' ' || ('\t' ≤ c && c ≤ '\r')
  | "upper" => c.isUpper
  | "xdigit" => (Text.hexDigit? c).isSome
  | _ => false

def classNames : List String :=
  ["alnum", "alpha", "blank", "cntrl", "digit", "graph", "lower", "print", "punct", "space",
    "upper", "xdigit"]

def named? (p : Marked) : Option (String × Marked) :=
  classNames.findSome? fun name =>
    let written := (':' :: name.toList ++ [':', ']']).map (false, ·)
    if written.isPrefixOf p then some (name, p.drop written.length) else none

def member? : Marked → Option (Char × Marked)
  | (false, '\\') :: (_, c) :: p => some (c, p)
  | (_, c) :: p => some (c, p)
  | [] => none

/-- The kinds of characters in a set, from after its opening bracket and what may follow that. The
first one may be a closing bracket. -/
def members? : (steps : Nat) → (first : Bool) → Marked → Option (List (Char → Bool) × Marked)
  | 0, _, _ => none
  | _ + 1, false, (false, ']') :: p => some ([], p)
  | steps + 1, _, p =>
    let byName := match p with
      | (false, '[') :: p => named? p
      | _ => none
    match byName with
    | some (name, p) => (members? steps false p).map fun (ks, rest) => (isIn name :: ks, rest)
    | none => do
      let (low, p) ← member? p
      match p with
      | (_, '-') :: (q, d) :: rest =>
        if q = false ∧ d = ']' then
          (members? steps false p).map fun (ks, rest) => ((· = low) :: ks, rest)
        else do
          let (high, rest) ← member? ((q, d) :: rest)
          (members? steps false rest).map fun (ks, rest) =>
            ((fun c => low ≤ c && c ≤ high) :: ks, rest)
      | p => (members? steps false p).map fun (ks, rest) => ((· = low) :: ks, rest)

/-- The kind of character that a set has, from after its opening bracket. -/
def set? (p : Marked) : Option ((Char → Bool) × Marked) :=
  let (others, p) := match p with
    | (false, '!') :: p => (true, p)
    | p => (false, p)
  (members? (p.length + 1) true p).map fun (ks, rest) => (fun c => ks.any (· c) != others, rest)

def pieces : (steps : Nat) → Marked → List Wildcard
  | 0, _ => []
  | _ + 1, [] => []
  | steps + 1, (true, c) :: p => one (· = c) :: pieces steps p
  | steps + 1, (false, c) :: p =>
    if c = '*' then anything :: pieces steps p
    else if c = '?' then one (fun _ => true) :: pieces steps p
    else if c = '\\' then
      match p with
      | (_, d) :: p => one (· = d) :: pieces steps p
      | [] => [one (· = '\\')]
    else if c = '[' then
      match set? p with
      | some (kind, p) => one kind :: pieces steps p
      | none => one (· = c) :: pieces steps p
    else one (· = c) :: pieces steps p

def ofMarked (p : Marked) : List Wildcard := pieces (p.length + 1) p

/-- Whether a pattern has a piece that is more than a character. -/
def isWild (p : Marked) : Bool := p.any fun (quoted, c) => !quoted && (c = '*' || c = '?' || c = '[')

/-- What may be left of a pattern, with how much that is, the most first and each once. -/
abbrev Front := List (Nat × List Wildcard)

/-- Puts something left of a pattern, and what is left behind its leading `anything`s, before what
is shorter, unless it is there. -/
def enter (left : Nat) (p : List Wildcard) (rest : Front) : Front :=
  if rest.head?.any (·.1 = left) then rest
  else match p with
    | anything :: q => (left, p) :: enter (left - 1) q rest
    | _ => (left, p) :: rest

/-- What may be left after one more character. -/
def step (c : Char) : Front → Front
  | [] => []
  | (n, anything :: p) :: rest => enter n (anything :: p) (step c rest)
  | (n, one kind :: p) :: rest =>
    if kind c then enter (n - 1) p (step c rest) else step c rest
  | (_, []) :: rest => step c rest

/-- Whether nothing may be left. -/
def isDone (f : Front) : Bool :=
  match f.getLast? with
  | some (n, _) => n = 0
  | none => false

def start (p : List Wildcard) : Front := enter p.length p []

def isMatch (p : List Wildcard) (cs : Bytes) : Bool := isDone (cs.foldl (fun f c => step c f) (start p))

/-- How long the longest or shortest stretch at the start of a text is that a pattern matches, where so
much of the text has been passed and the last match was so long. -/
def reach (longest : Bool) (f : Front) (passed : Nat) (last : Option Nat) : Bytes → Option Nat
  | [] => if isDone f then some passed else last
  | c :: cs =>
    if f.isEmpty then last
    else
      let last := if isDone f then some passed else last
      if last.isSome ∧ !longest then last else reach longest (step c f) (passed + 1) last cs

def reach? (longest : Bool) (p : List Wildcard) (cs : Bytes) : Option Nat :=
  reach longest (start p) 0 none cs

/-- A text without the longest or shortest stretch at one of its ends that a pattern matches, if there
is one. -/
def cut? (atEnd longest : Bool) (p : List Wildcard) (cs : Bytes) : Option Bytes :=
  if atEnd then (reach? longest p.reverse cs.reverse).map fun n => cs.take (cs.length - n)
  else (reach? longest p cs).map cs.drop

def cut (atEnd longest : Bool) (p : List Wildcard) (cs : Bytes) : Bytes :=
  (cut? atEnd longest p cs).getD cs

/-- Texts in a row without the stretch at one of their ends that a pattern matches. A match ends where
a text does: the shortest at the end starts in the last text where there is one, the others in the
first text. -/
def cutAll (atEnd longest : Bool) (p : List Wildcard) (texts : List Bytes) : List Bytes :=
  match texts with
  | [] => []
  | first :: rest =>
    if atEnd then
      if longest then
        match cut? true true p first with
        | some cs => [cs]
        | none => texts
      else fromLast texts.reverse
    else if longest ∧ !rest.isEmpty ∧ isMatch p first then [[]]
    else cut false longest p first :: rest
where
  fromLast : List Bytes → List Bytes
    | [] => texts
    | cs :: before =>
      match cut? true false p cs with
      | some cs => (cs :: before).reverse
      | none => fromLast before

end Wildcard

end ProseLint.Shell
