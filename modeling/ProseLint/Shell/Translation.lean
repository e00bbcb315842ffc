/-
Sets of bytes as `tr` reads them, and what it does with them.
-/
import ProseLint.Shell.Escape
import ProseLint.Shell.Option
import ProseLint.Shell.Quoted
import ProseLint.Shell.Wildcard

namespace ProseLint.Shell.Translation

inductive Item where
  | one (c : Char)
  | range (first last : Char)
  | named (name : String)
  | same (c : Char)
  /-- so many of one byte; zero is as many as are needed -/
  | repeated (c : Char) (count : Nat)
  deriving DecidableEq, Repr

/-- A byte of a set and whether it is written with a backslash. -/
abbrev Marked := List (Bool × Char)

/-- What a backslash and a letter stand for. -/
def control? : Char → Option Char
  | 'a' => some '\x07'
  | 'b' => some '\x08'
  | 'f' => some '\x0c'
  | 'n' => some '\n'
  | 'r' => some '\r'
  | 't' => some '\t'
  | 'v' => some '\x0b'
  | _ => none

def unescaped : (steps : Nat) → Bytes → Marked
  | 0, _ => []
  | _ + 1, [] => []
  | _ + 1, ['\\'] => [(false, '\\')]
  | steps + 1, '\\' :: c :: cs =>
    if Escape.isOctal c then
      let digits := ((c :: cs).take 3).takeWhile Escape.isOctal
      let n := Text.natOfDigits 8 digits
      let digits := if 255 < n then digits.dropLast else digits
      (true, Char.ofNat (Text.natOfDigits 8 digits)) ::
        unescaped steps ((c :: cs).drop digits.length)
    else (true, (control? c).getD c) :: unescaped steps cs
  | steps + 1, c :: cs => (false, c) :: unescaped steps cs

/-- What is said about the escapes in a set that may be meant otherwise. -/
def warnings : (steps : Nat) → Bytes → List Bytes
  | 0, _ => []
  | _ + 1, [] => []
  | _ + 1, ['\\'] =>
    ["warning: an unescaped backslash at end of string is not portable".toList]
  | steps + 1, '\\' :: c :: cs =>
    let digits := ((c :: cs).take 3).takeWhile Escape.isOctal
    match digits with
    | [a, b, c] =>
      if 255 < Text.natOfDigits 8 digits then
        ("warning: the ambiguous octal escape \\".toList ++ [a, b, c] ++
          " is being\n\tinterpreted as the 2-byte sequence \\0".toList ++ [a, b, ',', ' ', c]) ::
          warnings steps (cs.drop 1)
      else warnings steps (cs.drop 2)
    | _ => warnings steps (cs.drop (digits.length - 1))
  | steps + 1, _ :: cs => warnings steps cs

/-- What stands between a bracket with a mark and the mark with its closing bracket. -/
def bracketed? (mark : Char) : Marked → Option (Marked × Marked)
  | (false, c) :: (false, ']') :: p => if c = mark then some ([], p) else do
    let (inside, rest) ← bracketed? mark ((false, ']') :: p)
    return ((false, c) :: inside, rest)
  | c :: p => do
    let (inside, rest) ← bracketed? mark p
    return (c :: inside, rest)
  | [] => none

def letters (p : Marked) : Bytes := p.map (·.2)

/-- What a set says that is no set. -/
def invalidCount (written : Marked) : Bytes :=
  "invalid repeat count ".toList ++ Quoted.argument (Quoted.plain (letters written)) ++ " in [c*n] construct".toList

/-- A part of a set in brackets, if there is one. -/
def special? (p : Marked) : Except Bytes (Option (Item × Marked)) :=
  match p with
  | (false, '[') :: (false, ':') :: rest =>
    match bracketed? ':' rest with
    | some (name, rest) =>
      let name := letters name
      if Wildcard.classNames.contains (String.ofList name) then
        .ok (some (.named (String.ofList name), rest))
      else if name.isEmpty then .error "missing character class name '[::]'".toList
      else .error ("invalid character class ".toList ++ Quoted.argument (Quoted.plain name))
    | none => .ok none
  | (false, '[') :: (false, '=') :: rest =>
    match bracketed? '=' rest with
    | some ([(_, c)], rest) => .ok (some (.same c, rest))
    | some ([], _) => .error "missing equivalence class character '[==]'".toList
    | some (cs, _) =>
      .error (Quoted.plain (letters cs) ++ ": equivalence class operand must be a single character".toList)
    | none => .ok none
  | (false, '[') :: (_, c) :: (false, '*') :: rest =>
    let count := rest.takeWhile (· ≠ (false, ']'))
    match rest.dropWhile (· ≠ (false, ']')) with
    | _ :: rest =>
      let digits := letters count
      let base := if digits.head? = some '0' then 8 else 10
      if digits.all fun c => (Text.digit? base c).isSome then
        .ok (some (.repeated c (Text.natOfDigits base digits), rest))
      else .error (invalidCount count)
    | [] => .ok none
  | _ => .ok none

def endpoint (c : Char) : Bytes := if Quoted.isPlain c then [c] else '\\' :: Quoted.octal c

def items : (steps : Nat) → Marked → Except Bytes (List Item)
  | 0, _ => .ok []
  | _ + 1, [] => .ok []
  | steps + 1, (quoted, c) :: p => do
    match ← special? ((quoted, c) :: p) with
    | some (item, rest) => return item :: (← items steps rest)
    | none =>
      match p with
      | (false, '-') :: (_, d) :: rest =>
        if c ≤ d then return .range c d :: (← items steps rest)
        else throw ("range-endpoints of '".toList ++ endpoint c ++ '-' :: endpoint d ++
          "' are in reverse collating sequence order".toList)
      | p => return .one c :: (← items steps p)

def all : Bytes := (List.range 256).map Char.ofNat

def Item.bytes (fill : Nat) : Item → Bytes
  | one c | same c => [c]
  | range first last =>
    (List.range' first.toNat (last.toNat + 1 - first.toNat)).map Char.ofNat
  | named name => all.filter (Wildcard.isIn name)
  | repeated c 0 => List.replicate fill c
  | repeated c count => List.replicate count c

def bytesOf (fill : Nat) (is : List Item) : Bytes := is.flatMap (Item.bytes fill)

def isCase : Item → Bool
  | .named name => name = "lower" || name = "upper"
  | _ => false

def isClass : Item → Bool
  | .named _ => true
  | _ => false

def isSame : Item → Bool
  | .same _ => true
  | _ => false

def isFilling : Item → Bool
  | .repeated _ 0 => true
  | _ => false

structure Way where
  complement : Bool
  delete : Bool
  squeeze : Bool
  truncate : Bool

/-- Pairs of bytes and what stands for them; a class of letters of one case stands for the other
case where both sets have one in the same place. -/
def pairs : (steps : Nat) → (sources targets : List Item) → Except Bytes (List (Char × Char))
  | 0, _, _ => .ok []
  | _ + 1, [], _ => .ok []
  | _ + 1, _, [] => .ok []
  | steps + 1, s :: ss, t :: ts =>
    let misaligned : Except Bytes (List (Char × Char)) :=
      .error "misaligned [:upper:] and/or [:lower:] construct".toList
    if isCase t then
      if isCase s then do
        let change (c : Char) : Char :=
          if s = t then c else if t = .named "upper" then c.toUpper else c.toLower
        return (s.bytes 0).map (fun c => (c, change c)) ++ (← pairs steps ss ts)
      else misaligned
    else
      let from_ := s.bytes 0
      let to_ := t.bytes 0
      let n := min from_.length to_.length
      let rest (is : List Item) (left : Bytes) : List Item := left.map Item.one ++ is
      if n = 0 then
        if from_.isEmpty then pairs steps ss (t :: ts) else pairs steps (s :: ss) ts
      else do
        let more ← pairs steps (rest ss (from_.drop n)) (rest ts (to_.drop n))
        return (from_.take n).zip (to_.take n) ++ more

/-- Leaves one of each run of the same byte of a set. -/
def squeezed (isIn : Char → Bool) : Bytes → Bytes
  | a :: b :: cs =>
    if a = b ∧ isIn a then squeezed isIn (b :: cs) else a :: squeezed isIn (b :: cs)
  | cs => cs

def table (w : Way) (one two : List Item) : Except Bytes (List (Char × Char)) := do
  let source := if w.complement then
      let set := bytesOf 0 one
      all.filter (!set.contains ·)
    else bytesOf 0 one
  let given := (two.filter (!isFilling ·)).flatMap (Item.bytes 0)
  let target := bytesOf (source.length - given.length) two
  if 1 < (two.filter isFilling).length then
    throw "only one [c*] repeat construct may appear in string2".toList
  else if two.any isSame then
    throw "[=c=] expressions may not appear in string2 when translating".toList
  else if two.any fun i => isClass i && !isCase i then
    throw ("when translating, the only character classes that may appear in\n" ++
      "string2 are 'upper' and 'lower'").toList
  else if target.isEmpty ∧ !w.truncate ∧ !source.isEmpty then
    throw "when not truncating set1, string2 must be non-empty".toList
  else
    let last := target.getLast?.getD '\x00'
    let filled (is : List Item) : List Item :=
      is.map fun i => if isFilling i then
          match i with
          | .repeated c _ => .repeated c (source.length - given.length)
          | i => i
        else i
    let two := filled two
    let padding := if w.truncate then [] else [Item.repeated last source.length]
    let ended := (two.getLast?.any isClass) && target.length < source.length && !w.truncate
    let tooLong : Except Bytes (List (Char × Char)) :=
      .error ("when translating with string1 longer than string2,\nthe latter string must" ++
        " not end with a character class").toList
    if two.any isCase ∧ !w.complement then
      let found ← pairs (source.length + target.length + 600) one (two ++ padding)
      if ended then tooLong else return found
    else if ended then tooLong
    else if w.complement ∧ one.any isClass ∧ !w.truncate ∧ target.any (· ≠ last) then
      throw ("when translating with complemented character classes,\nstring2 must map all" ++
        " characters in the domain to one").toList
    else return source.zip (target ++ List.replicate (source.length - target.length) last |>.take
      (if w.truncate then target.length else source.length))

def run (w : Way) (sets : List (List Item)) (input : Bytes) : Except Bytes Bytes := do
  let inOne (is : List Item) : Char → Bool :=
    let set := (all.map fun c => (bytesOf 0 is).contains c != w.complement).toArray
    fun c => set[c.toNat]?.getD false
  let inTwo (is : List Item) : Char → Bool :=
    let set := (all.map fun c => (bytesOf 1 is).contains c).toArray
    fun c => set[c.toNat]?.getD false
  if (sets.head?.getD []).any isFilling then
    throw "the [c*] repeat construct may not appear in string1".toList
  match sets with
  | [one] =>
    let isIn := inOne one
    if w.delete then return input.filter (!isIn ·) else return squeezed isIn input
  | [one, two] =>
    if w.delete then
      if 1 < (two.filter isFilling).length then
        throw "only one [c*] repeat construct may appear in string2".toList
      if two.any isFilling then
        throw "the [c*] construct may appear in string2 only when translating".toList
      let isIn := inOne one
      return squeezed (inTwo two) (input.filter (!isIn ·))
    else
      let found ← table w one two
      let targets := found.foldl (fun (a : Array Char) (c, d) => a.setIfInBounds c.toNat d) all.toArray
      let output := input.map fun c => targets[c.toNat]?.getD c
      return if w.squeeze then squeezed (inTwo two) output else output
  | _ => return input

def options : OptionTable := {
  letters := ['A', 'c', 'C', 'd', 's', 't']
  words := [("complement", 'c'), ("delete", 'd'), ("squeeze-repeats", 's'), ("truncate-set1", 't'),
    ("help", 'h'), ("version", 'h')]
  anywhere := false }

end ProseLint.Shell.Translation
