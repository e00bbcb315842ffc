/-
Reading patterns. A reader holds what is open at a place of a pattern: the flags, the pieces of the
current branch, the finished branches of the current group and the groups around it.
`Reader.read?` takes it through the text; `ofText?` is the pattern a text stands for, if it stands
for one: it has to be well-formed, not too deeply nested and not too large.
-/
import ProseLint.Pattern.Bracket
import ProseLint.Pattern.Footprint
import ProseLint.Pattern.Matching

namespace ProseLint.Pattern

def maxDepth : Nat := 250

/-- A piece of a branch. A switch of flags is a piece that matches nothing and cannot be repeated. -/
structure Piece where
  expr : Expr
  depth : Nat
  isSwitch : Bool

/-- A group that is open: the flags and what stood before it, and its index if it captures. -/
structure Opened where
  flags : Flags
  pieces : List Piece
  branches : List Piece
  index : Option Nat

/-- A reader in the middle of a pattern. Lists have what was read last first. -/
structure Reader where
  flags : Flags
  pieces : List Piece
  branches : List Piece
  opened : List Opened
  groups : Nat
  names : List (Nat × String)

namespace Reader

def initial : Reader := ⟨.initial, [], [], [], 0, []⟩

def push (r : Reader) (e : Expr) (depth : Nat) : Reader :=
  { r with pieces := ⟨e, depth, false⟩ :: r.pieces }

def branch (r : Reader) : Piece :=
  match r.pieces with
  | [] => ⟨.empty, 0, false⟩
  | [p] => p
  | ps =>
    ⟨.sequence (ps.reverse.map (·.expr)), ps.foldl (fun d p => max d p.depth) 0 + 1, false⟩

def body (r : Reader) : Piece :=
  match r.branches with
  | [] => r.branch
  | bs =>
    let ps := r.branch :: bs
    ⟨.choice (ps.reverse.map (·.expr)), ps.foldl (fun d p => max d p.depth) 0 + 1, false⟩

def nextBranch (r : Reader) : Reader :=
  { r with pieces := [], branches := r.branch :: r.branches }

def openGroup (r : Reader) (flags : Flags) (index : Option Nat) : Reader :=
  { r with
    flags, pieces := [], branches := []
    opened := ⟨r.flags, r.pieces, r.branches, index⟩ :: r.opened
    groups := if index.isSome then r.groups + 1 else r.groups }

/-- Closes the current group, after which the flags are those from before it. -/
def closeGroup? (r : Reader) : Option Reader :=
  match r.opened with
  | [] => none
  | g :: opened =>
    let inside := r.body
    let e := match g.index with
      | some i => .group i inside.expr
      | none => inside.expr
    some { r with
      flags := g.flags, branches := g.branches, opened
      pieces := ⟨e, inside.depth + 1, false⟩ :: g.pieces }

def isNameChar (first : Bool) (c : Char) : Bool :=
  c = '_' || if first then Unicode.isAlphabetic c
    else Unicode.isAlphanumeric c || c = '.' || c = '[' || c = ']'

/-- Opens a group with a name, from after `<`. Each name is given once. -/
def openNamed? (r : Reader) (cs : List Char) : Option (Reader × List Char) :=
  let name := cs.takeWhile (· ≠ '>')
  match name, cs.dropWhile (· ≠ '>') with
  | c :: more, _ :: rest =>
    if isNameChar true c && more.all (isNameChar false) &&
        !(r.names.any fun n => n.2 = String.ofList name) then
      let index := r.groups + 1
      let r := { r with names := (index, String.ofList name) :: r.names }
      some (r.openGroup r.flags (some index), rest)
    else none
  | _, _ => none

/-- Reads what follows an opening parenthesis. There are no looks ahead or behind. -/
def openParen? (r : Reader) (cs : List Char) : Option (Reader × List Char) :=
  match r.flags.skip cs with
  | '?' :: '=' :: _ | '?' :: '!' :: _ | '?' :: '<' :: '=' :: _ | '?' :: '<' :: '!' :: _ => none
  | '?' :: 'P' :: '<' :: cs => r.openNamed? cs
  | '?' :: '<' :: cs => r.openNamed? cs
  | '?' :: cs =>
    match r.flags.readLetters? [] false false cs with
    | none => none
    | some (flags, _, true, rest) => some (r.openGroup flags none, rest)
    | some (_, false, false, _) => none
    | some (flags, true, false, rest) =>
      some ({ r with flags, pieces := ⟨.empty, 0, true⟩ :: r.pieces }, rest)
  | cs => some (r.openGroup r.flags (some (r.groups + 1)), cs)

def repeat? (r : Reader) (least : Nat) (most : Option Nat) (lazy : Bool) : Option Reader :=
  match r.pieces with
  | [] => none
  | p :: ps =>
    if p.isSwitch then none
    else
      let greedy := lazy == r.flags.swapGreed
      some { r with pieces := ⟨p.expr.repeated least most greedy, p.depth + 1, false⟩ :: ps }

/-- The question mark after a repetition, which turns its greed round. -/
def takeLazy : List Char → Bool × List Char
  | '?' :: cs => (true, cs)
  | cs => (false, cs)

/-- Reads a counted repetition, from after its opening brace. -/
def readCounts? (f : Flags) (cs : List Char) : Option (Nat × Option Nat × List Char) := do
  let (least, rest) ← readCount? f (f.skip cs)
  let (most, rest) ← match rest with
    | ',' :: rest =>
      match f.skip rest with
      | '}' :: rest => some (none, '}' :: rest)
      | rest => (readCount? f rest).map fun (n, rest) => (some n, rest)
    | rest => some (some least, rest)
  match rest with
  | '}' :: rest => if most.all (least ≤ ·) then return (least, most, rest) else none
  | _ => none

def literal (f : Flags) (c : Char) : CharSet :=
  if f.ignoreCase then
    if f.unicode then (Unicode.caseForms c).foldl (fun s d => .union s (.single d)) (.single c)
    else (CharSet.plainForms c).foldl (fun s d => .union s (.single d)) (.single c)
  else .single c

/-- What a dot matches. Without Unicode it would match bytes that are no characters. -/
def dot? (f : Flags) : Option CharSet :=
  if !f.unicode then none
  else some (if f.dotAll then .all else if f.lineBreaks then .notLineEnd else .notLineFeed)

def caret (f : Flags) : Assertion :=
  if f.multiLine then if f.lineBreaks then .breakStart else .lineStart else .textStart

def dollar (f : Flags) : Assertion :=
  if f.multiLine then if f.lineBreaks then .breakEnd else .lineEnd else .textEnd

/-- Takes the next part of the pattern, which starts with `c`. -/
def step? (r : Reader) (c : Char) (cs : List Char) : Option (Reader × List Char) :=
  match c with
  | '(' => r.openParen? cs
  | ')' => r.closeGroup?.map (·, cs)
  | '|' => some (r.nextBranch, cs)
  | '[' => (readBracket? r.flags cs).map fun (s, depth, rest) => (r.push (.one s) depth, rest)
  | '?' => let (lazy, rest) := takeLazy cs; (r.repeat? 0 (some 1) lazy).map (·, rest)
  | '*' => let (lazy, rest) := takeLazy cs; (r.repeat? 0 none lazy).map (·, rest)
  | '+' => let (lazy, rest) := takeLazy cs; (r.repeat? 1 none lazy).map (·, rest)
  | '{' => do
    let (least, most, rest) ← readCounts? r.flags cs
    let (lazy, rest) := takeLazy (r.flags.skip rest)
    return (← r.repeat? least most lazy, rest)
  | '\\' => do
    let (atom, rest) ← readEscape? r.flags cs
    match atom with
    | .char c => return (r.push (.one (literal r.flags c)) 0, rest)
    | .set s => return (r.push (.one s) 0, rest)
    | .assert a => return (r.push (.assert a) 0, rest)
  | '.' => (dot? r.flags).map fun s => (r.push (.one s) 0, cs)
  | '^' => some (r.push (.assert (caret r.flags)) 0, cs)
  | '$' => some (r.push (.assert (dollar r.flags)) 0, cs)
  | c => some (r.push (.one (literal r.flags c)) 0, cs)

/-- Takes the reader to the end of the pattern. Every step takes a character, so `steps` need not
be more than the characters there are. -/
def read? : (steps : Nat) → Reader → List Char → Option Reader
  | steps, r, cs =>
    match r.flags.skip cs with
    | [] => if r.opened.isEmpty then some r else none
    | c :: cs =>
      match steps with
      | 0 => none
      | steps + 1 =>
        match r.step? c cs with
        | none => none
        | some (r, rest) => read? steps r rest

end Reader

end ProseLint.Pattern

namespace ProseLint

open Pattern

/-- A pattern that has been read: its text, its program, and the name of each group that captures,
`none` for those without one. -/
structure Pattern where
  source : String
  program : Program
  groupNames : List (Option String)
  deriving DecidableEq, Repr

namespace Pattern

/-- The names of so many groups from an index on, given the indices of those there are and the names
of some, both ascending. -/
def namesFrom (index : Nat) : (count : Nat) → (present : List Nat) → (names : List (Nat × String)) →
    List (Option String)
  | 0, _, _ => []
  | _ + 1, [], _ => []
  | n + 1, i :: present, names =>
    let names := names.dropWhile (·.1 < index)
    if i = index then
      ((names.head?.filter (·.1 = index)).map (·.2)) :: namesFrom (index + 1) n present names
    else none :: namesFrom (index + 1) n (i :: present) names

def ofText? (source : String) : Option Pattern :=
  match Reader.initial.read? source.length source.toList with
  | none => none
  | some r =>
    let body := r.body
    if body.depth ≤ maxDepth ∧ (Outline.ofExpr body.expr).fits then
      let present := (body.expr.groupIndices []).reverse
      some {
        source
        program := .ofExpr body.expr
        groupNames := namesFrom 1 (body.expr.lastGroup 0) present r.names.reverse }
    else none

def groupCount (p : Pattern) : Nat := p.groupNames.length

def indexOf? (p : Pattern) (name : String) : Option Nat :=
  (p.groupNames.findIdx? (· == some name)).map (· + 1)

def findAll (p : Pattern) (text : List Char) : List Match := p.program.findAll text

end Pattern

end ProseLint
