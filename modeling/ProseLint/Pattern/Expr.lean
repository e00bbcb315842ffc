/-
The expressions that patterns stand for. An expression is tried at a place in a text and prefers
some of the places it can end at to others: an alternative those of an earlier branch, a greedy
repetition those after more rounds. `Expr.repeated` makes repetitions.
-/
import ProseLint.Pattern.CharSet

namespace ProseLint.Pattern

/-- What an assertion about the words on its two sides asks for. -/
inductive WordEdge where
  /-- exactly one side is a word character -/
  | boundary
  /-- both sides are, or neither -/
  | inner
  | start
  | finish
  /-- the left side is not -/
  | startHalf
  /-- the right side is not -/
  | finishHalf
  deriving DecidableEq, Repr

inductive Assertion where
  | textStart
  | textEnd
  | lineStart
  | lineEnd
  /-- the start of a line that a carriage return may have ended -/
  | breakStart
  /-- the end of a line that a carriage return may end -/
  | breakEnd
  | word (edge : WordEdge) (plain : Bool)
  deriving DecidableEq, Repr

def isWordAt (plain : Bool) : Option Char → Bool
  | none => false
  | some c => if plain then Unicode.isPlainWord c else Unicode.isWord c

def WordEdge.holds (left right : Bool) : WordEdge → Bool
  | boundary => left != right
  | inner => left == right
  | start => !left && right
  | finish => left && !right
  | startHalf => !left
  | finishHalf => !right

def Assertion.holds (before next : Option Char) : Assertion → Bool
  | textStart => before.isNone
  | textEnd => next.isNone
  | lineStart => before.all (· = '\n')
  | lineEnd => next.all (· = '\n')
  | breakStart => before.all fun c => c = '\n' || (c = '\r' && next ≠ some '\n')
  | breakEnd => next.all fun c => c = '\r' || (c = '\n' && before ≠ some '\r')
  | word edge plain => edge.holds (isWordAt plain before) (isWordAt plain next)

inductive Expr where
  | empty
  | one (s : CharSet)
  | assert (a : Assertion)
  | group (index : Nat) (body : Expr)
  | seq (es : List Expr)
  | alt (es : List Expr)
  /-- `least` rounds or more, up to `most`; as many as possible when `greedy` -/
  | rounds (least : Nat) (most : Option Nat) (greedy : Bool) (body : Expr)
  deriving Repr

namespace Expr

mutual

/-- Whether nothing but the empty text can match. -/
def isVoid : Expr → Bool
  | empty => true
  | one _ => false
  | assert _ => true
  | group _ b => b.isVoid
  | seq es => areVoid es
  | alt es => areVoid es
  | rounds _ most _ b => most = some 0 || b.isVoid

def areVoid : List Expr → Bool
  | [] => true
  | e :: es => e.isVoid && areVoid es

end

/-- Between `least` and `most` rounds; without `most`, at least `least`. A body that only matches
the empty text is worth one round, no round at all is the empty expression, and one is the body. -/
def repeated (least : Nat) (most : Option Nat) (greedy : Bool) (body : Expr) : Expr :=
  let least := if body.isVoid then min least 1 else least
  let most := if body.isVoid then some (min (most.getD 1) 1) else most
  if most = some 0 then empty
  else if least = 1 ∧ most = some 1 then body
  else rounds least most greedy body

def sequence : List Expr → Expr
  | [] => empty
  | [e] => e
  | es => seq es

/-- One expression or another, earlier ones first. -/
def choice : List Expr → Expr
  | [] => empty
  | [e] => e
  | es => alt es

mutual

/-- The largest index of a group, if there is one above `n`; otherwise `n`. -/
def lastGroup (n : Nat) : Expr → Nat
  | empty => n
  | one _ => n
  | assert _ => n
  | group i b => b.lastGroup (max n i)
  | seq es => lastGroups n es
  | alt es => lastGroups n es
  | rounds _ _ _ b => b.lastGroup n

def lastGroups (n : Nat) : List Expr → Nat
  | [] => n
  | e :: es => lastGroups (e.lastGroup n) es

end

mutual

/-- The indices of the groups, the last one first. -/
def groupIndices (found : List Nat) : Expr → List Nat
  | empty => found
  | one _ => found
  | assert _ => found
  | group i b => b.groupIndices (i :: found)
  | seq es => allGroupIndices found es
  | alt es => allGroupIndices found es
  | rounds _ _ _ b => b.groupIndices found

def allGroupIndices (found : List Nat) : List Expr → List Nat
  | [] => found
  | e :: es => allGroupIndices (e.groupIndices found) es

end

end Expr

end ProseLint.Pattern
