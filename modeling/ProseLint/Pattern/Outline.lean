/-
The outline of an expression: what it comes to when neighbouring characters are joined to words,
branches that are single characters to one set, and what all branches start with is put before them.
How large a pattern is goes by its outline.
-/
import ProseLint.Pattern.Expr
import ProseLint.Text.Bytes

namespace ProseLint.Pattern

inductive Outline where
  | empty
  | word (cs : List Char)
  | set (rs : Unicode.Ranges)
  | assert (a : Assertion)
  | group (index : Nat) (body : Outline)
  | seq (os : List Outline)
  | alt (os : List Outline)
  | rounds (least : Nat) (most : Option Nat) (greedy : Bool) (body : Outline)
  deriving BEq, Repr

namespace Outline

/-- One character out of a set; a single one is a word. -/
def ofRanges : Unicode.Ranges → Outline
  | [(a, b)] => if a = b then word [Char.ofNat a] else set [(a, b)]
  | rs => set rs

/-- An outline before others, where words are joined. -/
def before (o : Outline) (os : List Outline) : List Outline :=
  match o, os with
  | empty, os => os
  | word cs, word ds :: os => word (cs ++ ds) :: os
  | o, os => o :: os

def parts : Outline → List Outline
  | seq os => os
  | o => [o]

def branches : Outline → List Outline
  | alt os => os
  | o => [o]

def sequence (os : List Outline) : Outline :=
  match (os.flatMap parts).foldr before [] with
  | [] => empty
  | [o] => o
  | os => seq os

def ranges? : Outline → Option Unicode.Ranges
  | word [c] => some [(c.toNat, c.toNat)]
  | set rs => some rs
  | _ => none

/-- One outline or another; when all take one character, one of their characters. -/
def merged (os : List Outline) : Outline :=
  match os.flatMap branches with
  | [] => set []
  | [o] => o
  | os =>
    match os.mapM ranges? with
    | some rss => ofRanges (Unicode.Ranges.join rss.flatten)
    | none => alt os

/-- How many outlines two sequences start with alike. -/
def commonLength : List Outline → List Outline → Nat
  | a :: as, b :: bs => if a == b then commonLength as bs + 1 else 0
  | _, _ => 0

def sequence? : Outline → Option (List Outline)
  | seq os => some os
  | _ => none

/-- One outline or another, where what all of several sequences start with is put before them. -/
def choice (os : List Outline) : Outline :=
  match merged os with
  | alt os =>
    match os.mapM sequence? with
    | some (first :: others) =>
      let n := others.foldl (fun n os => commonLength (first.take n) os) first.length
      if n = 0 then alt os
      else
        let ends := (first :: others).map fun os => sequence (os.drop n)
        sequence (first.take n ++ [merged ends])
    | _ => alt os
  | o => o

mutual

def ofExpr : Expr → Outline
  | .empty => empty
  | .one s => ofRanges s.ranges
  | .assert a => assert a
  | .group i b => group i (ofExpr b)
  | .seq es => sequence (ofExprs es)
  | .alt es => choice (ofExprs es)
  | .rounds least most greedy b => rounds least most greedy (ofExpr b)

def ofExprs : List Expr → List Outline
  | [] => []
  | e :: es => ofExpr e :: ofExprs es

end

mutual

def isVoid : Outline → Bool
  | empty => true
  | word _ => false
  | set _ => false
  | assert _ => true
  | group _ b => b.isVoid
  | seq os => areVoid os
  | alt os => areVoid os
  | rounds _ most _ b => most = some 0 || b.isVoid

def areVoid : List Outline → Bool
  | [] => true
  | o :: os => o.isVoid && areVoid os

end

mutual

/-- The length in bytes of the shortest match, if there can be one. -/
def minLength? : Outline → Option Nat
  | empty => some 0
  | word cs => some (Text.byteLength cs)
  | set [] => none
  | set ((a, _) :: _) => some (Char.ofNat a).utf8Size
  | assert _ => some 0
  | group _ b => b.minLength?
  | seq os => totalLength? os
  | alt os => leastLength? os
  | rounds least _ _ b => b.minLength?.map (least * ·)

def totalLength? : List Outline → Option Nat
  | [] => some 0
  | o :: os =>
    match o.minLength?, totalLength? os with
    | some n, some m => some (n + m)
    | _, _ => none

def leastLength? : List Outline → Option Nat
  | [] => none
  | [o] => o.minLength?
  | o :: os =>
    match o.minLength?, leastLength? os with
    | some n, some m => some (min n m)
    | _, _ => none

end

mutual

/-- Whether an assertion has to hold where a match starts, or where it ends. -/
def isBound (atEnd : Bool) (a : Assertion) : Outline → Bool
  | empty => false
  | word _ => false
  | set _ => false
  | assert b => a = b
  | group _ b => b.isBound atEnd a
  | seq os => if atEnd then isBoundLast a os else isBoundFirst a os
  | alt os => areBound atEnd a os
  | rounds least _ _ b => 0 < least && b.isBound atEnd a

def isBoundFirst (a : Assertion) : List Outline → Bool
  | [] => false
  | o :: os => o.isBound false a || (o.isVoid && isBoundFirst a os)

def isBoundLast (a : Assertion) : List Outline → Bool
  | [] => false
  | o :: os => (areVoid os && o.isBound true a) || isBoundLast a os

def areBound (atEnd : Bool) (a : Assertion) : List Outline → Bool
  | [] => true
  | o :: os => o.isBound atEnd a && areBound atEnd a os

end

end Outline

end ProseLint.Pattern
