/-
Tries of words. A word that ends where others go on closes what was read there before it, so that
earlier words stay preferred to later ones.
-/
namespace ProseLint.Pattern

/-- Bytes with what may follow them: the groups of them that a word has closed, and those after the
last word that ended here. -/
inductive Trie where
  | node (closed : List (List (UInt8 × Trie))) (active : List (UInt8 × Trie))

namespace Trie

def empty : Trie := node [] []

def ofWord : List UInt8 → Trie
  | [] => node [[]] []
  | b :: bs => node [] [(b, ofWord bs)]

def closed : Trie → List (List (UInt8 × Trie))
  | node closed _ => closed

def active : Trie → List (UInt8 × Trie)
  | node _ active => active

def isLeaf (t : Trie) : Bool := t.active.isEmpty && t.closed.all (·.isEmpty)

def insert : List UInt8 → Trie → Trie
  | [], t =>
    if t.isLeaf && !t.closed.isEmpty then t else node (t.closed ++ [t.active]) []
  | b :: bs, t =>
    match t.active.lookup b with
    | none => node t.closed (t.active ++ [(b, ofWord bs)])
    | some next =>
      let next := insert bs next
      node t.closed (t.active.map fun e => if e.1 = b then (b, next) else e)

end Trie

end ProseLint.Pattern
