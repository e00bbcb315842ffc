/-
How large a pattern is. A pattern is too large when an automaton for its outline that goes through
texts byte by byte, forwards or backwards, does not fit into `Footprint.limit` bytes. `Outline.lay`
adds up the states of an outline, `Outline.fits` says whether they fit.

Sets of characters share states where their byte ranges lead to the same state (forwards) or come
from the same one (backwards). What has been shared is looked up in a table in which a later entry
takes the slot of an earlier one with the same hash.
-/
import ProseLint.Pattern.ByteRanges
import ProseLint.Pattern.Outline
import ProseLint.Pattern.Trie
import Std.Data.HashMap

namespace ProseLint.Pattern

structure Footprint where
  states : Nat
  extra : Nat
  deriving DecidableEq, Repr

namespace Footprint

/-- The bytes of a state, of one of several transitions of a state, and of one of several states
that a state leads to. -/
def stateSize : Nat := 32
def arcSize : Nat := 8
def wayOutSize : Nat := 4

def limit : Nat := 10 * 1024 * 1024

def size (f : Footprint) : Nat := f.states * stateSize + f.extra

def grow? (states extra : Nat) (f : Footprint) : Option Footprint :=
  let f : Footprint := ⟨f.states + states, f.extra + extra⟩
  if f.size ≤ limit then some f else none

def mix (hash : UInt64) (n : Nat) : UInt64 := (hash ^^^ UInt64.ofNat n) * 1099511628211

def slot (slots : Nat) (ns : List Nat) : Nat := (ns.foldl mix 14695981039346656037).toNat % slots

/-- What has been shared, by slot: what it was made of, and its state. -/
abbrev Shared := Std.HashMap Nat (List Nat × Nat)

def find? (shared : Shared) (slot : Nat) (made : List Nat) : Option Nat :=
  match shared[slot]? with
  | some (other, state) => if other = made then some state else none
  | none => none

/-- A state on the way to the end of a character: the transitions whose next state is known, the last
one first, and the byte range of the one that comes next. -/
structure Open where
  arcs : List (Nat × Nat × Nat)
  last : Nat × Nat

/-- The states of a set, being laid forwards: the footprint, what has been shared, and the states that
are open, from the first byte on. -/
structure Forwards where
  footprint : Footprint
  shared : Shared
  path : List Open

namespace Forwards

def close (w : Forwards) (arcs : List (Nat × Nat × Nat)) : Nat × Forwards :=
  let made := arcs.flatMap fun (a, b, next) => [a, b, next]
  let at' := slot 10000 made
  match find? w.shared at' made with
  | some state => (state, w)
  | none =>
    let state := w.footprint.states
    let f := w.footprint
    (state, { w with
      footprint := ⟨f.states + 1, f.extra + arcs.length * arcSize⟩
      shared := w.shared.insert at' (made, state) })

/-- Closes open states, the innermost of them first; answers the state the outermost has become. -/
def closeAll (target : Nat) : List Open → Forwards → Nat × Forwards
  | [], w => (target, w)
  | o :: os, w =>
    let (next, w) := closeAll target os w
    w.close ((o.last.1, o.last.2, next) :: o.arcs).reverse

/-- How many open states a sequence of byte ranges goes on through. -/
def sharedLength : List Open → List (Nat × Nat) → Nat
  | o :: os, r :: rs => if o.last = r then sharedLength os rs + 1 else 0
  | _, _ => 0

def addSequence (target : Nat) (w : Forwards) (rs : List (Nat × Nat)) : Forwards :=
  let n := sharedLength w.path rs
  match w.path.drop n, rs.drop n with
  | o :: inner, r :: rest =>
    let (next, closed) := closeAll target inner w
    let o : Open := ⟨(o.last.1, o.last.2, next) :: o.arcs, r⟩
    { closed with path := w.path.take n ++ o :: rest.map (⟨[], ·⟩) }
  | _, rest => { w with path := w.path.take n ++ rest.map (⟨[], ·⟩) }

end Forwards

def setForwards? (rs : Unicode.Ranges) (f : Footprint) : Option Footprint :=
  let target := f.states
  let w := (rs.flatMap byteRanges).foldl (Forwards.addSequence target)
    ⟨⟨f.states + 1, f.extra⟩, ∅, []⟩
  (Forwards.closeAll target w.path w).2.footprint.grow? 0 0

def sequenceBackwards (w : Footprint × Shared) (end' : Nat) :
    List (Nat × Nat) → Footprint × Shared
  | [] => w
  | (a, b) :: rs =>
    let made := [end', a, b]
    let at' := slot 1000 made
    match find? w.2 at' made with
    | some state => sequenceBackwards w state rs
    | none =>
      let state := w.1.states
      sequenceBackwards (⟨w.1.states + 1, w.1.extra⟩, w.2.insert at' (made, state)) state rs

def setBackwards? (rs : Unicode.Ranges) (f : Footprint) : Option Footprint :=
  let end' := f.states + 1
  let seqs := rs.flatMap byteRanges
  let (f, _) := seqs.foldl (fun w seq => sequenceBackwards w end' seq) (⟨f.states + 2, f.extra⟩, ∅)
  f.grow? 0 (seqs.length * wayOutSize)

/-- Lays a set of characters. One of characters below 80 is a single state and its end. -/
def set? (backwards : Bool) (rs : Unicode.Ranges) (f : Footprint) : Option Footprint :=
  if rs.all (·.2 < 0x80) then f.grow? 2 (rs.length * arcSize)
  else if backwards then setBackwards? rs f
  else setForwards? rs f

/-- Lays something `n` times; nothing at all takes one state. -/
def times? (part : Footprint → Option Footprint) : Nat → Footprint → Option Footprint
  | 0, f => f.grow? 1 0
  | 1, f => part f
  | n + 2, f => (part f).bind (times? part (n + 1))

def upTo? (part : Footprint → Option Footprint) : Nat → Footprint → Option Footprint
  | 0, f => some f
  | n + 1, f => (f.grow? 1 (2 * wayOutSize)).bind fun f => (part f).bind (upTo? part n)

end Footprint

namespace Trie

open Footprint

mutual

/-- Lays a trie. Bytes that lead to the end of all words take no state of their own. -/
def lay : Trie → Footprint → Footprint
  | node closed active, f =>
    let groups := (active :: closed).filter (!·.isEmpty)
    let arcs := groups.foldl (fun n g => if g.length = 1 then n else n + g.length) 0
    let ways := groups.length + closed.length
    let f : Footprint :=
      ⟨f.states + groups.length + 1, f.extra + arcs * arcSize + ways * wayOutSize⟩
    layArcs active (layGroups closed f)

def layGroups : List (List (UInt8 × Trie)) → Footprint → Footprint
  | [], f => f
  | g :: gs, f => layGroups gs (layArcs g f)

def layArcs : List (UInt8 × Trie) → Footprint → Footprint
  | [], f => f
  | (_, t) :: arcs, f => layArcs arcs (if t.isLeaf then f else lay t f)

end

end Trie

namespace Outline

open Footprint

def word? : Outline → Option (List Char)
  | word cs => some cs
  | _ => none

def layWords? (backwards : Bool) (words : List (List Char)) (f : Footprint) : Option Footprint :=
  let bytes (cs : List Char) : List UInt8 :=
    let bs := cs.flatMap String.utf8EncodeChar
    if backwards then bs.reverse else bs
  let trie := words.foldl (fun t cs => t.insert (bytes cs)) Trie.empty
  (trie.lay ⟨f.states + 1, f.extra⟩).grow? 0 0

mutual

def lay? (backwards : Bool) : Outline → Footprint → Option Footprint
  | empty, f => f.grow? 1 0
  | word cs, f => f.grow? (Text.byteLength cs) 0
  | set rs, f => set? backwards rs f
  | assert _, f => f.grow? 1 0
  | group _ b, f =>
    if backwards then lay? backwards b f
    else do (← lay? backwards b (← f.grow? 1 0)).grow? 1 0
  | seq os, f => if backwards then layLast? os f else layFirst? os f
  | alt os, f =>
    match os.mapM word? with
    | some words => layWords? backwards words f
    | none => layBranches? backwards 0 os f
  | rounds least most _ b, f =>
    match most with
    | some most =>
      if least = 0 ∧ most = 1 then do
        (← lay? backwards b (← f.grow? 1 (2 * wayOutSize))).grow? 1 0
      else if least = most then times? (lay? backwards b) least f
      else do
        let f ← times? (lay? backwards b) least f
        upTo? (lay? backwards b) (most - least) (← f.grow? 1 0)
    | none =>
      if least = 0 then
        if b.minLength?.any (0 < ·) then do lay? backwards b (← f.grow? 1 (2 * wayOutSize))
        else do (← lay? backwards b f).grow? 3 (4 * wayOutSize)
      else do (← times? (lay? backwards b) least f).grow? 1 (2 * wayOutSize)

def layFirst? : List Outline → Footprint → Option Footprint
  | [], f => some f
  | o :: os, f => (lay? false o f).bind (layFirst? os)

def layLast? : List Outline → Footprint → Option Footprint
  | [], f => some f
  | o :: os, f => (layLast? os f).bind (lay? true o)

/-- Lays branches. The fork that leads to them comes after the second. -/
def layBranches? (backwards : Bool) (index : Nat) : List Outline → Footprint → Option Footprint
  | [], f => some f
  | o :: os, f => do
    let f ← (← lay? backwards o f).grow? (if index = 1 then 2 else 0) wayOutSize
    layBranches? backwards (index + 1) os f

end

mutual

/-- At least the size of an outline. -/
def roughSize : Outline → Nat
  | empty => 32
  | word cs => 512 * cs.length
  | set rs => 64 + (if rs.all (·.2 < 0x80) then 8 else 1500) * rs.length
  | assert _ => 32
  | group _ b => b.roughSize + 64
  | seq os => roughSizes os
  | alt os => roughSizes os + 128
  | rounds least most _ b => (max least (most.getD 0) + 1) * (b.roughSize + 48) + 192

def roughSizes : List Outline → Nat
  | [] => 0
  | o :: os => o.roughSize + 4 + roughSizes os

end

/-- Whether the automaton that goes through texts in one direction fits. Unless it is bound to the
end of the text it starts at, it first passes over any bytes. -/
def fitsOneWay (backwards : Bool) (o : Outline) : Bool :=
  let bound := o.isBound backwards (if backwards then .textEnd else .textStart)
  let start : Option Footprint :=
    if bound then some ⟨1, 0⟩ else some ⟨3, arcSize + 2 * wayOutSize⟩
  let whole := if backwards then start.bind (lay? true o) else start.bind (lay? false (group 0 o))
  (whole.bind (grow? 1 0)).isSome

def manyWords : Nat := 3000

/-- Whether an outline is not too large. A choice of many words never is. -/
def fits (o : Outline) : Bool :=
  let areWords := match o with
    | alt os => manyWords ≤ os.length && os.all (·.word?.isSome)
    | _ => false
  areWords || o.roughSize ≤ limit / 2 || (fitsOneWay false o && fitsOneWay true o)

end Outline

end ProseLint.Pattern
