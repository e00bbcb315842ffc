/-
Checks that look at the matches of one pattern: `existence` flags each, `occurrence` flags them
together when there are too many, `repetition` flags one that says the same as those before it, and
`substitution` flags what one of the groups took.
-/
import ProseLint.Check.Basic
import ProseLint.Mask.Masked

namespace ProseLint.Check

open Text (Span)
open Unicode (trim)

def spansOf (p : Pattern) (t : Masked) : List Span := (p.findAll t.copy).map (·.span)

/-- Flags each match that is not empty, with its text. -/
def existence (c : Check) (p : Pattern) (t : Masked) : List Alert :=
  ((spansOf p t).filter fun s => !s.isEmpty && !t.isMasked s).map fun s => c.alert s [t.slice s]

/-- Flags all matches together when there are more than `max`. -/
def occurrence (c : Check) (p : Pattern) (max : Nat) (t : Masked) : List Alert :=
  match (spansOf p t).filter fun s => !t.isMasked s with
  | [] => []
  | first :: rest =>
    if rest.length + 1 ≤ max then []
    else [c.alert ⟨first.start, ((first :: rest).getLast (by simp)).stop⟩ []]

/-- Matches that say the same: what the last one says, where the first one starts, and how many
followed it. -/
structure Streak where
  said : List Char
  start : Nat
  count : Nat
  deriving DecidableEq, Repr

namespace Streak

def broken (start : Nat) : Streak := ⟨[], start, 0⟩

def goesOn (r : Streak) (said : List Char) : Bool := !said.isEmpty && said == r.said

end Streak

/-- Flags a streak as soon as more than `max` matches have followed its first one; the match that
did starts the next streak. -/
def repetitionFrom (c : Check) (max : Nat) (t : Masked) : Streak → List Pattern.Match → List Alert
  | _, [] => []
  | r, m :: ms =>
    if t.isMasked m.span then repetitionFrom c max t (.broken r.start) ms
    else
      let said := trim m.text
      if r.goesOn said then
        if max < r.count + 1 then
          c.alert ⟨r.start, m.span.stop⟩ [trim (t.slice m.span)] ::
            repetitionFrom c max t ⟨said, m.span.start, 0⟩ ms
        else repetitionFrom c max t ⟨said, r.start, r.count + 1⟩ ms
      else repetitionFrom c max t ⟨said, m.span.start, 0⟩ ms

def repetition (c : Check) (p : Pattern) (max : Nat) (t : Masked) : List Alert :=
  repetitionFrom c max t (.broken 0) (p.findAll t.copy)

/-- The first of the groups that took some text, and where. -/
def takenGroup? (p : Pattern) (m : Pattern.Match) : Option (Nat × Span) :=
  (List.range' 1 p.groupCount).findSome? fun i =>
    ((m.group? i).filter (!·.isEmpty)).map (i, ·)

/-- Flags what the first group that took some text took, with its replacement. -/
def substitution (c : Check) (p : Pattern) (replacements : List String) (t : Masked) :
    List Alert :=
  (p.findAll t.copy).filterMap fun m => do
    let (i, s) ← takenGroup? p m
    if t.isMasked s then none
    else
      let replacement ← replacements[i - 1]?
      return c.alert s [replacement.toList, t.slice s]

end ProseLint.Check
