/-
Matching a program against a text. A search takes a program through the text character by
character. At each place there are threads, one for each way the program can have come there; they
stand in the order of preference, and of two at the same step the later one is given up, since it can
only do what the first one can. `Program.search` answers the preferred match that starts first,
`Program.findAll` the matches of a text from left to right: each starts where the one before it
ended or later, and an empty match does not stand at the end of the one before it.
-/
import ProseLint.Pattern.Program
import ProseLint.Text.Bytes

namespace ProseLint.Pattern

open Text (Span)

structure Place where
  before : Option Char
  offset : Nat
  rest : List Char
  deriving DecidableEq, Repr

namespace Place

def ofText (text : List Char) : Place := ⟨none, 0, text⟩

def past (p : Place) (c : Char) (rest : List Char) : Place := ⟨some c, p.offset + c.utf8Size, rest⟩

end Place

/-- A way a program can have come to a step: where it started, the groups it is in with their starts,
and the spans that groups took, the last one first. -/
structure Thread where
  step : Nat
  start : Place
  opened : List (Nat × Nat)
  groups : List (Nat × Span)
  deriving Repr

namespace Thread

def ofPlace (step : Nat) (p : Place) : Thread := ⟨step, p, [], []⟩

def goTo (t : Thread) (step : Nat) : Thread := { t with step }

def openGroup (t : Thread) (index offset : Nat) : Thread :=
  { t with opened := (index, offset) :: t.opened }

/-- Group `index`, which was opened last, has taken the text up to an offset. -/
def closeGroup (t : Thread) (index offset : Nat) : Thread :=
  match t.opened with
  | [] => t
  | (_, start) :: opened =>
    { t with opened, groups := (index, ⟨start, offset⟩) :: t.groups.filter (·.1 ≠ index) }

end Thread

/-- What following threads at a place has led to: for each step the offset after the place it was
last reached at, the threads that take the next character, the last one first, and the thread that
has come to the end of the program. -/
structure Wave where
  reached : Array Nat
  threads : List Thread
  done : Option Thread

namespace Program

/-- Follows threads at a place up to the next character, the first one first. Each step is taken once
at a place, so `fuel` need not be more than two for each step. -/
def follow (prog : Program) (p : Place) : (fuel : Nat) → List Thread → Wave → Wave
  | 0, _, w => w
  | _ + 1, [], w => w
  | fuel + 1, t :: ts, w =>
    if w.reached[t.step]? = some (p.offset + 1) then follow prog p fuel ts w
    else
      let w := { w with reached := w.reached.setIfInBounds t.step (p.offset + 1) }
      match prog.steps[t.step]? with
      | none => follow prog p fuel ts w
      | some (.take s next) =>
        if p.rest.head?.any s.mem then
          follow prog p fuel ts { w with threads := t.goTo next :: w.threads }
        else follow prog p fuel ts w
      | some (.check a next) =>
        if a.holds p.before p.rest.head? then follow prog p fuel (t.goTo next :: ts) w
        else follow prog p fuel ts w
      | some (.fork first second) => follow prog p fuel (t.goTo first :: t.goTo second :: ts) w
      | some (.openGroup i next) =>
        follow prog p fuel ((t.openGroup i p.offset).goTo next :: ts) w
      | some (.closeGroup i next) =>
        follow prog p fuel ((t.closeGroup i p.offset).goTo next :: ts) w
      | some .done => { w with done := some t }

def followAll (prog : Program) (p : Place) : List Thread → Wave → Wave
  | [], w => w
  | t :: ts, w =>
    let w := prog.follow p (2 * prog.steps.size + 1) [t] w
    if w.done.isSome then w else followAll prog p ts w

end Program

structure Finish where
  thread : Thread
  place : Place

namespace Program

/-- Takes threads through the text from a place. As long as none has come to the end, one more starts
at each place, after the others. -/
def searchFrom (prog : Program) (best : Option Finish) (reached : Array Nat) (threads : List Thread)
    (before : Option Char) (offset : Nat) : List Char → Option Finish
  | [] =>
    let p : Place := ⟨before, offset, []⟩
    let threads := if best.isSome then threads else threads ++ [.ofPlace prog.start p]
    let w := prog.followAll p threads ⟨reached, [], none⟩
    (w.done.map (⟨·, p⟩)).or best
  | c :: cs =>
    let p : Place := ⟨before, offset, c :: cs⟩
    let threads := if best.isSome then threads else threads ++ [.ofPlace prog.start p]
    let w := prog.followAll p threads ⟨reached, [], none⟩
    let best := (w.done.map (⟨·, p⟩)).or best
    if w.threads.isEmpty && best.isSome then best
    else searchFrom prog best w.reached w.threads.reverse (some c) (offset + c.utf8Size) cs

end Program

/-- A match: its span and text, and the spans of the groups that took part. -/
structure Match where
  span : Span
  text : List Char
  groups : List (Nat × Span)
  deriving DecidableEq, Repr

namespace Match

def ofFinish (f : Finish) : Match where
  span := ⟨f.thread.start.offset, f.place.offset⟩
  text := (Text.takeBytes? f.thread.start.rest (f.place.offset - f.thread.start.offset)).getD []
  groups := f.thread.groups

/-- The span of a group, if it took part. Group 0 is the match itself. -/
def group? (m : Match) (index : Nat) : Option Span :=
  if index = 0 then some m.span else m.groups.lookup index

def textOf (m : Match) (s : Span) : List Char :=
  (Text.slice? m.text ⟨s.start - m.span.start, s.stop - m.span.start⟩).getD []

end Match

namespace Program

/-- The preferred match that starts first, at a place or after it, and the place where it ends. -/
def search (prog : Program) (p : Place) : Option (Match × Place) :=
  (prog.searchFrom none (Array.replicate prog.steps.size 0) [] p.before p.offset p.rest).map
    fun f => (.ofFinish f, f.place)

/-- The next match from a place on, where `last` is the end of the match before, if there was one. -/
def searchNext (prog : Program) (last : Option Nat) (p : Place) : Option (Match × Place) :=
  match prog.search p with
  | none => none
  | some (m, q) =>
    if m.span.isEmpty ∧ last = some m.span.stop then
      match p.rest with
      | [] => none
      | c :: cs => prog.search (p.past c cs)
    else some (m, q)

/-- The matches from a place on. There are no more of them than places, so `fuel` need not be more
than one for each. -/
def findFrom (prog : Program) : (fuel : Nat) → (last : Option Nat) → Place → List Match
  | 0, _, _ => []
  | fuel + 1, last, p =>
    match prog.searchNext last p with
    | none => []
    | some (m, q) => m :: findFrom prog fuel (some m.span.stop) q

def findAll (prog : Program) (text : List Char) : List Match :=
  prog.findFrom (text.length + 1) none (.ofText text)

end Program

end ProseLint.Pattern
