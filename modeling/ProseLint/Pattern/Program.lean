/-
Expressions as programs. `Program.ofExpr` writes an expression out as steps that are followed from
one to the next; of the two ways a fork leads, the first is preferred.
-/
import ProseLint.Pattern.Expr

namespace ProseLint.Pattern

inductive Step where
  | take (s : CharSet) (next : Nat)
  | check (a : Assertion) (next : Nat)
  | fork (first second : Nat)
  | openGroup (index next : Nat)
  | closeGroup (index next : Nat)
  | done
  deriving DecidableEq, Repr

/-- The steps of an expression, and the one to start with. -/
structure Program where
  steps : Array Step
  start : Nat
  deriving DecidableEq, Repr

namespace Program

def add (p : Program) (s : Step) : Program :=
  let start := p.steps.size
  ⟨p.steps.push s, start⟩

/-- Leads to one of two steps; a greedy repetition prefers the first. -/
def addFork (p : Program) (greedy : Bool) (again leave : Nat) : Program :=
  p.add (if greedy then .fork again leave else .fork leave again)

/-- Adds a part `n` times, each time before what is there. -/
def addTimes (part : Program → Program) : Nat → Program → Program
  | 0, p => p
  | n + 1, p => addTimes part n (part p)

/-- Adds up to `n` rounds of a part. From each of them the next step is `leave`. -/
def addUpTo (part : Program → Program) (greedy : Bool) (leave : Nat) : Nat → Program → Program
  | 0, p => p
  | n + 1, p =>
    let p := part p
    addUpTo part greedy leave n (p.addFork greedy p.start leave)

/-- Adds one or more rounds of a part: after each of them a fork leads to its start again. -/
def addLoop (part : Program → Program) (greedy : Bool) (p : Program) : Program :=
  let leave := p.start
  let again := p.steps.size
  let p := part (p.add .done)
  let fork := if greedy then Step.fork p.start leave else Step.fork leave p.start
  { p with steps := p.steps.setIfInBounds again fork }

mutual

/-- Adds the steps of an expression, from which the program goes on as before. -/
def addExpr (p : Program) : Expr → Program
  | .empty => p
  | .one s => p.add (.take s p.start)
  | .assert a => p.add (.check a p.start)
  | .group i b =>
    let p := addExpr (p.add (.closeGroup i p.start)) b
    p.add (.openGroup i p.start)
  | .seq es => addSeq p es
  | .alt es => addAlt p p.start es
  | .rounds least most greedy b =>
    match most with
    | some most =>
      let p := addUpTo (addExpr · b) greedy p.start (most - least) p
      addTimes (addExpr · b) least p
    | none =>
      let leave := p.start
      let p := addLoop (addExpr · b) greedy p
      if least = 0 then p.addFork greedy p.start leave else addTimes (addExpr · b) (least - 1) p

def addSeq (p : Program) : List Expr → Program
  | [] => p
  | e :: es => addExpr (addSeq p es) e

/-- Adds expressions from each of which the next step is `next`, and forks that lead to them. -/
def addAlt (p : Program) (next : Nat) : List Expr → Program
  | [] => p
  | [e] => addExpr { p with start := next } e
  | e :: es =>
    let others := addAlt p next es
    let p := addExpr { others with start := next } e
    p.add (.fork p.start others.start)

end

def ofExpr (e : Expr) : Program := addExpr ⟨#[.done], 0⟩ e

end Program

end ProseLint.Pattern
