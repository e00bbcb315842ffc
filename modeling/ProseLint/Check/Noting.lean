/-
Checks that note what they see in the context of the document: `consistency` flags the match that
uses the second variant of a pair, `conditional` the matches that nothing in the document defines.
-/
import ProseLint.Check.Basic
import ProseLint.Context
import ProseLint.Mask.Masked
import Std.Data.HashSet

namespace ProseLint.Check

open Text (Span)

/-- A pair of variants: the names of their groups, and the indices of these in the pattern. -/
structure Variants where
  first : String
  second : String
  firstIndex : Option Nat
  secondIndex : Option Nat
  deriving DecidableEq, Repr

namespace Variants

def ofPair (p : Pattern) (pair : String × String) : Variants :=
  ⟨pair.1, pair.2, p.indexOf? pair.1, p.indexOf? pair.2⟩

/-- The variant that a match uses, and where. -/
def used? (v : Variants) (m : Pattern.Match) : Option (String × Span) :=
  match v.firstIndex.bind m.group? with
  | some s => some (v.first, s)
  | none => (v.secondIndex.bind m.group?).map (v.second, ·)

def complete (v : Variants) (ctx : Context) : Bool := ctx.contains v.first && ctx.contains v.second

end Variants

/-- Notes the variant of one pair that a match uses, and flags it if that makes the pair complete. -/
def notePair (c : Check) (t : Masked) (m : Pattern.Match) (ctx : Context) (v : Variants) :
    Option Alert × Context :=
  match v.used? m with
  | none => (none, ctx)
  | some (name, s) =>
    if t.isMasked s then (none, ctx)
    else
      let after := ctx.push name
      (if !v.complete ctx && v.complete after then some (c.alert s [t.slice s]) else none, after)

def notePairs (c : Check) (t : Masked) (m : Pattern.Match) :
    Context → List Variants → List Alert × Context
  | ctx, [] => ([], ctx)
  | ctx, v :: vs =>
    let (alert, ctx) := notePair c t m ctx v
    let (alerts, ctx) := notePairs c t m ctx vs
    (alert.toList ++ alerts, ctx)

def noteMatches (c : Check) (t : Masked) (pairs : List Variants) :
    Context → List Pattern.Match → List Alert × Context
  | ctx, [] => ([], ctx)
  | ctx, m :: ms =>
    let (alerts, ctx) := notePairs c t m ctx pairs
    let (more, ctx) := noteMatches c t pairs ctx ms
    (alerts ++ more, ctx)

/-- Flags the first use of the variant of a pair that comes second. -/
def consistency (c : Check) (p : Pattern) (pairs : List (String × String)) (t : Masked)
    (ctx : Context) : List Alert × Context :=
  noteMatches c t (pairs.map (Variants.ofPair p)) ctx (p.findAll t.copy)

/-- What the first group of a match defines, unless it is masked. -/
def defined? (t : Masked) (m : Pattern.Match) : Option String :=
  ((m.group? 1).filter (!t.isMasked ·)).map fun s => String.ofList (m.textOf s)

/-- Flags the matches of `consequent` whose text no match of `antecedent` defines. Definitions are
noted. -/
def conditional (c : Check) (antecedent consequent : Pattern) (exceptions : List String)
    (t : Masked) (ctx : Context) : List Alert × Context :=
  let ctx := ((antecedent.findAll t.copy).filterMap (defined? t)).foldl Context.push ctx
  let excepted : Std.HashSet String := .ofList exceptions
  let isFlagged (m : Pattern.Match) : Bool :=
    let said := String.ofList m.text
    !t.isMasked m.span && (!ctx.contains said && !excepted.contains said)
  (((consequent.findAll t.copy).filter isFlagged).map fun m => c.alert m.span [t.slice m.span], ctx)

end ProseLint.Check
