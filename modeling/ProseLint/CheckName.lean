/-
Qualified names of checks: a style and a rule in it, written with a dot between them. Both are made
of letters, digits, hyphens and underscores, so the dot is the only one in the name.
-/
import ProseLint.Unicode.Letter

namespace ProseLint

def isSegment (s : String) : Bool :=
  s ≠ "" && s.toList.all fun c => Unicode.isAlphanumeric c || c = '-' || c = '_'

structure CheckName where
  style : String
  rule : String
  style_isSegment : isSegment style = true
  rule_isSegment : isSegment rule = true
  deriving DecidableEq, Repr

namespace CheckName

def new? (style rule : String) : Option CheckName :=
  if hs : isSegment style = true then
    if hr : isSegment rule = true then some ⟨style, rule, hs, hr⟩ else none
  else none

def full (n : CheckName) : String := n.style ++ "." ++ n.rule

/-- The name that a text writes. It is cut at its first dot. -/
def parse? (text : String) : Option CheckName :=
  match text.toList.dropWhile (· ≠ '.') with
  | [] => none
  | _ :: rule => new? (String.ofList (text.toList.takeWhile (· ≠ '.'))) (String.ofList rule)

def complaint (text : String) : String := "Invalid check name '" ++ text ++ "'"

end CheckName

end ProseLint
