/-
What is masked in a text: addresses in the web, and the matches of the pattern that its format has.
-/
import ProseLint.Mask.Masked
import ProseLint.Pattern.Reader

namespace ProseLint

open Text (Span)

def urlSource : String := "(?:https?|ftp)://[^\\s/$.?#].[^\\s]*"

def urlPattern : Option Pattern := Pattern.ofText? urlSource

/-- The patterns to mask by format, the one added last first. -/
structure Masker where
  patterns : List (String × Pattern)
  deriving Repr

namespace Masker

def plain : Masker := ⟨[]⟩

/-- Masks what a pattern matches in texts of a format, in place of what an earlier one did. A text
that is no pattern changes nothing. -/
def add (m : Masker) (format source : String) : Masker :=
  match Pattern.ofText? source with
  | some p => ⟨(format, p) :: m.patterns⟩
  | none => m

def addAll (m : Masker) (patterns : List (String × String)) : Masker :=
  patterns.foldl (fun m p => m.add p.1 p.2) m

def pattern? (m : Masker) (format : String) : Option Pattern := m.patterns.lookup format

def found (text : List Char) (pattern : Option Pattern) : List Span :=
  match pattern with
  | some p => (p.findAll text).map (·.span)
  | none => []

/-- The ranges to mask in a text. Empty matches mask nothing. -/
def ranges (m : Masker) (text : List Char) (format : String) : List Span :=
  Span.unite <| Span.sort <|
    (found text urlPattern ++ found text (m.pattern? format)).filter (!·.isEmpty)

def mask (m : Masker) (text : List Char) (format : String) : Masked :=
  Masked.ofRanges text (m.ranges text format)

end Masker

end ProseLint
