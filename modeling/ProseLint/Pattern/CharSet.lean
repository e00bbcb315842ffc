/-
Sets of characters, as a pattern writes them: `CharSet.mem` is membership. `CharSet.folded` closes a
set under simple case folding, `CharSet.foldedPlain` under the two cases of the letters a to z.
-/
import ProseLint.Unicode.CaseFolding
import ProseLint.Unicode.Letter

namespace ProseLint.Pattern

inductive CharClass where
  | decimal
  | blank
  | word
  | plainDecimal
  | plainBlank
  | plainWord
  deriving DecidableEq, Repr

def CharClass.mem : CharClass → Char → Bool
  | decimal, c => Unicode.isDecimal c
  | blank, c => Unicode.isBlank c
  | word, c => Unicode.isWord c
  | plainDecimal, c => Text.isDigit c
  | plainBlank, c => c = ' ' || (0x9 ≤ c.toNat && c.toNat ≤ 0xD)
  | plainWord, c => Unicode.isPlainWord c

inductive CharSet where
  | empty
  | range (first last : Char)
  | cls (k : CharClass)
  | table (t : Unicode.RangeTable)
  | union (s t : CharSet)
  | inter (s t : CharSet)
  | diff (s t : CharSet)
  | symmDiff (s t : CharSet)
  | compl (s : CharSet)
  | folded (s : CharSet)
  | foldedPlain (s : CharSet)
  deriving DecidableEq, Repr

namespace CharSet

/-- The letter of the other case, for the letters a to z. -/
def plainForms (c : Char) : List Char :=
  if c.isUpper then [c.toLower] else if c.isLower then [c.toUpper] else []

def mem : CharSet → Char → Bool
  | empty, _ => false
  | range first last, c => first ≤ c && c ≤ last
  | cls k, c => k.mem c
  | table t, c => t.contains c.toNat
  | union s t, c => s.mem c || t.mem c
  | inter s t, c => s.mem c && t.mem c
  | diff s t, c => s.mem c && !t.mem c
  | symmDiff s t, c => s.mem c != t.mem c
  | compl s, c => !s.mem c
  | folded s, c => s.mem c || (Unicode.caseForms c).any fun d => s.mem d
  | foldedPlain s, c => s.mem c || (plainForms c).any fun d => s.mem d

def classRanges : CharClass → Unicode.Ranges
  | .decimal => Unicode.decimalTable.toList
  | .blank => Unicode.blankTable.toList
  | .word => Unicode.wordTable.toList
  | .plainDecimal => [(0x30, 0x39)]
  | .plainBlank => [(0x9, 0xD), (0x20, 0x20)]
  | .plainWord => [(0x30, 0x39), (0x41, 0x5A), (0x5F, 0x5F), (0x61, 0x7A)]

/-- The characters with other forms that belong to a set, as those forms. -/
def formRanges (forms : Char → List Char) (among : List Char) (s : Char → Bool) :
    Unicode.Ranges :=
  ((among.filter s).flatMap forms).map fun d => (d.toNat, d.toNat)

def letters : List Char :=
  (List.range 26).flatMap fun i => [Char.ofNat (0x41 + i), Char.ofNat (0x61 + i)]

/-- The set as ascending ranges that stand apart. -/
def ranges : CharSet → Unicode.Ranges
  | empty => []
  | range first last => [(first.toNat, last.toNat)]
  | cls k => classRanges k
  | table t => t.toList
  | union s t => s.ranges.union t.ranges
  | inter s t => s.ranges.inter t.ranges
  | diff s t => s.ranges.diff t.ranges
  | symmDiff s t => s.ranges.symmDiff t.ranges
  | compl s => s.ranges.complement
  | folded s =>
    let among := letters ++ Unicode.caseFormTable.toList.map (Char.ofNat ·.1)
    s.ranges.union (formRanges Unicode.caseForms among s.mem)
  | foldedPlain s => s.ranges.union (formRanges plainForms letters s.mem)

def single (c : Char) : CharSet := range c c

def ofTables : List Unicode.RangeTable → CharSet
  | [] => empty
  | [t] => table t
  | t :: ts => union (table t) (ofTables ts)

def all : CharSet := compl empty

def notLineFeed : CharSet := compl (single '\n')

def notLineEnd : CharSet := compl (union (single '\n') (single '\r'))

@[simp] theorem mem_single (c d : Char) : (single c).mem d = decide (d = c) := by
  simp only [single, mem, Char.le_def, ← Bool.decide_and, decide_eq_decide, Char.ext_iff]
  constructor
  · rintro ⟨h, h'⟩
    exact UInt32.le_antisymm h' h
  · rintro h
    exact ⟨h ▸ UInt32.le_refl _, h ▸ UInt32.le_refl _⟩

@[simp] theorem mem_compl (s : CharSet) (c : Char) : s.compl.mem c = !s.mem c := rfl

@[simp] theorem mem_union (s t : CharSet) (c : Char) : (s.union t).mem c = (s.mem c || t.mem c) := rfl

end CharSet

end ProseLint.Pattern
