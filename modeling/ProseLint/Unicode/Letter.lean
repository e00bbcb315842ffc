/-
The classes of characters that text is read by: blanks, letters and numbers, decimal digits, and
the characters words are made of. Each says what holds below 80 outright and asks a table beyond.
Patterns go by version 16 of the standard, letters and numbers in names by version 17.
-/
import ProseLint.Unicode.BinaryProperty
import ProseLint.Unicode.Category

namespace ProseLint.Unicode

open Text

def tableOf (tables : List NamedRanges) (name : String) : RangeTable :=
  (NamedRanges.find? tables name).getD #[]

def alphabeticTable : RangeTable := tableOf binaryProperties "alphabetic"
def decimalTable : RangeTable := tableOf generalCategories "nd"
def letterNumberTable : RangeTable := tableOf generalCategories "nl"
def otherNumberTable : RangeTable := tableOf generalCategories "no"

def blankTable : RangeTable := tableOf binaryProperties "whitespace"

/-- Letters, marks, decimal digits, connectors such as the underscore, and joiners. -/
def wordTable : RangeTable :=
  let marks := ["mc", "me", "mn"].map (tableOf generalCategories)
  let others := [alphabeticTable, decimalTable, tableOf generalCategories "pc",
    tableOf binaryProperties "joincontrol"]
  (Ranges.join ((marks ++ others).flatMap (·.toList))).toArray

/-- What version 17 of the standard added to the letters. -/
def newLetterTable : RangeTable := RangeTable.ofText
    "88F C5C CDC A7CE-A7CF A7D2 A7D4 A7F1 10940-10959 10EC5-10EC7 10EFA-10EFB 11B60-11B67
    11DB0-11DDB 16EA0-16EB8 16EBB-16ED3 16FF2-16FF6 187F8-187FF 18D09-18D1E 18D80-18DF2
    1E6C0-1E6DE 1E6E0-1E6F5 1E6FE-1E6FF 2B73A-2B73F 2CEA2-2CEAD 323B0-33479"

/-- What it added to the numbers. -/
def newNumberTable : RangeTable := RangeTable.ofText "11DE0-11DE9 16FF4-16FF6"

def isBlank (c : Char) : Bool :=
  let n := c.toNat
  n = 0x20 || (0x9 ≤ n && n ≤ 0xD) || n = 0x85 || n = 0xA0 || n = 0x1680 ||
    (0x2000 ≤ n && n ≤ 0x200A) || n = 0x2028 || n = 0x2029 || n = 0x202F || n = 0x205F || n = 0x3000

def trim (cs : List Char) : List Char :=
  ((cs.dropWhile isBlank).reverse.dropWhile isBlank).reverse

/-- A letter, or a mark or number that counts as one. -/
def isAlphabetic (c : Char) : Bool :=
  if c.toNat < 0x80 then c.isAlpha
  else alphabeticTable.contains c.toNat || newLetterTable.contains c.toNat

def isNumeric (c : Char) : Bool :=
  if c.toNat < 0x80 then isDigit c
  else decimalTable.contains c.toNat || letterNumberTable.contains c.toNat ||
    otherNumberTable.contains c.toNat || newNumberTable.contains c.toNat

def isAlphanumeric (c : Char) : Bool := isAlphabetic c || isNumeric c

def isDecimal (c : Char) : Bool :=
  if c.toNat < 0x80 then isDigit c else decimalTable.contains c.toNat

/-- A letter, digit or underscore below 80. -/
def isPlainWord (c : Char) : Bool := c.isAlpha || isDigit c || c = '_'

/-- A character words are made of: a letter, a mark, a decimal digit, a connector such as the
underscore, or a joiner. -/
def isWord (c : Char) : Bool :=
  if c.toNat < 0x80 then isPlainWord c else wordTable.contains c.toNat

end ProseLint.Unicode
