/-
Ranges of characters as ranges of bytes. `byteRanges` cuts a range of code points where the UTF-8
forms change their length or their leading bytes, so that each part is all that a sequence of byte
ranges spells.
-/
import ProseLint.Unicode.Ranges

namespace ProseLint.Pattern

/-- The last code points whose UTF-8 form has one, two and three bytes, and the last one before the
surrogates. -/
def lengthEnds : List Nat := [0x7F, 0x7FF, 0xD7FF, 0xFFFF]

/-- Where a range of code points of one length has to be cut so that the lowest `6 * i` bits take all
values in its parts: the last code point of the first part. -/
def bitCut? (i first last : Nat) : Option Nat :=
  let block := Nat.pow 64 i
  if first / block = last / block then none
  else if first % block ≠ 0 then some ((first / block + 1) * block - 1)
  else if last % block ≠ block - 1 then some (last / block * block - 1)
  else none

def cut? (first last : Nat) : Option Nat :=
  (lengthEnds.find? fun n => first ≤ n && n < last).or
    (if last ≤ 0x7F then none else [1, 2, 3].findSome? (bitCut? · first last))

/-- Cuts a range into parts, from the first to the last. It takes fewer than `fuel` cuts to come to a
part. -/
def cutAll : (fuel : Nat) → (first last : Nat) → List (Nat × Nat)
  | 0, first, last => [(first, last)]
  | fuel + 1, first, last =>
    match cut? first last with
    | none => [(first, last)]
    | some n => cutAll fuel first n ++ cutAll fuel (Unicode.Ranges.next n) last

def bytesOf (n : Nat) : List Nat := (String.utf8EncodeChar (Char.ofNat n)).map UInt8.toNat

/-- The sequences of byte ranges that spell the characters of a range. -/
def byteRanges (r : Nat × Nat) : List (List (Nat × Nat)) :=
  (cutAll 32 r.1 r.2).map fun (first, last) => (bytesOf first).zip (bytesOf last)

end ProseLint.Pattern
