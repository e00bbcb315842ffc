/-
Digits and the numbers they spell, and a text cut into pieces at separators.
-/
namespace ProseLint.Text

def hexDigit? (c : Char) : Option Nat :=
  if '0' ≤ c ∧ c ≤ '9' then some (c.toNat - '0'.toNat)
  else if 'a' ≤ c ∧ c ≤ 'f' then some (c.toNat - 'a'.toNat + 10)
  else if 'A' ≤ c ∧ c ≤ 'F' then some (c.toNat - 'A'.toNat + 10)
  else none

def digit? (base : Nat) (c : Char) : Option Nat :=
  (hexDigit? c).filter (· < base)

def isDigit (c : Char) : Bool := '0' ≤ c && c ≤ '9'

/-- Numbers are written in digits. -/
theorem isDigit_of_mem_toDigits {n : Nat} {c : Char} (h : c ∈ Nat.toDigits 10 n) : isDigit c = true := by
  have hdigit := Char.isDigit_iff_toNat.1 (Nat.isDigit_of_mem_toDigits (by decide) (by decide) h)
  rw [isDigit, Bool.and_eq_true, decide_eq_true_iff, decide_eq_true_iff]
  exact hdigit

/-- The number that digits spell in a base, the most significant first. Other characters count
as zero. -/
def natOfDigits (base : Nat) (digits : List Char) : Nat :=
  digits.foldl (fun n c => n * base + (digit? base c).getD 0) 0

def hexNat (digits : List Char) : Nat := natOfDigits 16 digits

/-- The character with a code point, unless it is a surrogate or too large. -/
def charOfNat? (n : Nat) : Option Char :=
  if h : n.isValidChar then some (Char.ofNatAux n h) else none

/-- The stretches of characters between separators, without the empty ones. -/
def pieces (separates : Char → Bool) (text : List Char) : List (List Char) :=
  (text.foldr (fun c (ps : List (List Char)) =>
    if separates c then [] :: ps
    else match ps with
      | [] => [[c]]
      | p :: ps => (c :: p) :: ps) [[]]).filter (· ≠ [])

end ProseLint.Text
