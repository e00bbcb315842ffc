/-
The permissions of files: nine bits, three each for the owner, the group and the others.
-/
import ProseLint.Shell.Tree

namespace ProseLint.Shell.Mode

def all : Nat := 0o777

/-- The bits of those that a letter stands for. -/
def who? : Char → Option Nat
  | 'u' => some 0o700
  | 'g' => some 0o070
  | 'o' => some 0o007
  | 'a' => some all
  | _ => none

def bits? (permissions : Nat) : Char → Option Nat
  | 'r' => some 0o444
  | 'w' => some 0o222
  | 'x' => some 0o111
  | 'X' => some (if permissions &&& 0o111 = 0 then 0 else 0o111)
  | 's' | 't' => some 0
  | 'u' => some (permissions >>> 6 % 8 * 0o111)
  | 'g' => some (permissions >>> 3 % 8 * 0o111)
  | 'o' => some (permissions % 8 * 0o111)
  | _ => none

/-- Permissions after some are added, taken away or set. -/
def changed (operator : Char) (bits permissions : Nat) (who : Nat) : Nat :=
  let who := if who = 0 then all else who
  let without (bits : Nat) : Nat := permissions &&& (all ^^^ bits)
  match operator with
  | '+' => permissions ||| (bits &&& who)
  | '-' => without (bits &&& who)
  | _ => without who ||| (bits &&& who)

def isOperator (c : Char) : Bool := c = '+' || c = '-' || c = '='

/-- Permissions after the changes that are written in letters. -/
def written? (permissions : Nat) (cs : Bytes) : Option Nat := go permissions 0 none cs
where
  go (permissions who : Nat) (open? : Option (Char × Nat)) : Bytes → Option Nat
    | [] => some (closed permissions who open?)
    | c :: cs =>
      if c = ',' then go (closed permissions who open?) 0 none cs
      else if isOperator c then go (closed permissions who open?) who (some (c, 0)) cs
      else
        match open? with
        | none => (who? c).bind fun more => go permissions (who ||| more) none cs
        | some (operator, bits) =>
          (bits? permissions c).bind fun more =>
            go permissions who (some (operator, bits ||| more)) cs
  closed (permissions who : Nat) : Option (Char × Nat) → Nat
    | some (operator, bits) => changed operator bits permissions who
    | none => permissions

def shown (permissions : Nat) : Bytes :=
  let group (name : Char) (bits : Nat) : Bytes :=
    name :: '=' :: ((if bits &&& 4 = 0 then [] else ['r']) ++ (if bits &&& 2 = 0 then [] else ['w']) ++
      (if bits &&& 1 = 0 then [] else ['x']))
  group 'u' (permissions >>> 6 % 8) ++ ',' :: group 'g' (permissions >>> 3 % 8) ++
    ',' :: group 'o' (permissions % 8)

def octal (permissions : Nat) : Bytes :=
  let digits := Nat.toDigits 8 permissions
  List.replicate (4 - digits.length) '0' ++ digits

end ProseLint.Shell.Mode
