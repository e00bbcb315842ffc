/-
Writing JSON: texts in quotes, numbers, and objects from fields that are already written.
-/
import ProseLint.Text.Digits

namespace ProseLint.Json

def hexDigitChar (n : Nat) : Char :=
  if n < 10 then Char.ofNat ('0'.toNat + n) else Char.ofNat ('a'.toNat + (n - 10))

/-- A character as it stands between quotes: quotes, backslashes and control characters escaped. -/
def writeChar (c : Char) : List Char :=
  if c = '"' then ['\\', '"']
  else if c = '\\' then ['\\', '\\']
  else if c = '\n' then ['\\', 'n']
  else if c = '\r' then ['\\', 'r']
  else if c = '\t' then ['\\', 't']
  else if c = '\x08' then ['\\', 'b']
  else if c = '\x0c' then ['\\', 'f']
  else if c.toNat < 0x20 then
    ['\\', 'u', '0', '0', hexDigitChar (c.toNat / 16), hexDigitChar (c.toNat % 16)]
  else [c]

def writeText (s : String) : List Char := '"' :: s.toList.flatMap writeChar ++ ['"']

def writeNat (n : Nat) : List Char := Nat.toDigits 10 n

def writeArray (items : List (List Char)) : List Char :=
  '[' :: [','].intercalate items ++ [']']

def writeObject (fields : List (String × List Char)) : List Char :=
  '{' :: [','].intercalate (fields.map fun f => writeText f.1 ++ ':' :: f.2) ++ ['}']

end ProseLint.Json
