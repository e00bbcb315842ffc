/-
Reading JSON. `Json.read?` reads a value from symbols, the characters of a text or what bytes
decode to. What does not spell characters (a lone surrogate, a stray byte) does not make a text in
quotes unreadable, it only has no value then.
-/
import ProseLint.Json.Value
import ProseLint.Text.Digits

namespace ProseLint.Json

open Text

/-- Characters, and `none` for each stretch of bytes that is none. -/
abbrev Symbols := List (Option Char)

def isBlank : Option Char → Bool
  | some c => c = ' ' || c = '\n' || c = '\t' || c = '\r'
  | none => false

def skip (cs : Symbols) : Symbols := cs.dropWhile isBlank

def isDigitAt : Option Char → Bool
  | some c => isDigit c
  | none => false

def hexUnit? (a b c d : Option Char) : Option Nat := do
  let a ← hexDigit? (← a)
  let b ← hexDigit? (← b)
  let c ← hexDigit? (← c)
  let d ← hexDigit? (← d)
  return ((a * 16 + b) * 16 + c) * 16 + d

def escaped? : Char → Option Char
  | '"' => some '"'
  | '\\' => some '\\'
  | '/' => some '/'
  | 'b' => some '\x08'
  | 'f' => some '\x0c'
  | 'n' => some '\n'
  | 'r' => some '\r'
  | 't' => some '\t'
  | _ => none

/-- Puts a character before a text that may have no value. -/
def before (c : Option Char) :
    Option (Option (List Char) × Symbols) → Option (Option (List Char) × Symbols)
  | none => none
  | some (read, rest) => some (do return (← c) :: (← read), rest)

/-- A high surrogate that no low one follows is no character. -/
def unpaired (high : Option Nat) (read : Option (Option (List Char) × Symbols)) :
    Option (Option (List Char) × Symbols) :=
  if high.isSome then before none read else read

/-- A text, from after its opening quote; `high` is the high surrogate that was read last. -/
def readText? (high : Option Nat) : Symbols → Option (Option (List Char) × Symbols)
  | [] => none
  | some '"' :: rest => unpaired high (some (some [], rest))
  | some '\\' :: some 'u' :: a :: b :: c :: d :: rest =>
    match hexUnit? a b c d with
    | none => none
    | some unit =>
      if 0xD800 ≤ unit ∧ unit < 0xDC00 then unpaired high (readText? (some unit) rest)
      else if 0xDC00 ≤ unit ∧ unit < 0xE000 then
        before (high.bind fun h => charOfNat? (0x10000 + (h - 0xD800) * 0x400 + (unit - 0xDC00)))
          (readText? none rest)
      else unpaired high (before (charOfNat? unit) (readText? none rest))
  | some '\\' :: some e :: rest =>
    match escaped? e with
    | none => none
    | some c => unpaired high (before (some c) (readText? none rest))
  | some '\\' :: _ => none
  | some c :: rest =>
    if c.toNat < 0x20 then none else unpaired high (before (some c) (readText? none rest))
  | none :: rest => unpaired high (before none (readText? none rest))

def natOf (digits : Symbols) : Nat := natOfDigits 10 (digits.filterMap id)

def readDigits? (cs : Symbols) : Option (Symbols × Symbols) :=
  match cs.takeWhile isDigitAt with
  | [] => none
  | digits => some (digits, cs.dropWhile isDigitAt)

/-- The part of a number after its sign: its value if it is a natural number, and the rest. -/
def readMagnitude? (cs : Symbols) : Option (Option Nat × Symbols) := do
  let (digits, rest) ← readDigits? cs
  if digits.head? = some (some '0') ∧ 1 < digits.length then none
  else
    let (plain, rest) ← match rest with
      | some '.' :: rest => (readDigits? rest).map fun (_, rest) => (false, rest)
      | rest => some (true, rest)
    let (plain, rest) ← match rest with
      | some e :: rest =>
        if e = 'e' ∨ e = 'E' then
          let unsigned := match rest with
            | some '+' :: rest | some '-' :: rest => rest
            | rest => rest
          (readDigits? unsigned).map fun (_, rest) => (false, rest)
        else some (plain, some e :: rest)
      | rest => some (plain, rest)
    let n := natOf digits
    return (if plain ∧ n < Nat.pow 2 64 then some n else none, rest)

/-- A number, a negative one without its value. -/
def readNumber? : Symbols → Option (Json × Symbols)
  | some '-' :: cs => (readMagnitude? cs).map fun (_, rest) => (number none, rest)
  | cs => (readMagnitude? cs).map fun (n, rest) => (number n, rest)

mutual

/-- A value, after blanks. Every step takes a symbol or goes from a value to its items. -/
def readValue? : (steps : Nat) → Symbols → Option (Json × Symbols)
  | 0, _ => none
  | steps + 1, cs =>
    match skip cs with
    | some '"' :: cs => (readText? none cs).map fun (s, rest) => (text (s.map String.ofList), rest)
    | some '[' :: cs =>
      match skip cs with
      | some ']' :: rest => some (array [], rest)
      | cs => (readItems? steps cs).map fun (items, rest) => (array items, rest)
    | some '{' :: cs =>
      match skip cs with
      | some '}' :: rest => some (object [], rest)
      | cs => (readEntries? steps cs).map fun (entries, rest) => (object entries, rest)
    | some 't' :: some 'r' :: some 'u' :: some 'e' :: rest => some (bool true, rest)
    | some 'f' :: some 'a' :: some 'l' :: some 's' :: some 'e' :: rest => some (bool false, rest)
    | some 'n' :: some 'u' :: some 'l' :: some 'l' :: rest => some (null, rest)
    | cs => readNumber? cs

/-- The items of an array, one or more, up to its closing bracket. -/
def readItems? : (steps : Nat) → Symbols → Option (List Json × Symbols)
  | 0, _ => none
  | steps + 1, cs =>
    match readValue? steps cs with
    | none => none
    | some (item, rest) =>
      match skip rest with
      | some ',' :: rest => (readItems? steps rest).map fun (items, rest) => (item :: items, rest)
      | some ']' :: rest => some ([item], rest)
      | _ => none

/-- The entries of an object, one or more, up to its closing brace. -/
def readEntries? : (steps : Nat) → Symbols → Option (List (Option String × Json) × Symbols)
  | 0, _ => none
  | steps + 1, cs =>
    match skip cs with
    | some '"' :: cs =>
      match readText? none cs with
      | none => none
      | some (key, rest) =>
        match skip rest with
        | some ':' :: rest =>
          match readValue? steps rest with
          | none => none
          | some (item, rest) =>
            let entry := (key.map String.ofList, item)
            match skip rest with
            | some ',' :: rest =>
              (readEntries? steps rest).map fun (entries, rest) => (entry :: entries, rest)
            | some '}' :: rest => some ([entry], rest)
            | _ => none
        | _ => none
    | _ => none

end

def read? (cs : Symbols) : Option Json :=
  match readValue? (2 * cs.length + 2) cs with
  | some (v, rest) => if (skip rest).isEmpty then some v else none
  | none => none

def ofText? (text : String) : Option Json := read? (text.toList.map some)

end ProseLint.Json
