/-
TOML documents. `readEntries?` are the entries of the table that a document stands for, if it is
well-formed.
-/
import ProseLint.Toml.Scalar

namespace ProseLint.Toml

/-- The deepest nesting of values, and one more than the most keys that dots may join. -/
def maxDepth : Nat := 80

/-- The items of an array up to its closing bracket; a comma may follow the last one. -/
def items? (item? : List Char → Option (Value × List Char)) :
    (steps : Nat) → List Char → Option (List Value × List Char)
  | 0, _ => none
  | steps + 1, cs =>
    match skipLines false cs with
    | ']' :: rest => some ([], rest)
    | cs => do
      let (item, rest) ← item? cs
      match skipLines false rest with
      | ',' :: rest => (items? item? steps rest).map fun (items, rest) => (item :: items, rest)
      | ']' :: rest => return ([item], rest)
      | _ => none

/-- The entries of a table in braces, one or more, up to the closing one. -/
def entries? (item? : List Char → Option (Value × List Char)) :
    (steps : Nat) → Value → List Char → Option (Value × List Char)
  | 0, _, _ => none
  | steps + 1, t, cs => do
    let (keys, rest) ← dottedKey? (maxDepth - 1) cs
    let (item, rest) ← match rest with
      | '=' :: rest => item? (skipBlanks rest)
      | _ => none
    let key := keys.getLast?.getD ""
    let t ← t.withinBraces (Value.insertNew (1 < keys.length) key item) keys.dropLast
    match skipBlanks rest with
    | ',' :: rest => entries? item? steps t rest
    | '}' :: rest => return (t, rest)
    | _ => none

/-- A value in which others may be nested `room` deep. -/
def value? : (room : Nat) → List Char → Option (Value × List Char)
  | room, cs =>
    match cs with
    | [] => none
    | c :: rest =>
      if c = '"' ∨ c = '\'' then (string? cs).map fun (s, rest) => (.string s, rest)
      else if c = '[' then
        match room with
        | 0 => none
        | room + 1 =>
          (items? (value? room) rest.length rest).map fun (items, rest) => (.array items, rest)
      else if c = '{' then
        match room with
        | 0 => none
        | room + 1 =>
          match skipBlanks rest with
          | '}' :: rest => some (.table .braced [], rest)
          | rest => entries? (value? room) rest.length (.table .braced []) rest
      else if c = 't' then
        match rest with
        | 'r' :: 'u' :: 'e' :: rest => some (.boolean true, rest)
        | _ => none
      else if c = 'f' then
        match rest with
        | 'a' :: 'l' :: 's' :: 'e' :: rest => some (.boolean false, rest)
        | _ => none
      else number? cs

structure Document where
  root : Value
  header : List String

namespace Document

def header? (d : Document) (cs : List Char) : Option (Document × List Char) := do
  let (twice, cs) := match cs with
    | '[' :: cs => (true, cs)
    | cs => (false, cs)
  let (keys, rest) ← dottedKey? (maxDepth - 1) cs
  let rest ← match twice, rest with
    | true, ']' :: ']' :: rest => restOfLine? rest
    | false, ']' :: rest => restOfLine? rest
    | _, _ => none
  let key := keys.getLast?.getD ""
  let change := if twice then Value.openElement key else Value.openTable key
  return (⟨← d.root.within false change keys.dropLast, keys⟩, rest)

def entry? (d : Document) (cs : List Char) : Option (Document × List Char) := do
  let (keys, rest) ← dottedKey? (maxDepth - 1) cs
  let (v, rest) ← match rest with
    | '=' :: rest => value? (maxDepth - 1) (skipBlanks rest)
    | _ => none
  let rest ← restOfLine? rest
  let key := keys.getLast?.getD ""
  let insert := Value.within true (Value.insertNew (1 < keys.length) key v) keys.dropLast
  return ({ d with root := ← d.root.within false insert d.header }, rest)

/-- Takes the document to its end, one line at a step. -/
def lines? : (steps : Nat) → Document → List Char → Option Document
  | steps, d, cs =>
    match skipBlanks cs with
    | [] => some d
    | c :: rest =>
      match steps with
      | 0 => none
      | steps + 1 =>
        if c = '#' ∨ c = '\n' ∨ c = '\r' then do lines? steps d (← restOfLine? (c :: rest))
        else if c = '[' then do
          let (d, rest) ← d.header? rest
          lines? steps d rest
        else do
          let (d, rest) ← d.entry? (c :: rest)
          lines? steps d rest

end Document

/-- The entries of the table that a document stands for. A mark of byte order may precede it. -/
def readEntries? (text : String) : Option (List (String × Value)) := do
  let cs := match text.toList with
    | '\ufeff' :: cs => cs
    | cs => cs
  let d ← Document.lines? cs.length ⟨.table .headed [], []⟩ cs
  d.root.table?

end ProseLint.Toml
