/-
The text of a script while it is read: what is left of it, the line that is read, and where the text
goes on behind the here-documents of that line.
-/
import ProseLint.Shell.Tree

namespace ProseLint.Shell

/-- Why a script cannot be read, and the line where that was found. -/
structure ReadFault where
  message : String
  line : Nat
  deriving DecidableEq, Repr

/-- A token of a script. A word that is written out is also given as letters. -/
inductive Token where
  | finish
  | newline
  | semicolon
  | endOfArm
  | background
  | both
  | either
  | pipe
  | opening
  | closing
  | redirection (stream : Option Nat) (sign : String)
  | word (w : Word)
  | keyword (name : String)

def Token.shown : Token → String
  | finish => "end of file"
  | newline => "newline"
  | semicolon => "\";\""
  | endOfArm => "\";;\""
  | background => "\"&\""
  | both => "\"&&\""
  | either => "\"||\""
  | pipe => "\"|\""
  | opening => "\"(\""
  | closing => "\")\""
  | redirection _ _ => "redirection"
  | word _ => "word"
  | keyword name => "\"" ++ name ++ "\""

/-- The line that ends a here-document, whose lines may have tabs before them. -/
structure Mark where
  text : Bytes
  tabs : Bool

structure Source where
  rest : Bytes
  /-- whether the text is that of a file, and can be shown while it is read -/
  ofFile : Bool := false
  line : Nat := 1
  /-- the text behind the here-documents of this line, and its line -/
  behind : Option (Bytes × Nat) := none
  /-- whether the here-document that is read is at its end -/
  atMark : Bool := false
  /-- a token that has been put back -/
  ahead : Option Token := none
  aliases : List (String × Bytes) := []
  /-- the aliases that stand in the text, each with how much of the text is left after it -/
  inside : List (String × Nat) := []

abbrev Reading := EStateM ReadFault Source

namespace Reading

def fail {α : Type} (message : String) : Reading α := do
  throw ⟨message, (← get).line⟩

/-- Passes over pairs of a backslash and a line end, and counts them. -/
def joinLines : Bytes → Nat → Bytes × Nat
  | '\\' :: '\n' :: cs, line => joinLines cs (line + 1)
  | cs, line => (cs, line)

def peek : Reading (Option Char) := do
  modify fun s =>
    match s.rest with
    | '\\' :: '\n' :: _ =>
      let (rest, line) := joinLines s.rest s.line
      { s with rest, line }
    | _ => s
  return (← get).rest.head?

def skip : Reading Unit := modify fun s => { s with rest := s.rest.tail }

def next : Reading (Option Char) := do
  let c ← peek
  skip
  return c

/-- Takes the next character as it stands, and counts a line that ends there. -/
def nextRaw : Reading (Option Char) := do
  let c := (← get).rest.head?
  modify fun s => { s with rest := s.rest.tail, line := if c = some '\n' then s.line + 1 else s.line }
  return c

/-- Passes over a mark at the start of a line, and tabs before it. -/
def startLine (m : Mark) : Reading Unit := do
  let _ ← peek
  modify fun s =>
    let rest := if m.tabs then s.rest.dropWhile (· = '\t') else s.rest
    let behind := rest.drop m.text.length
    if m.text.isPrefixOf rest ∧ (behind.isEmpty ∨ behind.head? = some '\n') then
      { s with rest := behind.tail, line := s.line + 1, atMark := true }
    else { s with rest }

def unread (c : Option Char) : Reading Unit :=
  match c with
  | some c => modify fun s => { s with rest := c :: s.rest }
  | none => pure ()

def takeWhile (kind : Char → Bool) : (steps : Nat) → Reading Bytes
  | 0 => pure []
  | steps + 1 => do
    match ← peek with
    | some c =>
      if kind c then
        skip
        return c :: (← takeWhile kind steps)
      else return []
    | none => return []

/-- Passes over a line end that is no part of a word, and the here-documents behind it. -/
def endLine : Reading Unit := modify fun s =>
  match s.behind with
  | some (rest, line) => { s with rest, line, behind := none }
  | none => { s with rest := s.rest.tail, line := s.line + 1 }

/-- Reads something from another text, which starts at a line. -/
def within {α : Type} (text : Bytes) (line : Nat) (read : Reading α) : Reading α := do
  let outer ← get
  set { outer with rest := text, line, behind := none, atMark := false, ahead := none, inside := [] }
  let a ← read
  set outer
  return a

end Reading

end ProseLint.Shell
