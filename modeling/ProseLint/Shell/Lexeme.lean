/-
The tokens of a script and the parts of its words. A command whose output is a part of a word is
read by what the grammar of commands gives for it: the rest of a text, or what is closed by a
parenthesis.
-/
import ProseLint.Shell.Source
import ProseLint.Text.Digits

namespace ProseLint.Shell

open Reading

namespace Word

/-- Where a stretch of a word lies: this says how it ends and what counts in it. -/
inductive Place where
  /-- outside of quotes, up to where words end -/
  | bare
  /-- as `bare`, and nothing stands for something else -/
  | mark
  | quotes
  /-- behind a parameter in braces, up to the closing one -/
  | operand (quoted : Bool)
  | document
  /-- arithmetic, up to two closing parentheses -/
  | arithmetic (depth : Nat)
  deriving DecidableEq, Repr

def Place.isQuoted : Place → Bool
  | bare | mark => false
  | operand quoted => quoted
  | quotes | document | arithmetic _ => true

/-- What a backslash quotes in a place that is quoted itself; elsewhere it stands for itself. -/
def Place.escapes (p : Place) (c : Char) : Bool :=
  c = '\\' || c = '\x60' || c = '$' || (c = '"' && p ≠ .document) || (c = '}' && p matches .operand true)

def isBreak (c : Char) : Bool :=
  isBlank c || c = '\n' || c = ';' || c = '&' || c = '|' || c = '(' || c = ')' || c = '<' || c = '>'

def isSpecial (c : Char) : Bool := Text.isDigit c || "!#$*-?@".contains c

def singleQuoted : (steps : Nat) → Reading Bytes
  | 0 => fail "Unterminated quoted string"
  | steps + 1 => do
    match ← nextRaw with
    | none => fail "Unterminated quoted string"
    | some '\'' => return []
    | some c => return c :: (← singleQuoted steps)

/-- The text between backquotes, where a backslash quotes some characters. -/
def backquoted (quoted : Bool) : (steps : Nat) → Reading Bytes
  | 0 => fail "EOF in backquote substitution"
  | steps + 1 => do
    let _ ← peek
    match ← nextRaw with
    | none => fail "EOF in backquote substitution"
    | some '\x60' => return []
    | some '\\' =>
      match ← nextRaw with
      | none => fail "EOF in backquote substitution"
      | some c =>
        let more ← backquoted quoted steps
        if c = '\\' ∨ c = '\x60' ∨ c = '$' ∨ (quoted ∧ c = '"') then return c :: more
        else return '\\' :: c :: more
    | some c => return c :: (← backquoted quoted steps)

/-- The name of a parameter in braces and whether its length is asked for, with the character behind
it. -/
def bracedName (steps : Nat) : Reading (Option String × Bool × Option Char) := do
  let named (length : Bool) (c : Char) : Reading (Option String × Bool × Option Char) := do
    let isPart := if Text.isDigit c then Text.isDigit else isNameChar
    let more ← takeWhile isPart steps
    return (some (String.ofList (c :: more)), length, ← next)
  match ← next with
  | none => return (none, false, none)
  | some '}' => return (none, false, some '}')
  | some '#' =>
    match ← next with
    | none => return (some "#", false, none)
    | some c =>
      if isNameChar c then named true c
      else
        let d ← next
        if c ≠ '}' ∧ d = some '}' then
          if isSpecial c then return (some (String.singleton c), true, d)
          else return (none, false, d)
        else
          unread d
          return (some "#", false, some c)
  | some c =>
    if isNameChar c then named false c
    else
      let d ← next
      return (if isSpecial c then some (String.singleton c) else none, false, d)

/-- What becomes of a parameter in braces, from the character behind its name on: `none` if there is
no such thing. -/
def usage (c : Option Char) : Reading (Option (Usage × Bool)) := do
  let ofLetter : Char → Option Usage
    | '-' => some .otherwise
    | '=' => some .assigned
    | '?' => some .required
    | '+' => some .instead
    | _ => none
  let ofCut (c : Char) : Reading (Option (Usage × Bool)) := do
    let twice := (← peek) = some c
    if twice then skip
    return some (.cut (c = '%') twice, false)
  match c with
  | some '%' => ofCut '%'
  | some '#' => ofCut '#'
  | some ':' =>
    let d ← next
    match d.bind ofLetter with
    | some u => return some (u, true)
    | none => return none
  | some c => return (ofLetter c).map (·, false)
  | none => return none

/-- Takes the parts of a word in a place, past what ends them there. A here-document ends them with
its mark. -/
def parts (command : Bool → Reading Command) :
    (steps : Nat) → (document : Option Mark) → Place → Reading Word
  | 0, _, _ => fail "Missing end"
  | steps + 1, document, place => do
    let quoted := place.isQuoted
    let inside (place : Place) : Reading Word := parts command steps document place
    let more := inside place
    let behind (quoted : Bool) : Reading Word := inside (.operand quoted)
    let written (c : Char) : Reading Word := do return add (.text quoted [c]) (← more)
    let next ← if (← get).atMark then pure none else peek
    match next with
    | none =>
      match place, document with
      | .bare, _ | .mark, _ | .document, _ => return []
      | .quotes, none | .operand true, none => fail "Unterminated quoted string"
      | .quotes, some _ | .operand _, _ => fail "Missing '\x7d'"
      | .arithmetic _, _ => fail "Missing '))'"
    | some c =>
      if (place = .bare ∨ place = .mark) ∧ isBreak c then return []
      else
        let _ ← nextRaw
        match c with
        | '\n' =>
          if let some m := document then startLine m
          written c
        | '\\' =>
          match ← nextRaw with
          | none => return [.text true ['\\']]
          | some e =>
            let shown := if quoted ∧ !place.escapes e then ['\\', e] else [e]
            return add (.text true shown) (← more)
        | '\'' =>
          if quoted then written c
          else
            let cs ← singleQuoted steps
            return add (.text true cs) (← more)
        | '"' =>
          match place with
          | .quotes => return []
          | .document | .arithmetic _ => written c
          | _ =>
            let w ← inside .quotes
            let begun := match w with
              | [.parameter true "@" .plain _ _] => w
              | _ => if place matches .operand true then w else .text true [] :: w
            return begun.foldr add (← more)
        | '}' =>
          match place with
          | .operand _ => return []
          | _ => written c
        | '(' =>
          match place with
          | .arithmetic depth =>
            return add (.text true ['(']) (← inside (.arithmetic (depth + 1)))
          | _ => written c
        | ')' =>
          match place with
          | .arithmetic 0 =>
            if (← peek) = some ')' then
              skip
              return []
            else written c
          | .arithmetic (depth + 1) =>
            return add (.text true [')']) (← inside (.arithmetic depth))
          | _ => written c
        | '\x60' =>
          if place = .mark then written c
          else
            let c ← within (← backquoted quoted steps) 1 (command false)
            return .output quoted c :: (← more)
        | '$' =>
          if place = .mark then written c
          else match ← peek with
          | some '(' =>
            skip
            if (← peek) = some '(' then
              skip
              let w ← inside (.arithmetic 0)
              return .arithmetic quoted w :: (← more)
            else
              let c ← command true
              return .output quoted c :: (← more)
          | some '{' =>
            skip
            let (name, length, c) ← bracedName steps
            match name, length with
            | some name, true =>
              if c = some '}' then return .parameter quoted name .length false [] :: (← more)
              else
                unread c
                let _ ← behind quoted
                return .malformed :: (← more)
            | some name, false =>
              if c = some '}' then return .parameter quoted name .plain false [] :: (← more)
              else
                match ← usage c with
                | some (.cut atEnd longest, _) =>
                  let operand ← behind false
                  return .parameter quoted name (.cut atEnd longest) false operand :: (← more)
                | some (u, orEmpty) =>
                  let operand ← behind quoted
                  return .parameter quoted name u orEmpty operand :: (← more)
                | none =>
                  let _ ← behind quoted
                  return .malformed :: (← more)
            | none, _ =>
              unread c
              let _ ← behind quoted
              return .malformed :: (← more)
          | some d =>
            if isNameStart d then
              let name ← takeWhile isNameChar steps
              return .parameter quoted (String.ofList name) .plain false [] :: (← more)
            else if isSpecial d then
              skip
              return .parameter quoted (String.singleton d) .plain false [] :: (← more)
            else written c
          | none => written c
        | c => written c

end Word

namespace Token

/-- The signs of redirections, the longest first. -/
def signs : List String := ["<<-", "<<", "<&", "<>", "<", ">>", ">&", ">|", ">"]

def sign : Reading String := do
  let cs := (← get).rest
  match signs.find? (·.toList.isPrefixOf cs) with
  | some s =>
    modify fun source => { source with rest := cs.drop s.length }
    return s
  | none => fail "Missing sign"

def skipBlanks : (steps : Nat) → Reading Unit
  | 0 => pure ()
  | steps + 1 => do
    match ← peek with
    | some ' ' | some '\t' =>
      skip
      skipBlanks steps
    | some '#' => modify fun s => { s with rest := s.rest.dropWhile (· ≠ '\n') }
    | _ => pure ()

/-- One of two tokens, the second if a character follows. -/
def longer (c : Char) (one two : Token) : Reading Token := do
  skip
  if (← peek) = some c then
    skip
    return two
  else return one

def read (command : Bool → Reading Command) (steps : Nat) (place : Word.Place) : Reading Token := do
  skipBlanks steps
  match ← peek with
  | none => return .finish
  | some '\n' =>
    endLine
    return .newline
  | some '&' => longer '&' .background .both
  | some '|' => longer '|' .pipe .either
  | some ';' => longer ';' .semicolon .endOfArm
  | some '(' =>
    skip
    return .opening
  | some ')' =>
    skip
    return .closing
  | some c =>
    if c = '<' ∨ c = '>' then return .redirection none (← sign)
    else
      let w ← Word.parts command steps none place
      match w, ← peek with
      | [.text false [d]], some s =>
        if Text.isDigit d ∧ (s = '<' ∨ s = '>') then
          return .redirection (some (d.toNat - '0'.toNat)) (← sign)
        else return .word w
      | _, _ => return .word w

/-- Words that shape commands where a command may start. -/
def keywords : List String :=
  ["!", "case", "do", "done", "elif", "else", "esac", "fi", "for", "if", "in", "then", "until",
    "while", "\x7b", "\x7d"]

end Token

end ProseLint.Shell
