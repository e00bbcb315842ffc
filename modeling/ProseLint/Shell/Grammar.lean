/-
How a script is read into commands, one line of commands after another.
-/
import ProseLint.Shell.Lexeme

namespace ProseLint.Shell

open Reading

def specialNames : List String :=
  [".", ":", "break", "continue", "eval", "exec", "exit", "export", "local", "readonly", "return",
    "set", "shift", "times", "trap", "unset"]

namespace Token

/-- Gives up at a token where another one, if any, has to stand. -/
def unexpected {α : Type} (t : Token) (instead : Option Token) : Reading α :=
  let hint := match instead with
    | some t => " (expecting " ++ t.shown ++ ")"
    | none => ""
  fail (t.shown ++ " unexpected" ++ hint)

def putBack (t : Token) : Reading Unit := modify fun s => { s with ahead := some t }

/-- Which words a token may be: line ends are passed over, keywords and aliases count. -/
structure Expected where
  newlines : Bool := false
  keywords : Bool := false
  aliases : Bool := false

def Expected.command (newlines : Bool) : Expected := ⟨newlines, true, true⟩

/-- Puts the text of an alias before what is left, unless that text is being read. -/
def substituted (name : String) : Reading Bool := do
  let s ← get
  match s.aliases.lookup name with
  | none => return false
  | some text =>
    let left := s.rest.length
    if s.inside.any fun i => i.1 = name ∧ i.2 < left then return false
    else
      set { s with rest := text ++ s.rest, inside := (name, left) :: s.inside }
      return true

def take (command : Bool → Reading Command) : (steps : Nat) → Expected → Reading Token
  | 0, _ => return .finish
  | steps + 1, e => do
    let s ← get
    let t ← match s.ahead with
      | some t =>
        set { s with ahead := none }
        pure t
      | none => read command steps .bare
    match t with
    | .newline => if e.newlines then take command steps e else return t
    | .word w =>
      match w.plain? with
      | none => return t
      | some name =>
        if e.keywords ∧ keywords.contains name then return .keyword name
        else if e.aliases then
          if ← substituted name then take command steps e else return t
        else return t
    | t => return t

/-- Whether a list of commands ends before a token. -/
def endsList : Token → Bool
  | finish | closing | endOfArm => true
  | keyword name => ["do", "done", "elif", "else", "esac", "fi", "then", "\x7d"].contains name
  | _ => false

end Token

namespace Redirect

/-- The text behind the first line end that is no part of a longer line, and its line. -/
def nextLine : Bytes → Nat → Bytes × Nat
  | [], line => ([], line)
  | '\\' :: '\n' :: cs, line => nextLine cs (line + 1)
  | '\n' :: cs, line => (cs, line + 1)
  | _ :: cs, line => nextLine cs line

/-- The lines of a here-document up to the one that is its mark, and what is behind that, with its
line. -/
def documentLines (tabs : Bool) (mark : Bytes) : (steps : Nat) → Bytes → Nat → Bytes × Bytes × Nat
  | 0, cs, line => ([], cs, line)
  | _ + 1, [], line => ([], [], line)
  | steps + 1, cs, line =>
    let text := cs.takeWhile (· ≠ '\n')
    let rest := cs.dropWhile (· ≠ '\n')
    let text := if tabs then text.dropWhile (· = '\t') else text
    if text = mark then ([], rest.tail, line + 1)
    else
      let (more, behind, last) := documentLines tabs mark steps rest.tail (line + 1)
      (text ++ rest.take 1 ++ more, behind, last)

/-- Takes a here-document whose mark has been read. -/
def ofMark (command : Bool → Reading Command) (steps stream : Nat) (tabs : Bool) (mark : Word) :
    Reading Redirect := do
  let s ← get
  let (mark, quoted) := mark.asWritten
  let (text, line) := s.behind.getD (nextLine s.rest s.line)
  if quoted then
    let (body, behind) := documentLines tabs mark (text.length + 1) text line
    set { s with behind := some behind }
    return .document stream [.text true body]
  else
    let m : Mark := ⟨mark, tabs⟩
    set { s with rest := text, line, behind := none, ahead := none, inside := [] }
    startLine m
    let w ← Word.parts command steps (some m) .document
    let after ← get
    set { s with behind := some (after.rest, after.line) }
    return .document stream w

def read (command : Bool → Reading Command) (steps : Nat) (stream : Option Nat) (sign : String) :
    Reading Redirect := do
  let document := sign = "<<" ∨ sign = "<<-"
  let t ← if document then Token.read command steps .mark else Token.take command steps {}
  match t with
  | .word w =>
    if document then ofMark command steps (stream.getD 0) (sign = "<<-") w
    else return match sign with
      | "<" => .file (stream.getD 0) .read w
      | ">" => .file (stream.getD 1) .write w
      | ">|" => .file (stream.getD 1) .overwrite w
      | ">>" => .file (stream.getD 1) .append w
      | "<>" => .file (stream.getD 0) .both w
      | "<&" => .copy (stream.getD 0) w
      | _ => .copy (stream.getD 1) w
  | t => t.unexpected none

end Redirect

namespace Grammar

/-- A list of commands: one line of them, or a list in a longer command, which may be empty or
not. -/
inductive Extent where
  | line
  | optional
  | required
  deriving DecidableEq, Repr

def inOrder : Command → Command → Command
  | .nothing, b => b
  | a, b => .sequence a b

/-- The parameters of a script, each as one field. -/
def allArguments : Word := [.parameter true "@" .plain false []]

mutual

/-- A list of commands behind one that has been read. -/
def list : (steps : Nat) → Extent → Command → Reading Command
  | 0, _, c => return c
  | steps + 1, extent, c => do
    let substitution := substitution steps
    let t ← Token.take substitution steps (.command (extent ≠ .line))
    match t with
    | .newline => return c
    | .finish =>
      Token.putBack t
      return c
    | t =>
      Token.putBack t
      if extent = .optional ∧ t.endsList then return c
      else
        let next ← chain steps
        let t ← Token.take substitution steps {}
        let next := match t with
          | .background => .background next
          | _ => next
        let c := inOrder c next
        let extent := if extent = .line then extent else .optional
        match t with
        | .semicolon | .background => list steps extent c
        | .newline =>
          Token.putBack t
          list steps extent c
        | .finish =>
          Token.putBack t
          return c
        | t =>
          if extent = .line then t.unexpected none
          else
            Token.putBack t
            return c

/-- A list of commands that is a part of a word, and the parenthesis that closes it if it has one. -/
def substitution : (steps : Nat) → (closed : Bool) → Reading Command
  | 0, _ => return .nothing
  | steps + 1, closed => do
    let c ← list steps .optional .nothing
    if closed then expect steps .closing
    return c

def expect : (steps : Nat) → Token → Reading Unit
  | 0, _ => return ()
  | steps + 1, wanted => do
    let t ← Token.take (substitution steps) steps {}
    if t.shown = wanted.shown then return () else t.unexpected (some wanted)

/-- Pipelines joined by conditions, from left to right. -/
def chain : (steps : Nat) → Reading Command
  | 0 => return .nothing
  | steps + 1 => do links steps (← pipeline steps false)

def links : (steps : Nat) → Command → Reading Command
  | 0, c => return c
  | steps + 1, c => do
    let t ← Token.take (substitution steps) steps {}
    match t with
    | .both => links steps (.both c (← pipeline steps true))
    | .either => links steps (.either c (← pipeline steps true))
    | t =>
      Token.putBack t
      return c

def pipeline : (steps : Nat) → (newlines : Bool) → Reading Command
  | 0, _ => return .nothing
  | steps + 1, newlines => do
    let t ← Token.take (substitution steps) steps (.command newlines)
    match t with
    | .keyword "!" => return .negated (← stages steps (← one steps false))
    | t =>
      Token.putBack t
      stages steps (← one steps false)

def stages : (steps : Nat) → Command → Reading Command
  | 0, c => return c
  | steps + 1, c => do
    match ← moreStages steps with
    | [] => return c
    | cs => return .pipeline (c :: cs)

def moreStages : (steps : Nat) → Reading (List Command)
  | 0 => return []
  | steps + 1 => do
    let t ← Token.take (substitution steps) steps {}
    match t with
    | .pipe =>
      let c ← one steps true
      return c :: (← moreStages steps)
    | t =>
      Token.putBack t
      return []

def one : (steps : Nat) → (newlines : Bool) → Reading Command
  | 0, _ => return .nothing
  | steps + 1, newlines => do
    let line := (← get).line
    let substitution := substitution steps
    let t ← Token.take substitution steps (.command newlines)
    match t with
    | .keyword "if" =>
      let c ← branch steps
      withRedirects steps line c
    | .keyword "while" =>
      let c ← loop steps true
      withRedirects steps line c
    | .keyword "until" =>
      let c ← loop steps false
      withRedirects steps line c
    | .keyword "for" =>
      let c ← each steps line
      withRedirects steps line c
    | .keyword "case" =>
      match ← Token.take substitution steps {} with
      | .word w =>
        let t ← Token.take substitution steps (.command true)
        match t with
        | .keyword "in" =>
          let arms ← arms steps
          withRedirects steps line (.select line w arms)
        | t => t.unexpected (some (.keyword "in"))
      | t => t.unexpected (some (.word []))
    | .keyword "\x7b" =>
      let c ← list steps .required .nothing
      expect steps (.keyword "\x7d")
      withRedirects steps line c
    | .opening =>
      let c ← list steps .required .nothing
      expect steps .closing
      withRedirects steps line (.apart line c [])
    | .word _ | .redirection _ _ =>
      Token.putBack t
      simple steps (← get).line true [] [] []
    | t => t.unexpected none

def branch : (steps : Nat) → Reading Command
  | 0 => return .nothing
  | steps + 1 => do
    let condition ← list steps .required .nothing
    expect steps (.keyword "then")
    let yes ← list steps .required .nothing
    let t ← Token.take (substitution steps) steps {}
    match t with
    | .keyword "elif" => return .choose condition yes (← branch steps)
    | .keyword "else" =>
      let no ← list steps .required .nothing
      expect steps (.keyword "fi")
      return .choose condition yes no
    | .keyword "fi" => return .choose condition yes .nothing
    | t => t.unexpected (some (.keyword "fi"))

def loop : (steps : Nat) → (goal : Bool) → Reading Command
  | 0, _ => return .nothing
  | steps + 1, goal => do
    let condition ← list steps .required .nothing
    expect steps (.keyword "do")
    let body ← list steps .required .nothing
    expect steps (.keyword "done")
    return .loop goal condition body

def each : (steps : Nat) → (line : Nat) → Reading Command
  | 0, _ => return .nothing
  | steps + 1, line => do
    let substitution := substitution steps
    let name ← match ← Token.take substitution steps {} with
      | .word w =>
        match w.plain? with
        | some name =>
          if Word.isName name.toList then pure name
          else fail "Bad for loop variable"
        | none => fail "Bad for loop variable"
      | _ => fail "Bad for loop variable"
    let t ← Token.take substitution steps (.command true)
    let values ← match t with
      | .keyword "in" => words steps
      | .semicolon => pure [allArguments]
      | t =>
        Token.putBack t
        pure [allArguments]
    let t ← Token.take substitution steps (.command true)
    match t with
    | .keyword "do" =>
      let body ← list steps .required .nothing
      expect steps (.keyword "done")
      return .each line name values body
    | t => t.unexpected (some (.keyword "do"))

def words : (steps : Nat) → Reading (List Word)
  | 0 => return []
  | steps + 1 => do
    let t ← Token.take (substitution steps) steps {}
    match t with
    | .word w => return w :: (← words steps)
    | .newline | .semicolon => return []
    | t => t.unexpected none

/-- The arms of a choice by patterns, up to its end. -/
def arms : (steps : Nat) → Reading (List (List Word × Command))
  | 0 => return []
  | steps + 1 => do
    let substitution := substitution steps
    let t ← Token.take substitution steps ⟨true, true, false⟩
    match t with
    | .keyword "esac" => return []
    | t =>
      let t ← match t with
        | .opening => Token.take substitution steps {}
        | t => pure t
      let ps ← patterns steps t
      let body ← list steps .optional .nothing
      let t ← Token.take substitution steps ⟨true, true, false⟩
      match t with
      | .keyword "esac" => return [(ps, body)]
      | .endOfArm => return (ps, body) :: (← arms steps)
      | t => t.unexpected (some .endOfArm)

/-- The patterns of an arm, from the token of the first one on. -/
def patterns : (steps : Nat) → Token → Reading (List Word)
  | 0, _ => return []
  | steps + 1, t => do
    let substitution := substitution steps
    let pattern : Word := match t with
      | .word w => w
      | .keyword name => [.text false name.toList]
      | _ => []
    let t ← Token.take substitution steps {}
    match t with
    | .closing => return [pattern]
    | .pipe =>
      let t ← Token.take substitution steps {}
      return pattern :: (← patterns steps t)
    | t => t.unexpected (some .closing)

def withRedirects : (steps : Nat) → (line : Nat) → Command → Reading Command
  | 0, _, c => return c
  | steps + 1, line, c => do
    match c, ← redirects steps with
    | c, [] => return c
    | .apart line body [], rs => return .apart line body rs
    | c, rs => return .redirected line c rs

def redirects : (steps : Nat) → Reading (List Redirect)
  | 0 => return []
  | steps + 1 => do
    let t ← Token.take (substitution steps) steps (.command false)
    match t with
    | .redirection stream sign =>
      let r ← Redirect.read (substitution steps) steps stream sign
      return r :: (← redirects steps)
    | t =>
      Token.putBack t
      return []

/-- The parts of a simple command, or the definition of a function. -/
def simple : (steps : Nat) → (line : Nat) → (first : Bool) → List (String × Word) → List Word →
    List Redirect → Reading Command
  | 0, _, _, _, _, _ => return .nothing
  | steps + 1, line, first, assignments, ws, rs => do
    let substitution := substitution steps
    let t ← Token.take substitution steps ⟨false, false, first⟩
    let done : Command := .simple line assignments.reverse ws.reverse rs.reverse
    match t with
    | .word w =>
      match if first then w.assignment? else none with
      | some a => simple steps line true (a :: assignments) ws rs
      | none => simple steps line false assignments (w :: ws) rs
    | .redirection stream sign =>
      let r ← Redirect.read substitution steps stream sign
      simple steps line first assignments ws (r :: rs)
    | .opening =>
      match ws, assignments, rs with
      | [w], [], [] =>
        expect steps .closing
        match w.plain? with
        | some name =>
          if Word.isName name.toList ∧ !specialNames.contains name then
            let line := (← get).line
            return .define line name (← one steps true)
          else fail "Bad function name"
        | none => fail "Bad function name"
      | _, _, _ =>
        Token.putBack t
        return done
    | t =>
      Token.putBack t
      return done

end

def stepsFor (length : Nat) : Nat := 16 * length + 64

/-- Takes the next line of commands, if there is one. -/
def next? (steps : Nat) : Reading (Option Command) := do
  match ← list steps .line .nothing with
  | .nothing =>
    match (← get).ahead with
    | some .finish => return none
    | _ => return some .nothing
  | c => return some c

end Grammar

end ProseLint.Shell
