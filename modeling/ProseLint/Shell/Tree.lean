/-
What shell scripts are made of: words, redirections and commands. Scripts are read byte by byte, and
a byte is the character with its number.
-/
namespace ProseLint.Shell

abbrev Bytes := List Char

inductive Usage where
  | plain
  | length
  /-- another word stands in for a value that is missing -/
  | otherwise
  /-- as `otherwise`, and the word becomes the value -/
  | assigned
  /-- a word complains about a value that is missing -/
  | required
  /-- another word stands in for a value that is there -/
  | instead
  /-- without the part at an end that a pattern matches -/
  | cut (atEnd longest : Bool)
  deriving DecidableEq, Repr

/-- How a redirection opens a file. -/
inductive Opening where
  | read
  | write
  /-- as `write`, also over a file that is to be kept -/
  | overwrite
  | append
  | both
  deriving DecidableEq, Repr

mutual

/-- A part of a word. What is quoted is not split into fields and matches itself in patterns. -/
inductive Part where
  | text (quoted : Bool) (cs : Bytes)
  /-- a parameter; an empty value is as good as none if `orEmpty` -/
  | parameter (quoted : Bool) (name : String) (usage : Usage) (orEmpty : Bool) (operand : List Part)
  /-- what looks like a parameter and is none -/
  | malformed
  | arithmetic (quoted : Bool) (expression : List Part)
  /-- what a command prints -/
  | output (quoted : Bool) (command : Command)

/-- Where a stream goes to or comes from. -/
inductive Redirect where
  | file (stream : Nat) (opening : Opening) (path : List Part)
  /-- the same as another stream, or closed -/
  | copy (stream : Nat) (source : List Part)
  /-- a here-document -/
  | document (stream : Nat) (text : List Part)

inductive Command where
  | nothing
  | simple (line : Nat) (assignments : List (String × List Part)) (words : List (List Part))
      (redirects : List Redirect)
  | sequence (a b : Command)
  | both (a b : Command)
  | either (a b : Command)
  | negated (a : Command)
  | pipeline (stages : List Command)
  | background (a : Command)
  | choose (condition yes no : Command)
  /-- repeats `body` while the condition ends as `goal` says -/
  | loop (goal : Bool) (condition body : Command)
  | each (line : Nat) (name : String) (words : List (List Part)) (body : Command)
  | select (line : Nat) (word : List Part) (arms : List (List (List Part) × Command))
  /-- a group that runs in a shell of its own -/
  | apart (line : Nat) (body : Command) (redirects : List Redirect)
  | redirected (line : Nat) (a : Command) (redirects : List Redirect)
  | define (line : Nat) (name : String) (body : Command)

end

abbrev Word := List Part

namespace Word

def isNameStart (c : Char) : Bool := c.isAlpha || c = '_'
def isNameChar (c : Char) : Bool := c.isAlphanum || c = '_'
def isBlank (c : Char) : Bool := c = ' ' || c = '\t'

def isName (cs : Bytes) : Bool := cs.head?.any isNameStart && cs.all isNameChar

/-- A word with a part before it; neighbouring texts of one kind are one. -/
def add : Part → Word → Word
  | .text quoted cs, .text quoted' cs' :: w =>
    if quoted = quoted' ∧ cs' ≠ [] ∧ cs ≠ [] then .text quoted (cs ++ cs') :: w
    else .text quoted cs :: .text quoted' cs' :: w
  | p, w => p :: w

/-- The letters of a word in which nothing is quoted or stands for something. -/
def plain? : Word → Option String
  | [.text false cs] => some (String.ofList cs)
  | _ => none

/-- The name and the value of a word that gives a variable its value. -/
def assignment? : Word → Option (String × Word)
  | .text false cs :: w =>
    match cs.takeWhile (· ≠ '='), cs.dropWhile (· ≠ '=') with
    | name, _ :: value =>
      if isName name then
        some (String.ofList name, if value.isEmpty then w else .text false value :: w)
      else none
    | _, [] => none
  | _ => none

/-- The text of a word that is taken as it is written, and whether some of it is quoted. -/
def asWritten : Word → Bytes × Bool
  | [] => ([], false)
  | .text quoted cs :: w => let (more, hides) := asWritten w; (cs ++ more, quoted || hides)
  | _ :: w => asWritten w

end Word

end ProseLint.Shell
