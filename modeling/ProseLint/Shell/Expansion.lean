/-
What words stand for. Parts of a word become pieces of text, the pieces are split into fields, and a
field that is a pattern becomes the names of the files it matches. A command whose output is a part
of a word is run by what is given for that.
-/
import ProseLint.Shell.Arithmetic
import ProseLint.Shell.State
import ProseLint.Shell.Wildcard

namespace ProseLint.Shell

open Run

/-- What a part of a word has become: text that stays in one field, text that is split, or the border
of two fields. -/
inductive Piece where
  | fixed (quoted : Bool) (cs : Bytes)
  | loose (cs : Bytes)
  | border

namespace Piece

/-- Marks where one of several parameters ends in text that is split. -/
def gap : Char := '\x00'

def textOf : List Piece → Bytes
  | [] => []
  | [fixed _ cs] | [loose cs] => cs
  | fixed _ cs :: ps | loose cs :: ps => cs ++ textOf ps
  | border :: ps => textOf ps

def size : Piece → Nat
  | fixed _ cs | loose cs => cs.length
  | border => 0

def pattern (ps : List Piece) : Wildcard.Marked :=
  ps.flatMap fun p => match p with
    | fixed quoted cs => cs.map (quoted, ·)
    | loose cs => cs.map (false, ·)
    | border => []

/-- What is written in the operand of a parameter is split like its value. -/
def ofOperand : Piece → Piece
  | fixed false cs => loose cs
  | p => p

/-- The directory of a user, the one whose shell this is if none is named. -/
def homeOf (own : Option Bytes) (user : Bytes) : Option Bytes :=
  if user.isEmpty then own else if user = "root".toList then some "/root".toList else none

/-- The directory that a text with a leading tilde stands for, up to a slash, and the rest of it. The
name of a user has to be written out, so nothing else may go on behind the text. -/
def tilde? (own : Option Bytes) (isLast : Bool) : Bytes → Option (Bytes × Bytes)
  | '~' :: cs =>
    let (user, behind) := (cs.takeWhile (· ≠ '/'), cs.dropWhile (· ≠ '/'))
    if behind.isEmpty ∧ !isLast then none else (homeOf own user).map (·, behind)
  | _ => none

def withTilde (own : Option Bytes) (ps : List Piece) : List Piece :=
  match ps with
  | fixed false cs :: rest =>
    match tilde? own rest.isEmpty cs with
    | some (home, behind) => fixed true home :: fixed false behind :: rest
    | none => ps
  | _ => ps

def splitColons : Bytes → List Bytes
  | [] => [[]]
  | c :: cs =>
    match splitColons cs with
    | [] => [[c]]
    | p :: ps => if c = ':' then [] :: p :: ps else (c :: p) :: ps

/-- The pieces of a value of a variable, with directories in place of tildes at its start and behind
colons. -/
def withTildes (own : Option Bytes) : (atStart : Bool) → List Piece → List Piece
  | _, [] => []
  | atStart, fixed false cs :: ps =>
    let stretches := splitColons cs
    let opened := stretches.mapIdx fun i cs =>
      if i = 0 ∧ !atStart then cs
      else
        match tilde? own (i + 1 < stretches.length || ps.isEmpty) cs with
        | some (home, behind) => home ++ behind
        | none => cs
    fixed false ([':'].intercalate opened) :: withTildes own false ps
  | _, p :: ps => p :: withTildes own false ps

end Piece

abbrev Field := List (Bool × Bytes)

namespace Field

/-- A field that grows, the last stretch first; `none` has not begun. -/
abbrev Growing := Option Field

def Growing.add (g : Growing) (quoted : Bool) (cs : Bytes) : Growing := some ((quoted, cs) :: g.getD [])

def Growing.done (g : Growing) : Field := (g.getD []).reverse

/-- Whether a separator only separates what is there: blanks do, others also make empty fields. -/
def isSoft (c : Char) : Bool := c = Piece.gap || c = ' ' || c = '\t' || c = '\n'

/-- What is left behind a separator and those that go with it: blanks, and one other after blanks. -/
def skipSeparators (isSeparator : Char → Bool) : (soft : Bool) → Bytes → Bytes
  | _, [] => []
  | soft, c :: cs =>
    if !isSeparator c then c :: cs
    else if isSoft c then skipSeparators isSeparator soft cs
    else if soft then skipSeparators isSeparator false cs
    else c :: cs

/-- Splits a text; the first field may have begun and the last one may go on. -/
def splitLoose (isSeparator : Char → Bool) :
    (steps : Nat) → Growing → Bytes → List Field × Growing
  | 0, g, _ => ([], g)
  | _ + 1, g, [] => ([], g)
  | steps + 1, g, c :: cs =>
    if isSeparator c then
      if isSoft c ∧ g.isNone then splitLoose isSeparator steps none cs
      else
        let (more, last) :=
          splitLoose isSeparator steps none (skipSeparators isSeparator (isSoft c) cs)
        (g.done :: more, last)
    else
      let text := (c :: cs).takeWhile (!isSeparator ·)
      splitLoose isSeparator steps (g.add false text) ((c :: cs).dropWhile (!isSeparator ·))

def ofPieces (isSeparator : Char → Bool) : Growing → List Piece → List Field
  | g, [] => g.toList.map (·.reverse)
  | g, .fixed quoted cs :: ps =>
    if cs.isEmpty ∧ !quoted then ofPieces isSeparator g ps
    else ofPieces isSeparator (g.add quoted cs) ps
  | g, .border :: ps => g.done :: ofPieces isSeparator none ps
  | g, .loose cs :: ps =>
    let (fields, last) := splitLoose isSeparator (cs.length + 1) g cs
    fields ++ ofPieces isSeparator last ps

def text : Field → Bytes
  | [] => []
  | [(_, cs)] => cs
  | (_, cs) :: f => cs ++ text f

def pattern (f : Field) : Wildcard.Marked := f.flatMap fun (quoted, cs) => cs.map (quoted, ·)

end Field

namespace Expansion

def splitSlash : Wildcard.Marked → List Wildcard.Marked
  | [] => [[]]
  | (quoted, c) :: p =>
    match splitSlash p with
    | [] => [[(quoted, c)]]
    | first :: rest =>
      if c = '/' then [] :: first :: rest else ((quoted, c) :: first) :: rest

/-- What a pattern says when it is no pattern. A backslash that is not quoted stays. -/
def letters (p : Wildcard.Marked) : Bytes := p.map (·.2)

/-- The paths that begin as `path` does and go on as the components of a pattern say. -/
def matching (fs : Files) (directory : List String) :
    (path : Bytes) → List Wildcard.Marked → List Bytes
  | path, [] => [path]
  | path, p :: ps =>
    let isLast := ps.isEmpty
    let after (name : Bytes) : Bytes := if isLast then path ++ name else path ++ name ++ ['/']
    if Wildcard.isWild p then
      let base := if path.isEmpty then ['.'] else path
      match fs.locateFrom directory (textOf base) with
      | .error _ => []
      | .ok place =>
        if (fs.contents? place).isSome then []
        else
          let wild := Wildcard.ofMarked p
          let hidden := p.head?.any (·.2 = '.')
          let names := (if hidden then [['.'], ['.', '.']] else []) ++
            (fs.entryNames place).map bytesOf
          (names.filter fun name =>
            (hidden || name.head? ≠ some '.') && Wildcard.isMatch wild name).flatMap fun name =>
              matching fs directory (after name) ps
    else
      let next := after (letters p)
      if isLast then
        match fs.locateFrom directory (textOf next) with
        | .ok _ => [next]
        | .error _ => []
      else matching fs directory next ps

def comesBefore (a b : Bytes) : Bool :=
  !(List.lex (b.map Char.toNat) (a.map Char.toNat) fun m n => decide (m < n))

/-- A field, or the files that it matches if there are some. -/
def withFiles (f : Field) : Run (List Bytes) := do
  let isWild := f.any fun (quoted, cs) => !quoted && cs.any fun c => c = '*' || c = '?' || c = '['
  if !isWild ∨ (← isOn 'f') then return [f.text]
  else
    let s ← get
    match matching s.world.files s.shell.directory [] (splitSlash f.pattern) with
    | [] => return [f.text]
    | paths => return paths.mergeSort comesBefore

/-- The value of a parameter: one text, or those of all arguments. -/
inductive Value where
  | one (cs : Bytes)
  | all (args : List Bytes)

/-- The letters of the options that are on, in their order. -/
def optionLetters (options : List Char) : Bytes := "pubaCEVvxsnmiIfe".toList.filter options.contains

def value? (name : String) : Run (Option Value) := do
  let s ← shell
  match name with
  | "@" | "*" => return some (.all s.arguments)
  | "#" => return some (.one (decimal s.arguments.length))
  | "?" => return some (.one (decimal s.status))
  | "$" => return some (.one (decimal s.number))
  | "!" => return s.jobs.head?.map fun j => .one (decimal j.number)
  | "-" => return some (.one (optionLetters s.options))
  | _ =>
    if name.toList.all Text.isDigit then
      match Text.natOfDigits 10 name.toList with
      | 0 => return some (.one s.name)
      | n + 1 => return (s.arguments[n]?).map .one
    else return (← Run.value? name).map .one

/-- What stands between arguments that are put together: the first separator. -/
def joint : Run Bytes := do return (← separators).take 1

def Value.text (joint : Bytes) : Value → Bytes
  | .one cs => cs
  | .all args => joint.intercalate args

/-- The pieces of a value, in a word that is split into fields or not. -/
def Value.pieces (joint : Bytes) (quoted splits : Bool) (name : String) (v : Value) : List Piece :=
  match v with
  | .one cs => [if quoted then .fixed true cs else .loose cs]
  | .all args =>
    if quoted ∧ splits ∧ name = "@" then (args.map (.fixed true)).intersperse .border
    else if splits ∧ !quoted then [.loose ([Piece.gap].intercalate args)]
    else [.fixed quoted (joint.intercalate args)]

def failFor {α : Type} (name : String) (complaint : Bytes) : Run α :=
  fail (bytesOf name ++ ": ".toList ++ complaint)

def required (name : String) (v : Option Value) : Run Value := do
  match v with
  | some v => return v
  | none =>
    if (← isOn 'u') then failFor name "parameter not set".toList
    else return .one []

mutual

def pieces (evaluate : Command → Run Bytes) (splits : Bool) : List Part → Run (List Piece)
  | [] => return []
  | p :: ps => do
    let first ← piece evaluate splits p
    return first ++ (← pieces evaluate splits ps)

def piece (evaluate : Command → Run Bytes) (splits : Bool) : Part → Run (List Piece)
  | .text quoted cs => return [.fixed quoted cs]
  | .malformed => fail "Bad substitution".toList
  | .output quoted command => do
    let cs ← evaluate command
    return [if quoted then .fixed true cs else .loose cs]
  | .arithmetic quoted expression => do
    let cs := Piece.textOf (← pieces evaluate false expression)
    let bindings := (← shell).bindings
    let valueOf (name : String) : Bytes := (bindings[name]?.bind (·.value)).getD []
    match Arithmetic.eval valueOf cs with
    | .ok (n, assigned) =>
      assigned.forM fun (name, n) => Run.assign name (toString n).toList
      let shown := (toString n).toList
      return [if quoted then .fixed true shown else .loose shown]
    | .error (.unreadable complaint) =>
      fail ("arithmetic expression: ".toList ++ complaint.toList ++ ": \"".toList ++ cs ++ ['"'])
    | .error (.badNumber written) => fail ("Illegal number: ".toList ++ written)
  | .parameter quoted name usage orEmpty operand => do
    let v ← value? name
    let joint ← joint
    let home ← Run.value? "HOME"
    let opened (ps : List Piece) : List Piece := if quoted then ps else Piece.withTilde home ps
    let there := v.filter fun v => !(orEmpty && (v.text ['\x00']).isEmpty)
    let shown (v : Value) : List Piece := v.pieces joint quoted splits name
    match usage with
    | .plain => return shown (← required name v)
    | .length =>
      let v ← required name v
      let digits := decimal (v.text (if joint.isEmpty then [] else [' '])).length
      return [if quoted then .fixed true digits else .loose digits]
    | .otherwise =>
      match there with
      | some v => return shown v
      | none => return (opened (← pieces evaluate splits operand)).map Piece.ofOperand
    | .instead =>
      if there.isSome then return (opened (← pieces evaluate splits operand)).map Piece.ofOperand
      else return []
    | .assigned =>
      match there with
      | some v => return shown v
      | none =>
        let cs := Piece.textOf (opened (← pieces evaluate false operand))
        if !Word.isName name.toList then failFor name "bad variable name".toList
        else
          Run.assign name cs
          return shown (.one cs)
    | .required =>
      match there with
      | some v => return shown v
      | none =>
        if operand.isEmpty then
          failFor name
            ("parameter not set".toList ++ if orEmpty then " or null".toList else [])
        else failFor name (Piece.textOf (opened (← pieces evaluate false operand)))
    | .cut atEnd longest =>
      let v ← required name v
      let p := Piece.pattern (opened (← pieces evaluate false operand))
      let w := Wildcard.ofMarked p
      chargeBytes ((v.text []).length + 32 * p.length)
      match shown v, v with
      | [.fixed quoted cs], _ => return [.fixed quoted (Wildcard.cut atEnd longest w cs)]
      | _, .one cs => return [.loose (Wildcard.cut atEnd longest w cs)]
      | _, .all args => return shown (.all (Wildcard.cutAll atEnd longest w args))

end

/-- The pieces of a word, with a directory in place of a leading tilde. -/
def tilded (evaluate : Command → Run Bytes) (splits : Bool) (w : Word) : Run (List Piece) := do
  let ps ← pieces evaluate splits w
  return Piece.withTilde (← Run.value? "HOME") ps

def text (evaluate : Command → Run Bytes) (w : Word) : Run Bytes := do
  return Piece.textOf (← tilded evaluate false w)

def assigned (evaluate : Command → Run Bytes) (w : Word) : Run Bytes := do
  let ps ← pieces evaluate false w
  return Piece.textOf (Piece.withTildes (← Run.value? "HOME") true ps)

def pattern (evaluate : Command → Run Bytes) (w : Word) : Run Wildcard.Marked := do
  return Piece.pattern (← tilded evaluate false w)

def fields (evaluate : Command → Run Bytes) (w : Word) : Run (List Bytes) := do
  match w with
  | [.text _ cs] =>
    if !cs.any fun c => c = '*' || c = '?' || c = '[' || c = '~' then return [cs]
    else split w
  | w => split w
where
  split (w : Word) : Run (List Bytes) := do
    let ps ← tilded evaluate true w
    chargeBytes ((ps.map Piece.size).foldr (· + ·) 0)
    let ifs ← separators
    let fs := Field.ofPieces (fun c => c = Piece.gap || ifs.contains c) none ps
    chargeBytes (128 * fs.length)
    return (← fs.mapM withFiles).flatten

end Expansion

end ProseLint.Shell
