/-
The programs of the system that scripts call: `cat`, `sleep`, `tr`, `wc` and those that do nothing.
A program reads and writes the streams of its caller and answers its status.
-/
import ProseLint.Shell.Real
import ProseLint.Shell.State
import ProseLint.Shell.Translation

namespace ProseLint.Shell.Program

open Run

def complainAs (program : String) (cs : Bytes) : Run Unit :=
  complainPlainly (program.toList ++ ": ".toList ++ cs)

def refuse (program : String) (cs : Bytes) : Run Nat := do
  complainAs program cs
  complainPlainly ("Try '" ++ program ++ " --help' for more information.").toList
  return 1

def complainOf (program : String) (path : Bytes) (fault : AccessFault) : Run Unit :=
  complainAs program (Quoted.name path ++ ": ".toList ++ fault.reason.toList)

def put (program : String) (cs : Bytes) (status : Nat) : Run Nat := do
  if ← write 1 cs then return status
  else if cs.isEmpty then return status
  else
    let why := match ← stream? 1 with
      | some _ => "write error: No space left on device"
      | none => "standard output: Bad file descriptor"
    complainAs program why.toList
    return 1

/-- What a stream gives, or why it gives nothing. -/
def input (stream : Nat) : Run (Except AccessFault Bytes) := do
  match ← stream? stream with
  | some o =>
    if o.device = .directory then return .error .isDirectory
    else
      match ← readAll? stream with
      | some cs => return .ok cs
      | none => return .error (.stated "Bad file descriptor")
  | none => return .error (.stated "Bad file descriptor")

def contents (path : Bytes) : Run (Except AccessFault Bytes) := do
  if path = ['-'] ∨ path = "/dev/stdin".toList ∨ path = "/dev/fd/0".toList then input 0
  else if path = "/dev/null".toList then return .ok []
  else if path = "/dev/zero".toList then throw .endless
  else
    match ← locate path with
    | .error fault => return .error fault
    | .ok place =>
      match (← world).files.contents? place with
      | some bytes => return .ok (bytesOfOctets bytes)
      | none => return .error .isDirectory

/-- Complains about an input that cannot be closed because it is not open. -/
def closeInput (program : String) (what : Bytes) (status : Nat) : Run Nat := do
  if (← stream? 0).isSome then return status
  else
    complainAs program (what ++ ": Bad file descriptor".toList)
    return 1

/-! ## `cat` -/

/-- How `cat` shows lines. -/
structure Display where
  number : Bool
  /-- numbers only lines that are not empty -/
  numberFull : Bool
  squeeze : Bool
  ends : Bool
  tabs : Bool
  visible : Bool

def visibleByte (c : Char) : Bytes :=
  let low (n : Nat) : Bytes :=
    if n < 32 then ['^', Char.ofNat (n + 64)] else if n = 127 then ['^', '?'] else [Char.ofNat n]
  if c.toNat < 128 then low c.toNat else 'M' :: '-' :: low (c.toNat - 128)

/-- What `cat` shows of a byte within a line. -/
def Display.byte (d : Display) (c : Char) : Bytes :=
  if c = '\t' then (if d.tabs then ['^', 'I'] else [c])
  else if d.visible then visibleByte c
  else [c]

/-- A line end that was taken along with what stands before it. -/
def Display.lineBody (d : Display) (line : Bytes) : Bytes :=
  let (line, returned) := match line.reverse with
    | '\r' :: rest => if d.ends then (rest.reverse, true) else (line, false)
    | _ => (line, false)
  line.flatMap d.byte ++ if returned then ['^', 'M'] else []

/-- What `cat` shows of a text, where so many lines have been numbered and the last lines were empty
or not. -/
def Display.lines (d : Display) : (steps : Nat) → (numbered empties : Nat) → Bytes → Bytes
  | 0, _, _, _ => []
  | _ + 1, _, _, [] => []
  | steps + 1, numbered, empties, cs =>
    let line := cs.takeWhile (· ≠ '\n')
    let rest := cs.dropWhile (· ≠ '\n')
    let isEmpty := line.isEmpty && !rest.isEmpty
    if isEmpty ∧ d.squeeze ∧ 1 ≤ empties then d.lines steps numbered (empties + 1) rest.tail
    else
      let counts := if d.numberFull then !isEmpty else d.number
      let numbered := if counts then numbered + 1 else numbered
      let digits := decimal numbered
      let label := if counts then List.replicate (6 - digits.length) ' ' ++ digits ++ ['\t'] else []
      let ending := if rest.isEmpty then [] else if d.ends then ['$', '\n'] else ['\n']
      let body := if rest.isEmpty then line.flatMap d.byte else d.lineBody line
      label ++ body ++ ending ++
        d.lines steps numbered (if isEmpty then empties + 1 else 0) rest.tail

def catOptions : OptionTable := {
  letters := ['b', 'e', 'n', 's', 't', 'u', 'v', 'A', 'E', 'T']
  words := [("number-nonblank", 'b'), ("number", 'n'), ("squeeze-blank", 's'),
    ("show-nonprinting", 'v'), ("show-ends", 'E'), ("show-tabs", 'T'), ("show-all", 'A'),
    ("help", 'h'), ("version", 'h')]
  anywhere := true }

/-- Whether a file that is to be read and is not empty is where the output goes. -/
def isOwnOutput (path : Bytes) : Run Bool := do
  match (← stream? 1).map Opened.device with
  | some (Device.file target) =>
    if path = ['-'] then
      match ← stream? 0 with
      | some o => return o.device = .file target && !o.unread.isEmpty
      | none => return false
    else
      match ← locate path with
      | .ok place => return place = target && ((← world).files.contents? place).any (!·.isEmpty)
      | .error _ => return false
  | _ => return false

def cat (args : List Bytes) : Run Nat := do
  match catOptions.parse args with
  | .error complaint => refuse "cat" complaint
  | .ok p =>
    let has (cs : List Char) : Bool := p.options.any cs.contains
    let d : Display := ⟨has ['n'], has ['b'], has ['s'], has ['e', 'E', 'A'], has ['t', 'T', 'A'],
      has ['e', 't', 'v', 'A']⟩
    if has ['h'] then return 0
    else if (← stream? 1).isNone then
      complainAs "cat" "standard output: Bad file descriptor".toList
      return 1
    else
      let paths := if p.operands.isEmpty then [['-']] else p.operands
      if d.number ∨ d.numberFull ∨ d.squeeze ∨ d.ends ∨ d.tabs ∨ d.visible then
        let found ← paths.mapM fun path => do
          match ← contents path with
          | .ok cs => return some cs
          | .error fault =>
            complainOf "cat" path fault
            return none
        let all := (found.filterMap id).flatten
        put "cat" (d.lines (all.length + 1) 0 0 all) (if found.any (·.isNone) then 1 else 0)
      else
        let status ← paths.foldlM (fun status path => do
          if ← isOwnOutput path then
            complainAs "cat" (Quoted.name path ++ ": input file is output file".toList)
            return 1
          match ← contents path with
          | .ok cs => put "cat" cs status
          | .error fault =>
            complainOf "cat" path fault
            return 1) 0
        if paths.contains ['-'] then closeInput "cat" "closing standard input".toList status
        else return status

/-! ## `wc` -/

structure Counts where
  lines : Nat := 0
  words : Nat := 0
  characters : Nat := 0
  bytes : Nat := 0
  longest : Nat := 0

def isSpace (c : Char) : Bool :=
  c = ' ' || ('\t' ≤ c && c ≤ '\r') || c = '\xa0' || c = '\u1680' ||
    ('\u2000' ≤ c && c ≤ '\u200a') || c = '\u202f' || c = '\u205f' || c = '\u2060' || c = '\u3000'

/-- Counts characters, where a word has begun or not and a line has grown so wide. What cannot be
shown neither begins nor ends a word. -/
def Counts.add (d : Unicode.Display) (n : Counts) (inWord : Bool) (width : Nat) :
    List (Option Char × Bytes) → Counts
  | [] => { n with longest := max n.longest width }
  | (none, own) :: rest => Counts.add d { n with bytes := n.bytes + own.length } inWord width rest
  | (some c, own) :: rest =>
    let n := { n with bytes := n.bytes + own.length, characters := n.characters + 1 }
    if c = '\n' then
      Counts.add d { n with lines := n.lines + 1, longest := max n.longest width } false 0 rest
    else if c = '\r' ∨ c = '\x0c' then
      Counts.add d { n with longest := max n.longest width } false 0 rest
    else if c = '\t' then n.add d false (width + 8 - width % 8) rest
    else if c = '\x0b' then n.add d false width rest
    else if !d.isShown c then n.add d inWord width rest
    else if isSpace c then n.add d false (width + d.width c) rest
    else
      let words := if inWord then n.words else n.words + 1
      Counts.add d { n with words } true (width + d.width c) rest

def Counts.of (cs : Bytes) : Counts :=
  Counts.add (Quoted.displayFor cs) {} false 0 (Quoted.letters 0 cs)

def Counts.plus (a b : Counts) : Counts :=
  ⟨a.lines + b.lines, a.words + b.words, a.characters + b.characters, a.bytes + b.bytes,
    max a.longest b.longest⟩

def wcOptions : OptionTable := {
  letters := ['c', 'l', 'L', 'm', 'w']
  words := [("bytes", 'c'), ("chars", 'm'), ("lines", 'l'), ("words", 'w'), ("debug", 'g'),
    ("files0-from", 'f'), ("max-line-length", 'L'), ("total", 't'), ("help", 'h'),
    ("version", 'h')]
  valued := ['f', 't']
  anywhere := true }

/-- When `wc` adds up what it counts. -/
inductive Totals where
  | auto
  | always
  | only
  | never
  deriving DecidableEq, Repr

def Totals.names : List (String × Totals) :=
  [("auto", .auto), ("always", .always), ("only", .only), ("never", .never)]

/-- What the start of a name stands for. -/
def Totals.ofText (cs : Bytes) : Except Bytes Totals :=
  let starting := names.filter fun n => cs.isPrefixOf n.1.toList
  match starting with
  | [(_, t)] => .ok t
  | found =>
    let why := if found.isEmpty then "invalid" else "ambiguous"
    .error (why.toList ++ " argument ".toList ++ Quoted.argument cs ++ " for ".toList ++
      Quoted.argument "--total".toList ++ "\nValid arguments are:".toList ++
      names.flatMap fun n => "\n  - ".toList ++ Quoted.argument n.1.toList)

/-- A line of counts, each as wide as `width`, and a name. -/
def countLine (asked : Char → Bool) (width : Nat) (n : Counts) (name : Option Bytes) : Bytes :=
  let columns := (if asked 'l' then [n.lines] else []) ++ (if asked 'w' then [n.words] else []) ++
    (if asked 'm' then [n.characters] else []) ++ (if asked 'c' then [n.bytes] else []) ++
    (if asked 'L' then [n.longest] else [])
  let shown := columns.map fun k =>
    let ds := decimal k
    List.replicate (width - ds.length) ' ' ++ ds
  [' '].intercalate (shown ++ name.toList) ++ ['\n']

/-- The bytes of a file whose size is known before it is read. -/
def knownSize (path : Option Bytes) : Run (Option Nat) := do
  let isInput := path.isNone || path = some ['-']
  if isInput then
    match ← stream? 0 with
    | some ⟨.file place, _, _, _, _, _, _⟩ =>
      return ((← world).files.contents? place).map (·.length)
    | some _ => return none
    | none => return some 0
  else
    match ← locate (path.getD []) with
    | .ok place => return ((← world).files.contents? place).map (·.length)
    | .error _ => return some 0

def countFile (shows : Bool) (asked : Char → Bool) (width : Nat) (path : Option Bytes) :
    Run (Bool × Counts) := do
  let line (n : Counts) : Run Unit := do
    if shows then
      let name := path.map fun p => if p.contains '\n' then Quoted.name p else p
      let _ ← write 1 (countLine asked width n name)
  if path = some [] then
    complainAs "wc" "invalid zero-length file name".toList
    return (true, {})
  else
    match ← contents (path.getD ['-']) with
    | .ok cs =>
      let n := Counts.of cs
      line n
      return (false, n)
    | .error fault =>
      let isInput := path.isNone || path = some ['-']
      complainOf "wc" (if isInput then "standard input".toList else path.getD []) fault
      if isInput ∨ fault = .isDirectory then line {}
      return (true, {})

def wc (args : List Bytes) : Run Nat := do
  match wcOptions.parse args with
  | .error complaint => refuse "wc" complaint
  | .ok p =>
    match (p.values.filter (·.1 = 't')).mapM fun v => Totals.ofText v.2 with
    | .error complaint => refuse "wc" complaint
    | .ok totals =>
      if p.options.contains 'h' then return 0
      else
        match p.values.lookup 'f', p.operands with
        | some _, first :: _ =>
          refuse "wc" ("extra operand ".toList ++ Quoted.argument first ++
            "\nfile operands cannot be combined with --files0-from".toList)
        | some list, [] =>
          match ← contents list with
          | .error fault =>
            complainAs "wc" ("cannot open ".toList ++ Quoted.always list ++ " for reading: ".toList ++
              fault.reason.toList)
            return 1
          | .ok cs => count p (totals.getLast?.getD .auto) (names (cs.length + 1) cs)
        | none, [] => count p (totals.getLast?.getD .auto) [none]
        | none, paths => count p (totals.getLast?.getD .auto) (paths.map some)
where
  /-- The names in a list, each of which a NUL ends. -/
  names : (steps : Nat) → Bytes → List (Option Bytes)
    | 0, _ => []
    | _ + 1, [] => []
    | steps + 1, cs =>
      some (cs.takeWhile (· ≠ '\x00')) :: names steps (cs.dropWhile (· ≠ '\x00')).tail
  count (p : OptionTable.Parsed) (totals : Totals) (paths : List (Option Bytes)) : Run Nat := do
    let asked (c : Char) : Bool :=
      if p.options.any "clmwL".toList.contains then p.options.contains c else "lwc".contains c
    let columns := ("lwmcL".toList.filter asked).length
    let sizes ← paths.mapM knownSize
    let size := (sizes.filterMap id).foldl (· + ·) 0
    let width :=
      if totals = .only ∨ paths.length = 1 ∧ columns = 1 then 1
      else max (decimal size).length (if sizes.any (·.isNone) then 7 else 1)
    if (← stream? 1).isNone then
      complainAs "wc" "write error: Bad file descriptor".toList
      return 1
    else
      let results ← paths.mapM (countFile (totals ≠ .only) asked width)
      let sum : Counts := results.foldl (fun a r => a.plus r.2) ({} : Counts)
      let adds : Bool := match totals with
        | .auto => 1 < paths.length
        | .never => false
        | _ => true
      if adds then
        let name := if totals = .only then none else some "total".toList
        let _ ← write 1 (countLine asked width sum name)
      let status := if results.any (·.1) then 1 else 0
      if paths.any fun p => p.isNone || p = some ['-'] then closeInput "wc" ['-'] status
      else return status

/-! ## `tr` -/

def tr (args : List Bytes) : Run Nat := do
  let hint (operand : Bytes) (why : String) : Run Nat :=
    refuse "tr" ("missing operand after ".toList ++ Quoted.argument operand ++ '\n' :: why.toList)
  match Translation.options.parse args with
  | .error complaint => refuse "tr" complaint
  | .ok p =>
    let has (cs : List Char) : Bool := p.options.any cs.contains
    let w : Translation.Way := ⟨has ['c', 'C'], has ['d'], has ['s'], has ['t']⟩
    let extra (operand : Bytes) (why : String) : Run Nat :=
      refuse "tr" ("extra operand ".toList ++ Quoted.argument operand ++ why.toList)
    if has ['h'] then return 0
    else
      match p.operands with
      | [] => refuse "tr" "missing operand".toList
      | _ :: _ :: c :: _ => extra c ""
      | [a] =>
        if w.delete ∧ w.squeeze then
          hint a "Two strings must be given when both deleting and squeezing repeats."
        else if !w.delete ∧ !w.squeeze then hint a "Two strings must be given when translating."
        else translate w [a]
      | [a, b] =>
        if w.delete ∧ !w.squeeze then
          extra b "\nOnly one string may be given when deleting without squeezing repeats."
        else translate w [a, b]
where
  /-- Reads sets one after another, up to the first that is none. -/
  read : List Bytes → Run (Option (List (List Translation.Item)))
    | [] => return some []
    | s :: sets => do
      for said in Translation.warnings (s.length + 1) s do
        complainAs "tr" said
      match Translation.items (s.length + 1) (Translation.unescaped (s.length + 1) s) with
      | .error complaint =>
        complainAs "tr" complaint
        return none
      | .ok is => return (← read sets).map (is :: ·)
  translate (w : Translation.Way) (sets : List Bytes) : Run Nat := do
    match ← read sets with
    | none => return 1
    | some sets =>
      match Translation.run w sets [] with
      | .error complaint =>
        complainAs "tr" complaint
        return 1
      | .ok _ =>
        match ← input 0 with
        | .error fault =>
          complainAs "tr" ("read error: ".toList ++ fault.reason.toList)
          return 1
        | .ok cs =>
          match Translation.run w sets cs with
          | .error _ => return 1
          | .ok cs => put "tr" cs 0

/-! ## `sleep` -/

/-- The microseconds of an interval; `none` in it is for ever. -/
def interval? (cs : Bytes) : Option (Option Nat) :=
  match Real.read? cs with
  | none => none
  | some (r, rest) =>
    let unit? : Option Nat := match rest with
      | [] | ['s'] => some 1
      | ['m'] => some 60
      | ['h'] => some 3600
      | ['d'] => some 86400
      | _ => none
    match r, unit? with
    | .finite false mantissa exponent, some unit =>
      let (a, b) := Real.quotient mantissa exponent
      some (some (a * unit * 1000000 / b))
    | .finite true 0 _, some _ => some (some 0)
    | .infinite false, some _ => some none
    | _, _ => none

def sleep (args : List Bytes) : Run Nat := do
  let table : OptionTable :=
    { letters := [], words := [("help", 'h'), ("version", 'h')], anywhere := true }
  match table.parse args with
  | .error complaint => refuse "sleep" complaint
  | .ok p =>
    if p.options.contains 'h' then return 0
    else if p.operands.isEmpty then refuse "sleep" "missing operand".toList
    else
      let intervals := p.operands.map interval?
      if intervals.any (·.isNone) then
        for (path, found) in p.operands.zip intervals do
          if found.isNone then
            complainAs "sleep" ("invalid time interval ".toList ++ Quoted.argument path)
        complainPlainly "Try 'sleep --help' for more information.".toList
        return 1
      else if intervals.any (· = some none) then throw .endless
      else
        let all := (intervals.filterMap id).filterMap id
        changeWorld fun w => { w with now := w.now + all.foldl (· + ·) 0 }
        return 0

/-- The programs of the system by their names. The shell itself is one that is run elsewhere. -/
def named? (name : String) : Option (List Bytes → Run Nat) :=
  match name with
  | "cat" => some cat
  | "sleep" => some sleep
  | "tr" => some tr
  | "wc" => some wc
  | "true" => some fun _ => return 0
  | "false" => some fun _ => return 1
  | "echo" => some fun args => put "echo" ([' '].intercalate args ++ ['\n']) 0
  | _ => none

def names : List String := ["cat", "dash", "echo", "false", "sh", "sleep", "tr", "true", "wc"]

/-- The directories of the system, the last ones those that programs are in. -/
def directories : List (List String) :=
  [["dev"], ["etc"], ["home"], ["proc"], ["root"], ["tmp"], ["usr", "lib"], ["usr", "local", "bin"],
    ["usr", "local", "sbin"], ["var", "tmp"], ["bin"], ["sbin"], ["usr", "bin"], ["usr", "sbin"],
    ["work"]]

def programDirectories : List (List String) := [["bin"], ["usr", "bin"]]

/-- The files of the system besides those that are given. -/
def withSystem (fs : Files) : Files :=
  let programs := programDirectories.flatMap fun d => names.map fun n => (d ++ [n], [])
  let others := [["dev", "full"], ["dev", "null"], ["dev", "stdin"], ["dev", "stdout"], ["dev", "stderr"],
    ["etc", "passwd"]].map (·, [])
  ⟨fs.files ++ programs ++ others, fs.directories ++ directories⟩

def at? (place : List String) : Option String :=
  match place.getLast? with
  | some name =>
    if programDirectories.contains place.dropLast ∧ names.contains name then some name else none
  | none => none

end ProseLint.Shell.Program
