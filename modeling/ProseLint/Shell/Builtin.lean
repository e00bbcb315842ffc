/-
Commands of the shell itself that run no other command.
-/
import ProseLint.Shell.Condition
import ProseLint.Shell.Expansion
import ProseLint.Shell.Grammar
import ProseLint.Shell.Mode
import ProseLint.Shell.Printf
import ProseLint.Shell.Program
import ProseLint.Shell.Signal

namespace ProseLint.Shell.Builtin

open Run

def number (cs : Bytes) : Run Nat :=
  if cs.isEmpty ∨ !cs.all Text.isDigit then fail ("Illegal number: ".toList ++ cs)
  else return Text.natOfDigits 10 cs

def quoted (cs : Bytes) : Bytes :=
  let rec pieces : (steps : Nat) → Bytes → Bytes
    | 0, _ => []
    | steps + 1, cs =>
      let plain := cs.takeWhile (· ≠ '\'')
      let rest := cs.dropWhile (· ≠ '\'')
      let quotes := rest.takeWhile (· = '\'')
      let rest := rest.dropWhile (· = '\'')
      let first := '\'' :: plain ++ ['\'']
      if quotes.isEmpty then first
      else
        let both := first ++ '"' :: quotes ++ ['"']
        if rest.isEmpty then both else both ++ pieces steps rest
  pieces (cs.length + 1) cs

def put (name : String) (cs : Bytes) (status : Nat) : Run Nat := do
  if (← write 1 cs) || cs.isEmpty then return status
  else
    complain (name.toList ++ ": I/O error".toList)
    return 1

/-- The options of a command of the shell, each a letter that stands in `letters`, and its other
arguments. -/
def options (letters : String) : List Bytes → Run (List Char × List Bytes)
  | ['-', '-'] :: args => return ([], args)
  | ('-' :: c :: cs) :: args => do
    match (c :: cs).find? (!letters.contains ·) with
    | some bad => fail ("Illegal option -".toList ++ [bad])
    | none =>
      let (more, args) ← options letters args
      return (c :: cs ++ more, args)
  | args => return ([], args)

/-! ## Variables -/

/-- Variables and what is written about them, in the order of their names. -/
def listed (keep : Variable → Bool) (lead : String) : Run Bytes := do
  let vs := ((← shell).bindings.toList.filter (keep ·.2)).mergeSort fun a b => a.1 ≤ b.1
  return vs.flatMap fun (name, v) =>
    match v.value with
    | some value => lead.toList ++ bytesOf name ++ '=' :: quoted value ++ ['\n']
    | none => if lead.isEmpty then [] else lead.toList ++ bytesOf name ++ ['\n']

def nameAndValue (arg : Bytes) : Bytes × Option Bytes :=
  match arg.dropWhile (· ≠ '=') with
  | _ :: value => (arg.takeWhile (· ≠ '='), some value)
  | [] => (arg, none)

def nameOf (cs : Bytes) : Run String :=
  if Word.isName cs then return String.ofList cs
  else fail (cs ++ ": bad variable name".toList)

def mark (change : Variable → Variable) (keep : Variable → Bool) (lead : String)
    (args : List Bytes) : Run Nat := do
  let (letters, args) ← options "p" args
  if letters.contains 'p' ∨ args.isEmpty then
    let cs ← listed keep (lead ++ " ")
    put lead cs 0
  else
    for arg in args do
      let (name, value) := nameAndValue arg
      let name ← nameOf name
      match value with
      | some value => assign name value
      | none => pure ()
      let v := (← known? name).getD {}
      changeShell fun s => { s with bindings := s.bindings.insert name (change v) }
    return 0

def exportVariables : List Bytes → Run Nat :=
  mark ({ · with exported := true }) (·.exported) "export"

def readonly : List Bytes → Run Nat :=
  mark ({ · with readOnly := true }) (·.readOnly) "readonly"

def localVariables (args : List Bytes) : Run Nat := do
  match (← shell).hidden with
  | [] => fail "not in a function".toList
  | frame :: frames =>
    let rec hide (frame : List (String × Option Variable)) :
        List Bytes → Run (List (String × Option Variable))
      | [] => return frame
      | arg :: args => do
        let (name, value) := nameAndValue arg
        if name = ['-'] then hide frame args
        else
          let name ← nameOf name
          let old ← known? name
          let frame := if frame.any (·.1 = name) then frame else (name, old) :: frame
          changeShell fun s => { s with hidden := frame :: frames }
          match value with
          | some value => assign name value
          | none => pure ()
          hide frame args
    let _ ← hide frame args
    return 0

def unset (args : List Bytes) : Run Nat := do
  let (letters, names) ← options "fv" args
  for name in names do
    if letters.getLast? = some 'f' then
      changeShell fun s => { s with functions := s.functions.erase (textOf name) }
    else
      let name ← nameOf name
      match ← known? name with
      | some v =>
        if v.readOnly then fail (bytesOf name ++ ": is read only".toList)
        else restore name none
      | none => pure ()
  return 0

def optionWords : List (String × Char) :=
  [("errexit", 'e'), ("noglob", 'f'), ("ignoreeof", 'I'), ("interactive", 'i'), ("monitor", 'm'),
    ("noexec", 'n'), ("stdin", 's'), ("xtrace", 'x'), ("verbose", 'v'), ("vi", 'V'), ("emacs", 'E'),
    ("noclobber", 'C'), ("allexport", 'a'), ("notify", 'b'), ("nounset", 'u'), ("privileged", 'p'),
    ("nolog", '1'), ("debug", '2')]

def turn (on : Bool) (option : Char) : Run Unit := changeShell fun s =>
  { s with options :=
    if on then (if s.options.contains option then s.options else option :: s.options)
    else s.options.filter (· ≠ option) }

/-- Which options are on, as a table or as commands. -/
def optionTable (asCommands : Bool) : Run Bytes := do
  let on := (← shell).options
  let line (w : String × Char) : Bytes :=
    if asCommands then
      "set ".toList ++ (if on.contains w.2 then '-' else '+') :: "o ".toList ++ w.1.toList ++ ['\n']
    else
      w.1.toList ++ List.replicate (16 - w.1.length) ' ' ++
        (if on.contains w.2 then "on\n" else "off\n").toList
  return (if asCommands then [] else "Current option settings\n".toList) ++ optionWords.flatMap line

def turnAll (on : Bool) : Bytes → List Bytes → Run (List Bytes)
  | [], args => return args
  | 'o' :: cs, name :: args => do
    match optionWords.lookup (textOf name) with
    | some c =>
      turn on c
      turnAll on cs args
    | none => fail ("Illegal option ".toList ++ (if on then '-' else '+') :: "o ".toList ++ name)
  | 'o' :: cs, [] => do
    let _ ← put "set" (← optionTable (!on)) 0
    turnAll on cs []
  | c :: cs, args => do
    if optionWords.any (·.2 = c) ∧ !Text.isDigit c then
      turn on c
      turnAll on cs args
    else fail ("Illegal option ".toList ++ [if on then '-' else '+', c])

/-- Turns options on and off, and answers what follows them. Arguments that are no options, or two
dashes, are new arguments of the shell. -/
def settings : (steps : Nat) → List Bytes → Run (Bool × List Bytes)
  | 0, args => return (false, args)
  | steps + 1, args => do
    match args with
    | ['-', '-'] :: args => return (true, args)
    | ['-'] :: args =>
      turn false 'x'
      turn false 'v'
      return (!args.isEmpty, args)
    | ('-' :: cs) :: args => settings steps (← turnAll true cs args)
    | ('+' :: cs) :: args => settings steps (← turnAll false cs args)
    | args => return (!args.isEmpty, args)

def set (args : List Bytes) : Run Nat := do
  if args.isEmpty then
    let cs ← listed (·.value.isSome) ""
    put "set" cs 0
  else
    let (given, rest) ← settings args.length args
    if given then changeShell ({ · with arguments := rest, optionOffset := 0 })
    return 0

def shift (args : List Bytes) : Run Nat := do
  let n ← match args with
    | cs :: _ => number cs
    | [] => pure 1
  if (← shell).arguments.length < n then fail "can't shift that many".toList
  else
    changeShell fun s => { s with arguments := s.arguments.drop n, optionOffset := 0 }
    return 0

/-! ## Reading -/

/-- A line of input, with whether each of its bytes is quoted, and whether its end was there. -/
def inputLine (raw : Bool) : (steps : Nat) → Bytes → Wildcard.Marked × Bool × Bytes
  | 0, cs => ([], false, cs)
  | _ + 1, [] => ([], false, [])
  | _ + 1, '\n' :: cs => ([], true, cs)
  | steps + 1, '\\' :: cs =>
    if raw then
      let (line, ended, rest) := inputLine raw steps cs
      ((false, '\\') :: line, ended, rest)
    else
      match cs with
      | '\n' :: cs => inputLine raw steps cs
      | c :: cs =>
        let (line, ended, rest) := inputLine raw steps cs
        ((true, c) :: line, ended, rest)
      | [] => ([], false, [])
  | steps + 1, c :: cs =>
    let (line, ended, rest) := inputLine raw steps cs
    ((false, c) :: line, ended, rest)

/-- Where the last field of a line is cut, looking on from a position: before the blanks at its end,
with one other separator among them if the field is a single one. -/
def cutOf (isSeparator : Char → Bool) :
    (position : Nat) → (cut : Option Nat) → (afterBlank : Bool) → Wildcard.Marked → Option Nat
  | _, cut, _, [] => cut
  | n, cut, _, (true, _) :: line => cutOf isSeparator (n + 1) cut false line
  | n, cut, afterBlank, (false, c) :: line =>
    if isSeparator c ∧ Field.isSoft c then
      cutOf isSeparator (n + 1) (cut.or (some n)) afterBlank line
    else if isSeparator c ∧ afterBlank then cutOf isSeparator (n + 1) cut false line
    else cutOf isSeparator (n + 1) none false line

/-- The fields of a line for so many names; the last one takes all that is left. -/
def lineFields (isSeparator : Char → Bool) : (names : Nat) → Wildcard.Marked → List Bytes
  | 0, _ => []
  | n + 1, line =>
    let separates (m : Bool × Char) : Bool := !m.1 && isSeparator m.2
    let isBlank (m : Bool × Char) : Bool := separates m && Field.isSoft m.2
    let line := line.dropWhile isBlank
    let field := line.takeWhile (!separates ·)
    match line.dropWhile (!separates ·) with
    | [] => field.map (·.2) :: List.replicate n []
    | m :: behind =>
      if n = 0 then
        let start := field.length
        let cut := cutOf isSeparator (start + 1) (some start) (isBlank m) behind
        let kept : Wildcard.Marked := match cut with
          | some n => line.take n
          | none => line
        [kept.map (·.2)]
      else
        let rest := (m :: behind).dropWhile isBlank
        let rest := match rest with
          | m :: more => if separates m then more.dropWhile isBlank else rest
          | [] => []
        field.map (·.2) :: lineFields isSeparator n rest

def read (args : List Bytes) : Run Nat := do
  let (letters, names) ← options "p:r" args
  let (prompt, names) := if letters.contains 'p' then (names.take 1, names.drop 1) else ([], names)
  let _ := prompt
  if names.isEmpty then fail "arg count".toList
  else
    let names ← names.mapM nameOf
    let found := (← unread? 0).getD []
    let (line, ended, rest) := inputLine (letters.contains 'r') (found.length + 1) found
    setUnread 0 rest
    let ifs ← separators
    let fields := lineFields ifs.contains names.length (line.filter (·.2 ≠ '\x00'))
    for (name, value) in names.zip fields do
      assign name value
    return if ended then 0 else 1

/-! ## Places -/

/-- The path of a place. -/
def pathOf (place : List String) : Bytes :=
  if place.isEmpty then ['/'] else place.flatMap fun part => '/' :: bytesOf part

def cd (args : List Bytes) : Run Nat := do
  let (_, args) ← options "LP" args
  let home := (← value? "HOME").getD []
  let path ← match args with
    | [] => pure home
    | ['-'] :: _ => do pure ((← value? "OLDPWD").getD [])
    | path :: _ => pure path
  let shows := args.head? = some ['-']
  let path := if path.isEmpty then ['.'] else path
  match ← locate path with
  | .error _ => fail ("can't cd to ".toList ++ path)
  | .ok place =>
    if ← isFileAt place then fail ("can't cd to ".toList ++ path)
    else
      let old := (← value? "PWD").getD (pathOf (← shell).directory)
      changeShell ({ · with directory := place })
      assign "OLDPWD" old
      assign "PWD" (pathOf place)
      if shows then put "cd" (pathOf place ++ ['\n']) 0 else return 0

def pwd (args : List Bytes) : Run Nat := do
  let _ ← options "LP" args
  let place := (← shell).directory
  put "pwd" (pathOf place ++ ['\n']) 0

def knowledge : Run Condition.Knowledge := do
  let s ← get
  let place? (path : Bytes) : Option (List String) :=
    (s.world.files.locateFrom s.shell.directory (textOf path)).toOption
  let passes (letter : Char) (path : Bytes) : Bool :=
    match place? path with
    | none => false
    | some place =>
      let contents := s.world.files.contents? place
      let isDevice := place.head? = some "dev" && contents.isSome
      match letter with
      | 'e' | 'r' | 'w' | 'O' | 'G' => true
      | 'd' => contents.isNone
      | 'f' => contents.isSome && !isDevice
      | 'c' => isDevice
      | 's' => contents.isNone || contents.any (!·.isEmpty) || (Program.at? place).isSome
      | 'x' => contents.isNone || (Program.at? place).isSome
      | _ => false
  return ⟨passes, fun a b => (place? a).isSome && place? a == place? b⟩

/-- Whether a condition holds, which has to end in a bracket if it starts with one. -/
def test (inBrackets : Bool) (args : List Bytes) : Run Nat := do
  let k ← knowledge
  let judge (args : List Bytes) : Run Nat :=
    match Condition.eval k args with
    | .ok holds => return if holds then 0 else 1
    | .error complaint => fail complaint
  if inBrackets then
    if args.getLast? = some [']'] then judge args.dropLast else fail "missing ]".toList
  else judge args

/-! ## Showing -/

def printf (args : List Bytes) : Run Nat := do
  match ← options "" args with
  | (_, format :: args) =>
    match Printf.run format args with
    | none => throw .endless
    | some (shown, complaints, status) =>
      complaints.forM complain
      put "printf" shown status
  | _ => fail "usage: printf format [arg ...]".toList

/-- Where an alias stands among all of them. -/
def aliasRank (name : String) : Nat :=
  let cs := bytesOf name
  ((cs.headD '\x00').toNat * 16 + (cs.map Char.toNat).foldr (· + ·) 0) % 39

def aliases (args : List Bytes) : Run Nat := do
  let line (a : String × Bytes) : Bytes := bytesOf a.1 ++ '=' :: quoted a.2 ++ ['\n']
  if args.isEmpty then
    let all := (← shell).aliases.mergeSort fun a b => aliasRank a.1 ≤ aliasRank b.1
    put "alias" (all.flatMap line) 0
  else
    args.foldlM (fun status arg => do
      match nameAndValue arg with
      | (name, some value) =>
        let name := textOf name
        changeShell fun s =>
          { s with aliases :=
            if s.aliases.any (·.1 = name) then
              s.aliases.map fun a => if a.1 = name then (name, value) else a
            else s.aliases ++ [(name, value)] }
        return status
      | (name, none) =>
        match (← shell).aliases.lookup (textOf name) with
        | some value => put "alias" (line (textOf name, value)) status
        | none =>
          complainPlainly ("alias: ".toList ++ name ++ " not found".toList)
          return 1) 0

def unalias (args : List Bytes) : Run Nat := do
  let (letters, names) ← options "a" args
  if letters.contains 'a' then
    changeShell ({ · with aliases := [] })
    return 0
  else
    names.foldlM (fun status name => do
      let name := textOf name
      if (← shell).aliases.any (·.1 = name) then
        changeShell fun s => { s with aliases := s.aliases.filter (·.1 ≠ name) }
        return status
      else
        complainPlainly ("unalias: ".toList ++ bytesOf name ++ " not found".toList)
        return 1) 0

def umask (args : List Bytes) : Run Nat := do
  let mask := (← shell).mask
  match ← options "S" args with
  | (letters, []) =>
    put "umask" ((if letters.contains 'S' then Mode.shown (Mode.all - mask) else Mode.octal mask) ++
      ['\n']) 0
  | (_, cs :: _) =>
    let new ← if cs.head?.any Text.isDigit then
        if cs.all Escape.isOctal then pure (Text.natOfDigits 8 cs % (Mode.all + 1))
        else fail ("Illegal number: ".toList ++ cs)
      else
        match Mode.written? (Mode.all - mask) cs with
        | some permissions => pure (Mode.all - permissions)
        | none => fail ("Illegal mode: ".toList ++ cs)
    changeShell ({ · with mask := new })
    return 0

/-- What a shell and its programs may use: there are no limits to be told of. -/
def ulimit (args : List Bytes) : Run Nat := do
  let _ ← options "HSatfdscmlpnvwr" args
  put "ulimit" "unlimited\n".toList 0

/-! ## Signals and jobs -/

def trap (args : List Bytes) : Run Nat := do
  let (_, args) ← options "" args
  match args with
  | [] =>
    let all := (← shell).traps.mergeSort fun a b => a.1 ≤ b.1
    let lines := all.flatMap fun (signal, action) =>
      "trap -- ".toList ++ quoted action ++ ' ' :: (Signal.name signal).toList ++ ['\n']
    put "trap" lines 0
  | first :: rest =>
    let isSignal := !first.isEmpty && first.all Text.isDigit
    let (action, names) := if rest.isEmpty ∨ isSignal then (none, args) else (some first, rest)
    let action := action.filter (· ≠ ['-'])
    let rec all : List Bytes → Run Nat
      | [] => return 0
      | name :: names => do
        match Signal.ofText? name with
        | none =>
          complainPlainly ("trap: ".toList ++ name ++ ": bad trap".toList)
          return 1
        | some signal =>
          changeShell fun s =>
            let others := s.traps.filter (·.1 ≠ signal)
            { s with traps := match action with
              | some a => (signal, a) :: others
              | none => others }
          all names
    all names

def sendSelf (signal : Nat) : Run Unit := do
  let caught := ((← shell).traps.lookup signal).filter fun _ => Signal.name signal ≠ "KILL"
  match caught with
  | some _ => changeShell fun s => { s with pending := s.pending ++ [signal] }
  | none =>
    if signal = 0 ∨ Signal.isIgnored signal then return ()
    else if Signal.isStopping signal then throw .endless
    else throw (.killed signal)

/-- Ends a job by a signal: what it would have written later is not written. -/
def endJob (job : Job) (signal : Nat) : Run Unit := do
  let now := (← world).now
  if signal = 0 ∨ Signal.isIgnored signal ∨ job.ends ≤ now then return ()
  else
    changeWorld fun w =>
      { w with
        buffers := w.buffers.map fun chunks =>
          chunks.filter fun c => !(c.job = job.number && now < c.time)
        held := min w.held now }
    changeShell fun s =>
      { s with jobs := s.jobs.map fun j =>
        if j.number = job.number then ⟨j.number, 128 + signal, now⟩ else j }

def kill (args : List Bytes) : Run Nat := do
  let misuse : Run Nat := fail
    ("Usage: kill [-s sigspec | -signum | -sigspec] [pid | job]... or\n" ++
      "kill -l [exitstatus]").toList
  let send (signal : Nat) (targets : List Bytes) : Run Nat :=
    if targets.isEmpty then misuse
    else
      targets.foldlM (fun status target => do
        let s ← shell
        let n ← match target with
          | '%' :: cs =>
            let known := if cs.all Text.isDigit ∧ !cs.isEmpty then Text.natOfDigits 10 cs else 1
            if known = 0 ∨ s.jobs.length < known then fail ("No such job: ".toList ++ target)
            else pure 0
          | '-' :: cs => number cs
          | cs => number cs
        match s.jobs.find? (·.number = n) with
        | some job =>
          endJob job signal
          return status
        | none =>
          if n = s.number then
            sendSelf signal
            return status
          else
            complain "No such process\n".toList
            return 1) 0
  match args with
  | [] => misuse
  | ['-', 'l'] :: [] =>
    put "kill"
      ('0' :: '\n' :: (List.range' 1 64).flatMap fun n => (Signal.name n).toList ++ ['\n']) 0
  | ['-', 'l'] :: cs :: _ =>
    let n ← number cs
    let n := if 128 < n then n - 128 else n
    if n = 0 ∨ Signal.count ≤ n then fail ("invalid signal number or exit status: ".toList ++ cs)
    else put "kill" ((Signal.name n).toList ++ ['\n']) 0
  | ['-', 's'] :: name :: targets =>
    match Signal.ofText? name with
    | some signal => send signal targets
    | none => fail ("invalid signal number or name: ".toList ++ name)
  | ['-', '-'] :: targets => send 15 targets
  | ('-' :: name) :: targets =>
    match Signal.ofText? name with
    | some signal => send signal targets
    | none => fail ("Illegal option -".toList ++ name.take 1)
  | targets => send 15 targets

/-- The job that an argument of `wait` names. -/
def jobOf (cs : Bytes) : Run (Option Job) := do
  let jobs := (← shell).jobs
  match cs with
  | '%' :: _ =>
    match jobs with
    | job :: _ => return some job
    | [] => fail ("No such job: ".toList ++ cs)
  | cs =>
    let n ← number cs
    return jobs.find? (·.number = n)

def wait (args : List Bytes) : Run Nat := do
  let (_, args) ← options "" args
  let await (ends : Nat) : Run Unit := do
    if Nat.pow 2 62 ≤ ends then throw .endless else waitUntil ends
  match args with
  | [] =>
    await ((← shell).jobs.foldl (fun latest job => max latest job.ends) 0)
    return 0
  | args =>
    args.foldlM (fun _ cs => do
      match ← jobOf cs with
      | none => return 127
      | some job =>
        await job.ends
        if 128 < job.status ∧ job.status ≤ 192 then
          match Signal.epitaph? (job.status - 128) with
          | some said => complainPlainly said.toList
          | none => pure ()
        return job.status) 0

/-! ## Leaving -/

def leaveLoops (again : Bool) (args : List Bytes) : Run Nat := do
  let n ← match args with
    | cs :: _ => do
      let n ← number cs
      if n = 0 then fail ("Illegal number: ".toList ++ cs) else pure n
    | [] => pure 1
  let n := min n (← shell).loops
  if n = 0 then return 0
  else
    setStatus 0
    throw (.loops again n)

/-- Leaves the shell; what is done on a signal leaves it as the signal found it. -/
def exit (args : List Bytes) : Run Nat := do
  match args, (← shell).interrupted with
  | cs :: _, _ => setStatus ((← number cs) % 256)
  | [], some status => setStatus status
  | [], none => pure ()
  throw .shell

def returnFromCall (args : List Bytes) : Run Nat := do
  match args with
  | cs :: _ => setStatus (← number cs)
  | [] => pure ()
  throw .call

/-! ## Options of scripts -/

/-- What is left of the argument in which options are being taken, and the index of the next one. A
new argument is begun when nothing is left; there is none if it holds no options. -/
def currentOptions (args : List Bytes) (index offset : Nat) : Option Bytes × Nat :=
  let left := if index = 0 ∨ offset = 0 then [] else (args[index - 1]?.getD []).drop offset
  if !left.isEmpty then (some left, index)
  else
    match args[index]? with
    | some ['-', '-'] => (none, index + 1)
    | some ('-' :: c :: cs) => (some (c :: cs), index + 1)
    | _ => (none, index)

def getopts (args : List Bytes) : Run Nat := do
  match args with
  | letters :: name :: given =>
    let s ← shell
    let name ← nameOf name
    let args := if given.isEmpty then s.arguments else given
    let index := (((← value? "OPTIND").map (Text.natOfDigits 10 ·)).getD 1) - 1
    let silent := letters.head? = some ':'
    let finish (index : Nat) (left : Bytes) (shown : Char) (arg : Option Bytes) (status : Nat) :
        Run Nat := do
      match arg with
      | some cs => assign "OPTARG" cs
      | none => restore "OPTARG" none
      assign "OPTIND" (decimal (index + 1))
      assign name [shown]
      let offset := if left.isEmpty then 0 else (args[index - 1]?.getD []).length - left.length
      changeShell ({ · with optionOffset := offset })
      return status
    match currentOptions args index s.optionOffset with
    | (none, index) =>
      assign "OPTIND" (decimal (index + 1))
      assign name ['?']
      return 1
    | (some [], index) => finish index [] '?' none 1
    | (some (c :: left), index) =>
      match letters.dropWhile fun d => d ≠ c || d = ':' with
      | [] =>
        if silent then finish index left '?' (some [c]) 0
        else
          complainPlainly ("Illegal option -".toList ++ [c])
          finish index left '?' none 0
      | _ :: ':' :: _ =>
        if !left.isEmpty then finish index [] c (some left) 0
        else
          match args[index]? with
          | some arg => finish (index + 1) [] c (some arg) 0
          | none =>
            if silent then finish index [] ':' (some [c]) 0
            else
              complainPlainly ("No arg for -".toList ++ c :: " option".toList)
              finish index [] '?' none 0
      | _ => finish index left c (some []) 0
  | _ => fail "Usage: getopts optstring var [arg...]".toList

/-! ## All of them -/

/-- The commands of the shell itself that run no other command, by their names. -/
def named? (name : String) : Option (List Bytes → Run Nat) :=
  match name with
  | ":" | "true" => some fun _ => return 0
  | "false" => some fun _ => return 1
  | "[" => some (test true)
  | "alias" => some aliases
  | "bg" | "fg" => some fun _ => fail "No current job".toList
  | "break" => some (leaveLoops false)
  | "cd" | "chdir" => some cd
  | "continue" => some (leaveLoops true)
  | "echo" => some fun args => put "echo" (Escape.echo args) 0
  | "exit" => some exit
  | "export" => some exportVariables
  | "getopts" => some getopts
  | "jobs" => some fun _ => return 0
  | "kill" => some kill
  | "local" => some localVariables
  | "printf" => some printf
  | "pwd" => some pwd
  | "read" => some read
  | "readonly" => some readonly
  | "return" => some returnFromCall
  | "set" => some set
  | "shift" => some shift
  | "test" => some (test false)
  | "times" => some fun _ =>
    put "times" "0m0.000000s 0m0.000000s\n0m0.000000s 0m0.000000s\n".toList 0
  | "trap" => some trap
  | "ulimit" => some ulimit
  | "umask" => some umask
  | "unalias" => some unalias
  | "unset" => some unset
  | "wait" => some wait
  | _ => none

def names : List String :=
  specialNames ++ ["[", "alias", "bg", "cd", "chdir", "command", "echo", "false", "fg", "getopts",
    "hash", "jobs", "kill", "printf", "pwd", "read", "test", "true", "type", "ulimit", "umask",
    "unalias", "wait"]

/-- The commands of the shell itself whose arguments give variables their values. -/
def declaring : List String := ["export", "local", "readonly"]

end ProseLint.Shell.Builtin
