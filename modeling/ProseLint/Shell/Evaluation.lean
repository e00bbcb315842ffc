/-
Running shell scripts. `run` takes a command through the state of a shell; a script is read and run
one line of commands after another. What does not end in so many steps counts as endless.
-/
import ProseLint.Shell.Builtin

namespace ProseLint.Shell

open Run

inductive Ending where
  | exited (status : Nat)
  | killed (signal : Nat)
  | endless
  deriving DecidableEq, Repr

namespace Evaluation

def maxSteps : Nat := 4000000

def maxDepth : Nat := 1000

/-- The most bytes that an argument of a program has, with the one that ends it. -/
def maxArgumentBytes : Nat := 131072

/-- The microseconds until a program, or a copy of the shell, starts. -/
def startTime : Nat := 400

/-- The microseconds that it takes a shell to have something started beside it. -/
def partingTime : Nat := 300

/-- What it counts to start another shell, to read in a script or to have something run beside the
shell, and to start a copy of it. -/
def shellWork : Nat := 100
def copyWork : Nat := 25

/-- What happens with a loop when one of its rounds is left. -/
inductive Round where
  | again
  | stop

def round (body : Run Unit) : Run Round :=
  tryCatch (do
    body
    return .again) fun
    | .loops again 1 => return if again then .again else .stop
    | .loops again (n + 2) => throw (.loops again (n + 1))
    | leaving => throw leaving

/-- Runs the rounds of a loop, inside of which one more loop can be left. -/
def inLoop (rounds : Run Unit) : Run Unit := do
  let level := (← shell).loops
  changeShell ({ · with loops := level + 1 })
  tryCatch rounds fun leaving => do
    changeShell ({ · with loops := level })
    throw leaving
  changeShell ({ · with loops := level })

/-- Runs something while other streams are connected. -/
def withStreams {α : Type} (body : Run α) : Run α := do
  let saved := (← shell).streams
  let a ← tryCatch body fun leaving => do
    changeShell ({ · with streams := saved })
    throw leaving
  changeShell ({ · with streams := saved })
  return a

/-- Runs something in a copy of the shell, whose changes are lost, and answers how that ends. -/
def apart (atEnd : Run Unit) (body : Run Unit) : Run Ending := do
  charge copyWork
  let outer ← shell
  changeWorld fun w => { w with now := w.now + startTime }
  changeShell fun s => { s with traps := s.traps.filter (·.2.isEmpty), jobs := [] }
  let whole : Run Ending := tryCatch (do
    tryCatch body fun
      | .loops _ _ | .call | .shell | .fault => return ()
      | leaving => throw leaving
    atEnd
    return .exited (← shell).status) fun
    | .killed signal => return .killed signal
    | .endless => return .endless
    | _ => return .exited (← shell).status
  let ending ← whole
  changeShell fun _ => outer
  return ending

def statusOf : Ending → Run Nat
  | .exited status => return status
  | .killed signal => return 128 + signal
  | .endless => throw .endless

/-- The status of a program that was waited for, with a word about a signal that ended it. -/
def mournedStatus (ending : Ending) : Run Nat := do
  match ending with
  | .killed signal =>
    match Signal.epitaph? signal with
    | some said => complainPlainly said.toList
    | none => pure ()
  | _ => pure ()
  statusOf ending

def openFault (creates : Bool) : AccessFault → String
  | .notFound | .notDirectory => if creates then "Directory nonexistent" else "No such file"
  | fault => fault.reason

def failToOpen {α : Type} (creates : Bool) (path : Bytes) (fault : AccessFault) : Run α :=
  let verb := if creates then "create " else "open "
  fail ("cannot ".toList ++ verb.toList ++ path ++ ": ".toList ++ (openFault creates fault).toList)

/-- The stream that a path of the system stands for. -/
def streamOf? (path : Bytes) : Option Nat :=
  match String.ofList path with
  | "/dev/stdin" | "/dev/fd/0" => some 0
  | "/dev/stdout" | "/dev/fd/1" => some 1
  | "/dev/stderr" | "/dev/fd/2" => some 2
  | _ => none

def newPlace (path : Bytes) : Run (Except AccessFault (List String)) := do
  let parts := Path.components (textOf path)
  match parts.getLast? with
  | none | some "" => return .error .isDirectory
  | some name =>
    if Files.maxNameBytes < name.utf8ByteSize then return .error .nameTooLong
    else
      let base := path.take (path.length - (bytesOf name).length)
      match ← locate (if base.isEmpty then ['.'] else base) with
      | .error fault => return .error fault
      | .ok place =>
        if ← isFileAt place then return .error .notDirectory else return .ok (place ++ [name])

def openFile (opening : Opening) (path : Bytes) : Run Nat := do
  let writes := opening ≠ .read
  let keeps := opening = .write && (← isOn 'C')
  match streamOf? path with
  | some n =>
    match (← shell).streams.lookup n with
    | some i => return i
    | none => failToOpen writes path .notFound
  | none =>
    if path = "/dev/null".toList then
      openDevice { device := .nothing, reads := !writes || opening = .both, writes }
    else if path = "/dev/full".toList ∧ writes then openDevice { device := .full, writes }
    else
      if writes then charge (← world).files.files.length
      let openAt (place : List String) : Run Nat := do
        let fs := (← world).files
        let old := (fs.contents? place).getD []
        match opening with
        | .read => openDevice { device := .file place, reads := true, unread := bytesOfOctets old }
        | .both =>
          openDevice
            { device := .file place, reads := true, writes := true, unread := bytesOfOctets old }
        | .append => openDevice { device := .file place, writes := true, appends := true }
        | _ =>
          changeWorld fun w => { w with files := w.files.write place [] }
          openDevice { device := .file place, writes := true }
      match ← locate path with
      | .ok place =>
        if ← isFileAt place then
          if keeps then failToOpen true path (.stated "File exists") else openAt place
        else if writes then failToOpen true path .isDirectory
        else openDevice { device := .directory, reads := true }
      | .error .notFound =>
        if writes then
          match ← newPlace path with
          | .ok place =>
            changeWorld fun w => { w with files := w.files.write place [] }
            openAt place
          | .error fault => failToOpen true path fault
        else failToOpen false path .notFound
      | .error fault => failToOpen writes path fault

/-- A redirection whose path or source is known. -/
inductive Connection where
  | file (stream : Nat) (opening : Opening) (path : Bytes)
  /-- the same as another stream; closed if there is none -/
  | copy (stream : Nat) (source : Option Nat)
  | document (stream : Nat) (text : Word)

/-- The stream that a redirection names as its source: a digit, or none for a dash. -/
def sourceOf (cs : Bytes) : Run (Option Nat) := do
  match cs with
  | ['-'] => return none
  | [d] => if Text.isDigit d then return some (d.toNat - '0'.toNat) else bad
  | _ => bad
where
  bad : Run (Option Nat) := do
    changeShell fun s => { s with line := s.reached }
    fail "Syntax error: Bad fd number".toList

def exported (bindings : Std.HashMap String Variable) : Std.HashMap String Variable :=
  bindings.filter fun _ v => v.exported && v.value.isSome

/-- The variables of a new shell that was started by another program from a directory: its own and
those it is given. -/
def startVariables (parent : Nat) (directory : List String) (given : Std.HashMap String Variable) :
    Std.HashMap String Variable :=
  let always := [("IFS", " \t\n".toList), ("OPTIND", ['1'])]
  let otherwise := [("PS1", "# ".toList), ("PS2", "> ".toList), ("PS4", "+ ".toList),
    ("PPID", decimal parent), ("PWD", Builtin.pathOf directory)]
  let withOwn := otherwise.foldl
    (fun vs (name, value) => vs.insertIfNew name { value := some value : Variable }) given
  always.foldl (fun vs (name, value) =>
    vs.insert name { (vs[name]?.getD {}) with value := some value }) withOwn

/-- How a command is found by its name. -/
inductive Found where
  | special
  | function (body : Command)
  | builtin
  | program (path : Bytes) (name : String)
  | denied
  | missing

def searchPath : Run (List Bytes) := do
  let path := (← value? "PATH").getD []
  let parts := (Path.splitSlash (path.map fun c => if c = ':' then '/' else if c = '/' then ':' else c))
  return parts.map fun p => p.map fun c => if c = ':' then '/' else c

/-- What a path leads to when it is called. -/
def programAt (path : Bytes) : Run Found := do
  match ← locate path with
  | .error .permissionDenied => return .denied
  | .error _ => return .missing
  | .ok place =>
    match Program.at? place with
    | some name => return .program path name
    | none => return .denied

def findProgram (name : Bytes) : Run Found := do
  let rec search (denied : Bool) : List Bytes → Run Found
    | [] => return if denied then .denied else .missing
    | d :: ds => do
      let path := if d.isEmpty then name else d ++ '/' :: name
      match ← programAt path with
      | .program path n => return .program path n
      | .denied => search true ds
      | _ => search denied ds
  search false (← searchPath)

def find (functions : Bool) (name : Bytes) : Run Found := do
  if name.contains '/' then programAt name
  else
    let s := String.ofList name
    if specialNames.contains s then return .special
    else
      let known := (← shell).functions
      match if functions then known[textOf name]? else none with
      | some body => return .function body
      | none => if Builtin.names.contains s then return .builtin else findProgram name

/-- What `type` and `command` say about a name, and whether it is known. -/
def describe (brief : Bool) (name : Bytes) : Run (Bytes × Bool) := do
  let say (short long : Bytes) : Run (Bytes × Bool) :=
    return ((if brief then short else name ++ long) ++ ['\n'], true)
  if Token.keywords.contains (String.ofList name) then say name " is a shell keyword".toList
  else
    match (← shell).aliases.lookup (textOf name) with
    | some value =>
      let quoted := name ++ '=' :: Builtin.quoted value
      say ("alias ".toList ++ quoted) (" is an alias for ".toList ++ value)
    | none =>
      match ← find true name with
      | .special => say name " is a special shell builtin".toList
      | .function _ => say name " is a shell function".toList
      | .builtin => say name " is a shell builtin".toList
      | .program path _ => say path (" is ".toList ++ path)
      | _ => return (if brief then [] else name ++ ": not found\n".toList, false)

def describeAll (program : String) (brief : Bool) (names : List Bytes) : Run Nat :=
  names.foldlM (fun status name => do
    let (cs, known) ← describe brief name
    if known then Builtin.put program cs status
    else
      if !cs.isEmpty then let _ ← write complaints cs
      return 127) 0

def nextLine (src : Source) : Run (Option (Command × Source)) := do
  let src := { src with aliases := (← shell).aliases }
  match (Grammar.next? (Grammar.stepsFor src.rest.length)).run src with
  | .ok (some c) left =>
    showLines src left
    changeShell ({ · with reached := left.line })
    return some (c, left)
  | .ok none left =>
    showLines src left
    changeShell ({ · with reached := left.line })
    return none
  | .error fault left =>
    showLines src left
    changeShell ({ · with line := fault.line })
    fail ("Syntax error: ".toList ++ fault.message.toList)
where
  /-- Shows the lines of a file that have been read, if that is asked for. -/
  showLines (src left : Source) : Run Unit := do
    if src.ofFile ∧ (← isOn 'v') then
      let (read, rest) := src.rest.splitAt (src.rest.length - left.rest.length)
      let last := if read.getLast? = some '\n' then [] else
        rest.takeWhile (· ≠ '\n') ++ (rest.dropWhile (· ≠ '\n')).take 1
      let _ ← write complaints (read ++ last)

/-- The text in which a command is traced. -/
def traced (assignments : List (String × Bytes)) (args : List Bytes) : Bytes :=
  [' '].intercalate ((assignments.map fun a => bytesOf a.1 ++ '=' :: a.2) ++ args)

/-- Runs a command of the shell itself in its own name; an error in one that is not special only
ends that command. -/
def asBuiltin (special : Bool) (name : Bytes) (body : Run Nat) : Run Unit := do
  let outer := (← shell).command
  changeShell ({ · with command := some name })
  let status ← tryCatch body fun leaving => do
    changeShell ({ · with command := outer })
    match leaving with
    | .fault => do if special then throw .fault else return (← shell).status
    | leaving => throw leaving
  changeShell ({ · with command := outer })
  setStatus status

def share (name : String) : Run Unit := do
  let v := (← known? name).getD {}
  changeShell fun s =>
    { s with bindings := s.bindings.insert name { v with exported := true } }

mutual

/-- Runs a command. A failure of what is `tested` does not end a shell that ends on failures. -/
def run : (steps : Nat) → (tested : Bool) → Command → Run Unit
  | 0, _, _ => throw .endless
  | steps + 1, tested, c => do
    let failing : Run Unit := do
      if !tested ∧ (← shell).status ≠ 0 ∧ (← isOn 'e') then throw .shell
    match c with
    | .nothing => return ()
    | .simple line assignments words redirects =>
      if ← isOn 'n' then return ()
      simple steps tested line assignments words redirects
      caught steps
      failing
    | .sequence a b =>
      run steps tested a
      run steps tested b
    | .both a b =>
      run steps true a
      if (← shell).status = 0 then run steps tested b
    | .either a b =>
      run steps true a
      if (← shell).status ≠ 0 then run steps tested b
    | .negated a =>
      run steps true a
      setStatus (if (← shell).status = 0 then 1 else 0)
    | .pipeline cs =>
      tick
      pipeline steps tested cs
      failing
    | .background a => background steps a
    | .choose condition yes no =>
      run steps true condition
      if (← shell).status = 0 then
        setStatus 0
        run steps tested yes
      else
        setStatus 0
        run steps tested no
    | .loop goal condition body =>
      inLoop (rounds steps tested goal condition body 0)
    | .each line name words body =>
      changeShell ({ · with line })
      let values ← fieldsOf steps words
      setStatus 0
      inLoop (each steps tested name values body)
    | .select line word arms =>
      changeShell ({ · with line })
      let cs ← Expansion.text (output steps) word
      select steps tested cs arms
    | .apart line body redirects =>
      changeShell ({ · with line })
      let ending ← apart (atExit steps) (do
        redirectAll steps redirects
        run steps tested body)
      setStatus (← mournedStatus ending)
      failing
    | .redirected line a redirects =>
      changeShell ({ · with line })
      withStreams (do
        let opened ← redirected steps redirects
        if opened then run steps tested a)
    | .define _ name body =>
      changeShell fun s => { s with functions := s.functions.insert name body }
      setStatus 0

def caught : (steps : Nat) → Run Unit
  | 0 => throw .endless
  | steps + 1 => do
    let s ← shell
    match s.pending with
    | [] => return ()
    | signal :: rest =>
      changeShell ({ · with pending := rest })
      match s.traps.lookup signal with
      | some action =>
        let status := s.interrupted.getD s.status
        let putBack : Run Unit := changeShell ({ · with interrupted := s.interrupted })
        changeShell ({ · with interrupted := some status })
        tryCatch (runText steps false { rest := action }) fun leaving => do
          putBack
          if leaving matches .loops _ _ then setStatus status
          throw leaving
        putBack
        setStatus status
      | none => return ()
      caught steps

def atExit : (steps : Nat) → Run Unit
  | 0 => throw .endless
  | steps + 1 => do
    let s ← shell
    match s.traps.lookup 0 with
    | some action =>
      let status := s.status
      changeShell fun s =>
        { s with traps := s.traps.filter (·.1 ≠ 0), loops := 0, interrupted := some status }
      tryCatch (do
        runText steps false { rest := action }
        setStatus status) fun
        | .shell => return ()
        | .fault | .call | .loops _ _ => setStatus status
        | leaving => throw leaving
    | none => return ()

/-- Runs a text line by line, and tests it if that is asked for. -/
def runText : (steps : Nat) → (tested : Bool) → Source → Run Unit
  | 0, _, _ => throw .endless
  | steps + 1, tested, src => do
    match ← nextLine src with
    | none => return ()
    | some (c, src) =>
      run steps tested c
      runText steps tested src

/-- What a command prints, without the line ends at its end. -/
def output : (steps : Nat) → Command → Run Bytes
  | 0, _ => throw .endless
  | steps + 1, c => do
    tick
    let (buffer, index) ← openBuffer
    let ending ← apart (atExit steps) (do
      connect 1 index
      run steps false c)
    let status ← mournedStatus ending
    changeShell ({ · with outputStatus := status })
    let chunks ← drain buffer
    waitUntil ((chunks.map (·.time)).foldl max 0)
    let cs := (collected chunks).filter (· ≠ '\x00')
    return (cs.reverse.dropWhile (· = '\n')).reverse

def fieldsOf : (steps : Nat) → List Word → Run (List Bytes)
  | 0, _ => throw .endless
  | _ + 1, [] => return []
  | steps + 1, w :: ws => do
    let first ← Expansion.fields (output steps) w
    return first ++ (← fieldsOf steps ws)

def declaredFields : (steps : Nat) → List Word → Run (List Bytes)
  | 0, _ => throw .endless
  | _ + 1, [] => return []
  | steps + 1, w :: ws => do
    let first ← match w.assignment? with
      | some (name, value) => do
        let cs ← Expansion.assigned (output steps) value
        pure [bytesOf name ++ '=' :: cs]
      | none => Expansion.fields (output steps) w
    return first ++ (← declaredFields steps ws)

/-- Gives variables their values, one after another, and answers these. -/
def assignAll : (steps : Nat) → List (String × Word) → Run (List (String × Bytes))
  | 0, _ => throw .endless
  | _ + 1, [] => return []
  | steps + 1, (name, w) :: rest => do
    let cs ← Expansion.assigned (output steps) w
    assign name cs
    return (name, cs) :: (← assignAll steps rest)

/-- Gives variables values for one command, and then puts them back. -/
def withVariables : (steps : Nat) → List (String × Word) → (List (String × Bytes) → Run Unit) →
    Run Unit
  | 0, _, _ => throw .endless
  | _ + 1, [], body => body []
  | steps + 1, (name, w) :: rest, body => do
    let cs ← Expansion.assigned (output steps) w
    let old ← known? name
    assign name cs
    share name
    tryCatch (withVariables steps rest fun values => body ((name, cs) :: values)) fun leaving => do
      restore name old
      throw leaving
    restore name old

/-- Writes a command that is traced to the stream for complaints that it was given. -/
def trace : (steps : Nat) → List (Nat × Nat) → List (String × Bytes) → List Bytes → Run Unit
  | 0, _, _, _ => throw .endless
  | steps + 1, streams, assignments, args => do
    if ← isOn 'x' then
      let lead ← tracePrefix steps
      withStreams (do
        changeShell ({ · with streams })
        complainPlainly (lead ++ traced assignments args))

/-- What stands before a command that is traced. -/
def tracePrefix : (steps : Nat) → Run Bytes
  | 0 => throw .endless
  | steps + 1 => do
    let cs := (← value? "PS4").getD []
    if !cs.any fun c => c = '$' || c = '\x60' || c = '\\' then return cs
    else
      let source : Source := { rest := cs }
      match (Word.parts (Grammar.substitution (Grammar.stepsFor cs.length))
          (Grammar.stepsFor cs.length) none .document).run source with
      | .error _ _ => return cs
      | .ok w _ =>
        let options := (← shell).options
        changeShell ({ · with options := options.filter (· ≠ 'x') })
        let lead ← tryCatch (Expansion.text (output steps) w) fun
          | .fault => return cs
          | leaving => throw leaving
        changeShell ({ · with options })
        return lead

/-- What redirections come to. -/
def connections : (steps : Nat) → List Redirect → Run (List Connection)
  | 0, _ => throw .endless
  | _ + 1, [] => return []
  | steps + 1, r :: rs => do
    let first ← match r with
      | .file stream opening path => do
        pure (Connection.file stream opening (← Expansion.text (output steps) path))
      | .copy stream source => do
        pure (.copy stream (← sourceOf (← Expansion.text (output steps) source)))
      | .document stream text => pure (.document stream text)
    return first :: (← connections steps rs)

def connectAll : (steps : Nat) → List Connection → Run Unit
  | 0, _ => throw .endless
  | _ + 1, [] => return ()
  | steps + 1, c :: cs => do
    match c with
    | .file stream opening path => connect stream (← openFile opening path)
    | .copy stream none => close stream
    | .copy stream (some source) =>
      match (← shell).streams.lookup source with
      | some i => connect stream i
      | none => fail (decimal source ++ ": Bad file descriptor".toList)
    | .document stream text =>
      let cs ← Expansion.text (output steps) text
      connect stream (← openDevice { device := .supply, reads := true, unread := cs })
    connectAll steps cs

def redirectAll : (steps : Nat) → List Redirect → Run Unit
  | 0, _ => throw .endless
  | steps + 1, rs => do connectAll steps (← connections steps rs)

/-- Connects streams as redirections say, if that can be done. -/
def redirected : (steps : Nat) → List Redirect → Run Bool
  | 0, _ => throw .endless
  | steps + 1, rs => do
    let cs ← connections steps rs
    tryCatch (do
      connectAll steps cs
      return true) fun
      | .fault => return false
      | leaving => throw leaving

def simple : (steps : Nat) → (tested : Bool) → (line : Nat) → List (String × Word) → List Word →
    List Redirect → Run Unit
  | 0, _, _, _, _, _ => throw .endless
  | steps + 1, tested, line, assignments, words, redirects => do
    tick
    changeShell ({ · with line, outputStatus := 0 })
    let declares := (words.head?.bind (·.plain?)).any Builtin.declaring.contains
    let args ← if declares then declaredFields steps words else fieldsOf steps words
    let saved := (← shell).streams
    match args with
    | [] =>
      withStreams (do
        if ← redirected steps redirects then
          let values ← assignAll steps assignments
          trace steps saved values []
          setStatus (← shell).outputStatus)
    | name :: args =>
      let found ← find true name
      let isSpecial := found matches .special
      let execs := isSpecial && name = "exec".toList
      let putBack : Run Unit := changeShell ({ · with streams := saved })
      if ← redirected steps redirects then
        tryCatch (do
          if isSpecial then
            let values ← assignAll steps assignments
            if execs ∧ !args.isEmpty then values.forM (share ·.1)
            trace steps saved values (name :: args)
            call steps tested found name args
          else
            withVariables steps assignments fun values => do
              trace steps saved values (name :: args)
              call steps tested found name args) fun leaving => do
            putBack
            throw leaving
        if !(execs ∧ args.isEmpty) then putBack
      else
        putBack
        if isSpecial then throw .fault

def call : (steps : Nat) → (tested : Bool) → Found → Bytes → List Bytes → Run Unit
  | 0, _, _, _, _ => throw .endless
  | steps + 1, tested, found, name, args => do
    match found with
    | .missing =>
      complain (name ++ ": not found".toList)
      setStatus 127
    | .denied =>
      complain (name ++ ": Permission denied".toList)
      setStatus (if name.contains '/' then 126 else 127)
    | .program _ program =>
      if args.any fun a => maxArgumentBytes ≤ a.length then
        complain (name ++ ": Argument list too long".toList)
        setStatus 126
      else setStatus (← execute steps program name args)
    | .function body => callFunction steps tested body args
    | .special => asBuiltin true name (special steps tested (String.ofList name) args)
    | .builtin =>
      match String.ofList name with
      | "command" => withoutFunctions steps tested args
      | "type" => asBuiltin false name (describeAll "type" false args)
      | "hash" => asBuiltin false name (do
          let (_, args) ← Builtin.options "r" args
          args.foldlM (fun status arg => do
            match ← find true arg with
            | .missing | .denied =>
              complain (arg ++ ": not found".toList)
              return 1
            | _ => return status) 0)
      | s =>
        match Builtin.named? s with
        | some builtin => asBuiltin false name (builtin args)
        | none => return ()

def special : (steps : Nat) → (tested : Bool) → String → List Bytes → Run Nat
  | 0, _, _, _ => throw .endless
  | steps + 1, tested, name, args => do
    match name with
    | "eval" =>
      let text := [' '].intercalate args
      if text.all fun c => Word.isBlank c || c = '\n' then return 0
      else
        runText steps tested { rest := text }
        return (← shell).status
    | "." =>
      match args with
      | [] => return 0
      | path :: _ =>
        let file ← if path.contains '/' then pure path else (do
          let candidates := (← searchPath).map fun d => if d.isEmpty then path else d ++ '/' :: path
          match ← candidates.findM? fun p => do
            match ← locate p with
            | .ok place => isFileAt place
            | .error _ => return false with
          | some p => pure p
          | none => fail (path ++ ": not found".toList))
        let source ← match ← locate file with
          | .error fault => failToOpen false file fault
          | .ok place =>
            match (← world).files.contents? place with
            | some bytes => pure (bytesOfOctets bytes)
            | none => pure []
        charge shellWork
        let outer := (← shell).command
        let status := (← shell).status
        let loops := (← shell).loops
        changeShell ({ · with command := some file, status := 0, loops := 0 })
        setStatus status
        tryCatch (runText steps tested { rest := source.filter (· ≠ '\x00'), ofFile := true }) fun
          | .call => return ()
          | leaving => throw leaving
        changeShell ({ · with command := outer, loops })
        if source.isEmpty then return 0 else return (← shell).status
    | "exec" =>
      match args with
      | [] => return 0
      | name :: args =>
        match ← find false name with
        | .program _ program =>
          changeShell ({ · with traps := [] })
          setStatus (← execute steps program name args)
          throw .shell
        | .denied =>
          complain (name ++ ": Permission denied".toList)
          setStatus 126
          throw .shell
        | _ =>
          match ← findProgram name with
          | .program _ program =>
            changeShell ({ · with traps := [] })
            setStatus (← execute steps program name args)
            throw .shell
          | _ =>
            complain (name ++ ": not found".toList)
            setStatus 127
            throw .shell
    | name =>
      match Builtin.named? name with
      | some builtin => builtin args
      | none => return 0

/-- Runs a command that is no function, or says what it is. -/
def withoutFunctions : (steps : Nat) → (tested : Bool) → List Bytes → Run Unit
  | 0, _, _ => throw .endless
  | steps + 1, tested, args => do
    match args with
    | [] => setStatus 0
    | ['-', 'v'] :: names => asBuiltin false "command".toList (describeAll "command" true (names.take 1))
    | ['-', 'V'] :: names => asBuiltin false "command".toList (describeAll "command" false (names.take 1))
    | ['-', 'p'] :: args | ['-', '-'] :: args => withoutFunctions steps tested args
    | name :: args =>
      match ← find false name with
      | .special => asBuiltin false name (special steps tested (String.ofList name) args)
      | found => call steps tested found name args

def callFunction : (steps : Nat) → (tested : Bool) → Command → List Bytes → Run Unit
  | 0, _, _, _ => throw .endless
  | steps + 1, tested, body, args => do
    let outer ← shell
    if maxDepth ≤ outer.hidden.length then
      fail ("Maximum function recursion depth (".toList ++ decimal maxDepth ++ ") reached".toList)
    else
      changeShell fun s =>
        { s with arguments := args, hidden := [] :: s.hidden, loops := 0, optionOffset := 0 }
      let putBack : Run Unit := do
        for (name, v) in ((← shell).hidden.head?.getD []) do
          restore name v
        changeShell fun s =>
          { s with
            arguments := outer.arguments
            hidden := outer.hidden
            loops := outer.loops
            optionOffset := outer.optionOffset }
      tryCatch (run steps tested body) fun
        | .call => return ()
        | leaving => do
          putBack
          throw leaving
      putBack

def execute : (steps : Nat) → String → Bytes → List Bytes → Run Nat
  | 0, _, _, _ => throw .endless
  | steps + 1, program, name, args => do
    match Program.named? program with
    | some program =>
      changeWorld fun w => { w with now := w.now + startTime }
      program args
    | none =>
      let ending ← inner steps name args
      mournedStatus ending

def inner : (steps : Nat) → Bytes → List Bytes → Run Ending
  | 0, _, _ => throw .endless
  | steps + 1, name, args => do
    charge shellWork
    apart (atExit steps) (do
      let number := (← world).nextNumber
      changeWorld ({ · with nextNumber := number + 1 })
      changeShell fun s =>
        { (s : Session) with
          name
          number
          bindings := startVariables s.number s.directory (exported s.bindings)
          functions := ∅
          aliases := []
          arguments := []
          options := []
          status := 0
          line := 0
          command := none
          hidden := []
          loops := 0
          traps := s.traps }
      script steps args)

/-- Runs the script that the arguments of a shell name: a text behind `-c`, a file, or the input. -/
def script : (steps : Nat) → List Bytes → Run Unit
  | 0, _ => throw .endless
  | steps + 1, args => do
    let isOption (a : Bytes) : Bool :=
      (a.head? = some '-' || a.head? = some '+') && 1 < a.length && a ≠ ['-', '-']
    let given := args.takeWhile isOption
    let takesText := given.any fun a => a.head? = some '-' && a.contains 'c'
    let readsInput := given.any fun a => a.head? = some '-' && a.contains 's'
    let cleaned := (given.map fun a => a.filter fun c => c ≠ 'c' && c ≠ 's').filter (1 < ·.length)
    let (_, rest) ← Builtin.settings (args.length + 1) (cleaned ++ args.drop given.length)
    if takesText then
      match rest with
      | [] => fail "-c requires an argument".toList
      | text :: rest =>
        changeShell fun s => { s with name := rest.headD s.name, arguments := rest.tail }
        runText steps false { rest := text }
    else
      match rest with
      | path :: arguments =>
        if readsInput then
          changeShell ({ · with arguments := rest })
          fromInput steps
        else
          match ← locate path with
          | .error fault => failToOpen false path fault
          | .ok place =>
            match (← world).files.contents? place with
            | none => failToOpen false path .isDirectory
            | some bytes =>
              changeShell ({ · with name := path, arguments })
              runText steps false { rest := (bytesOfOctets bytes).filter (· ≠ '\x00'), ofFile := true }
      | [] => fromInput steps

/-- Runs the input as a script, line by line, so that commands can read what is behind them. -/
def fromInput : (steps : Nat) → Run Unit
  | 0 => throw .endless
  | steps + 1 => do
    match ← unread? 0 with
    | none => return ()
    | some cs =>
      match ← nextLine { rest := cs, ofFile := true, line := max 1 (← shell).reached } with
      | none => return ()
      | some (c, src) =>
        setUnread 0 src.rest
        run steps false c
        fromInput steps

def pipeline : (steps : Nat) → (tested : Bool) → List Command → Run Unit
  | 0, _, _ => throw .endless
  | _ + 1, _, [] => return ()
  | steps + 1, tested, [c] => do
    let ending ← apart (atExit steps) (run steps tested c)
    setStatus (← mournedStatus ending)
  | steps + 1, tested, c :: cs => do
    let start := (← world).now
    let outer := (← shell).streams
    let (buffer, index) ← openBuffer
    let ending ← apart (atExit steps) (do
      connect 1 index
      run steps tested c)
    let left := (← world).now
    let chunks ← drain buffer
    let supply ← openDevice
      { device := .supply, reads := true, unread := collected chunks, ready := left }
    changeWorld fun w =>
      { w with
        now := start
        work := if ending = .endless then w.work / 2 else w.work }
    connect 0 supply
    pipeline steps tested cs
    let unread := ((← world).opened[supply]?.map (·.unread)).getD []
    changeShell ({ · with streams := outer })
    if ending = .endless then
      if unread.isEmpty then throw .endless else return ()
    else waitUntil left

def background : (steps : Nat) → Command → Run Unit
  | 0, _ => throw .endless
  | steps + 1, c => do
    charge shellWork
    let start := (← world).now
    let job := (← world).job
    let work := (← world).work
    let number := (← world).nextNumber
    changeWorld ({ · with nextNumber := number + 1, job := number })
    let idle ← openDevice { device := .nothing, reads := true }
    let ending ← apart (atExit steps) (do
      connect 0 idle
      match c with
      | .redirected line a redirects =>
        changeShell ({ · with line })
        redirectAll steps redirects
        run steps false a
      | c => run steps false c
      hold c)
    let stopped := (← world).now
    let ends := if ending = .endless then Nat.pow 2 62 else stopped
    if ending = .endless then changeWorld ({ · with held := Nat.pow 2 62 })
    changeWorld fun w =>
      { w with
        now := start + partingTime
        job
        work := if ending = .endless then work else w.work }
    let status := match ending with
      | .exited status => status
      | .killed signal => 128 + signal
      | .endless => 0
    changeShell fun s => { s with jobs := ⟨number, status, ends⟩ :: s.jobs, status := 0 }
where
  /-- Keeps the streams of the first shell until now, if they lead there. A program that takes the
  place of the shell has the streams it was given. -/
  hold (c : Command) : Run Unit := do
    let s ← get
    let own : Bool := match c with
      | .simple _ _ _ redirects => redirects.length < 2
      | _ => true
    let leads (stream : Nat × Nat) : Bool :=
      match s.world.opened[stream.2]?.map Opened.device with
      | some (Device.buffer b) => b < 2
      | _ => false
    if own ∧ s.shell.streams.any leads then
      changeWorld fun w => { w with held := max w.held w.now }

/-- Runs the rounds of a loop with a condition; the last round ended with a status. -/
def rounds : (steps : Nat) → (tested goal : Bool) → (condition body : Command) → (status : Nat) →
    Run Unit
  | 0, _, _, _, _, _ => throw .endless
  | steps + 1, tested, goal, condition, body, status => do
    tick
    let outcome ← round (do
      run steps true condition
      if ((← shell).status = 0) = goal then
        setStatus 0
        run steps tested body
      else throw (.loops false 1))
    match outcome with
    | .again => rounds steps tested goal condition body (← shell).status
    | .stop => setStatus status

def each : (steps : Nat) → (tested : Bool) → String → List Bytes → Command → Run Unit
  | 0, _, _, _, _ => throw .endless
  | _ + 1, _, _, [], _ => return ()
  | steps + 1, tested, name, v :: vs, body => do
    tick
    assign name v
    match ← round (run steps tested body) with
    | .again => each steps tested name vs body
    | .stop => return ()

def select : (steps : Nat) → (tested : Bool) → Bytes → List (List Word × Command) → Run Unit
  | 0, _, _, _ => throw .endless
  | _ + 1, _, _, [] => setStatus 0
  | steps + 1, tested, cs, (patterns, body) :: arms => do
    if ← matchesAny steps cs patterns then
      setStatus 0
      run steps tested body
    else select steps tested cs arms

def matchesAny : (steps : Nat) → Bytes → List Word → Run Bool
  | 0, _, _ => throw .endless
  | _ + 1, _, [] => return false
  | steps + 1, cs, w :: ws => do
    let p ← Expansion.pattern (output steps) w
    if Wildcard.isMatch (Wildcard.ofMarked p) cs then return true else matchesAny steps cs ws

end

end Evaluation

end ProseLint.Shell
