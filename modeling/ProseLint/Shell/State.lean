/-
A shell in the middle of a script, and what it shares with the shells and programs it starts: files,
streams, time and the jobs that run beside it. `Run` is doing something in such a state; it may end
early for a reason to leave.
-/
import Std.Data.HashMap
import ProseLint.Files.Snapshot
import ProseLint.Shell.Tree

namespace ProseLint.Shell

def bytesOf (text : String) : Bytes := (Text.encode text).map fun b => Char.ofNat b.toNat

def octets (cs : Bytes) : List UInt8 := cs.map fun c => UInt8.ofNat c.toNat

def bytesOfOctets (bytes : List UInt8) : Bytes := bytes.map fun b => Char.ofNat b.toNat

def textOf (cs : Bytes) : String := Text.textOrReplaced (octets cs)

def decimal (n : Nat) : Bytes := Nat.toDigits 10 n

/-- Something that was written, when, and by which job. -/
structure Chunk where
  time : Nat
  job : Nat
  bytes : Bytes

/-- What a stream leads to. -/
inductive Device where
  /-- takes everything and gives nothing -/
  | nothing
  /-- takes nothing -/
  | full
  /-- gives what is left of a text -/
  | supply
  | buffer (index : Nat)
  | file (place : List String)
  | directory
  deriving DecidableEq, Repr

structure Opened where
  device : Device
  reads : Bool := false
  writes : Bool := false
  /-- what can still be read, and when all of that is there -/
  unread : Bytes := []
  ready : Nat := 0
  /-- where a file is written: at an offset, or always at its end -/
  offset : Nat := 0
  appends : Bool := false

/-- What shells and programs share. Times are in microseconds. -/
structure World where
  files : Files
  opened : Array Opened
  /-- what has been written to each buffer, the last first -/
  buffers : Array (List Chunk)
  now : Nat := 0
  /-- when the last program that runs beside the first shell lets go of its streams -/
  held : Nat := 0
  job : Nat := 0
  nextNumber : Nat
  /-- the time at which whoever started it all stops waiting -/
  deadline : Nat
  /-- how much has been done by what still counts, and by everything -/
  work : Nat := 0
  spent : Nat := 0
  volume : Nat := 0

/-- A variable, which may be known before it has a value. -/
structure Variable where
  value : Option Bytes := none
  exported : Bool := false
  readOnly : Bool := false

/-- Something that runs beside a shell, or ran. -/
structure Job where
  number : Nat
  status : Nat
  ends : Nat

structure Session where
  name : Bytes
  number : Nat
  bindings : Std.HashMap String Variable
  functions : Std.HashMap String Command := ∅
  aliases : List (String × Bytes) := []
  arguments : List Bytes := []
  /-- the letters of the options that are on -/
  options : List Char := []
  directory : List String
  /-- the open device of each stream -/
  streams : List (Nat × Nat)
  /-- how the last command ended, and the last one whose output was taken -/
  status : Nat := 0
  outputStatus : Nat := 0
  /-- the line that runs, and the last one that has been read -/
  line : Nat := 0
  reached : Nat := 0
  command : Option Bytes := none
  /-- for each function that runs, the variables it hides -/
  hidden : List (List (String × Option Variable)) := []
  loops : Nat := 0
  /-- how the last command ended before what is done on a signal or at the end -/
  interrupted : Option Nat := none
  /-- what is done at the end and on signals -/
  traps : List (Nat × Bytes) := []
  pending : List Nat := []
  jobs : List Job := []
  /-- the permissions that new files do not have -/
  mask : Nat := 0o022
  /-- where the next option is looked for in the argument it is in -/
  optionOffset : Nat := 0

structure State where
  shell : Session
  world : World

/-- Why something is left before its end. -/
inductive Leaving where
  /-- this many loops are left; the last one goes on with its next round if `again` -/
  | loops (again : Bool) (count : Nat)
  /-- the function or the script that was read in -/
  | call
  | shell
  /-- an error that a shell does not survive -/
  | fault
  | killed (signal : Nat)
  /-- it would not end -/
  | endless
  deriving DecidableEq, Repr

abbrev Run := EStateM Leaving State

namespace Run

def shell : Run Session := do return (← get).shell
def world : Run World := do return (← get).world

def changeShell (f : Session → Session) : Run Unit := modify fun s => { s with shell := f s.shell }
def changeWorld (f : World → World) : Run Unit := modify fun s => { s with world := f s.world }

def setStatus (status : Nat) : Run Unit := changeShell ({ · with status })

/-- What a script may do before it counts as one that does not end: by itself, and with what it has
started beside it. -/
def maxWork : Nat := 1000000
def maxSpent : Nat := 2 * maxWork

/-- The bytes that a value may have, and those that may be written. -/
def maxValueBytes : Nat := Nat.pow 2 23
def maxVolume : Nat := Nat.pow 2 25

def charge (n : Nat) : Run Unit := do
  changeWorld fun w => { w with work := w.work + n, spent := w.spent + n }
  let w ← world
  if maxWork < w.work ∨ maxSpent < w.spent ∨ maxVolume < w.volume ∨ w.deadline < w.now then
    throw .endless

def tick : Run Unit := charge 1

/-- The bytes that take as much to go through as something that is done. -/
def bytesPerWork : Nat := 1024

def chargeBytes (n : Nat) : Run Unit := charge (n / bytesPerWork)

def isOn (option : Char) : Run Bool := do return (← shell).options.contains option

/-! ## Streams -/

def stream? (stream : Nat) : Run (Option Opened) := do
  let s ← get
  return (s.shell.streams.lookup stream).bind (s.world.opened[·]?)

def openDevice (o : Opened) : Run Nat := do
  let n := (← world).opened.size
  changeWorld fun w => { w with opened := w.opened.push o }
  return n

def connect (stream index : Nat) : Run Unit :=
  changeShell fun s => { s with streams := (stream, index) :: s.streams.filter (·.1 ≠ stream) }

def close (stream : Nat) : Run Unit :=
  changeShell fun s => { s with streams := s.streams.filter (·.1 ≠ stream) }

def openBuffer : Run (Nat × Nat) := do
  let b := (← world).buffers.size
  changeWorld fun w => { w with buffers := w.buffers.push [] }
  return (b, ← openDevice { device := .buffer b, writes := true })

def drain (buffer : Nat) : Run (List Chunk) := do
  let chunks := (← world).buffers[buffer]?.getD []
  changeWorld fun w => { w with buffers := w.buffers.setIfInBounds buffer [] }
  return chunks

/-- Everything in a buffer, in the order of time. -/
def collected (chunks : List Chunk) : Bytes :=
  let ordered := chunks.reverse
  let ordered :=
    if (ordered.zip ordered.tail).all fun (a, b) => a.time ≤ b.time then ordered
    else ordered.mergeSort fun a b => a.time ≤ b.time
  ordered.flatMap (·.bytes)

def write (stream : Nat) (cs : Bytes) : Run Bool := do
  let s ← get
  match (s.shell.streams.lookup stream).bind fun i => (s.world.opened[i]?).map (i, ·) with
  | some (i, o) =>
    if !o.writes then return false
    else
      match o.device with
      | .buffer b =>
        if !cs.isEmpty then
          changeWorld fun w =>
            { w with
              buffers := w.buffers.modify b (⟨w.now, w.job, cs⟩ :: ·)
              volume := w.volume + cs.length }
        return true
      | .file place =>
        chargeBytes (8 * ((s.world.files.contents? place).getD []).length)
        changeWorld fun w =>
          let old := (w.files.contents? place).getD []
          let size := old.length
          let offset := if o.appends then size else o.offset
          let new :=
            if offset = size then old ++ octets cs
            else
              let gap := List.replicate (offset - size) (0 : UInt8)
              old.take offset ++ gap ++ octets cs ++ old.drop (offset + cs.length)
          { w with
            files := w.files.write place new
            opened := w.opened.modify i ({ · with offset := offset + cs.length })
            volume := w.volume + cs.length }
        return true
      | .full => return cs.isEmpty
      | _ => return true
  | none => return false

def waitUntil (time : Nat) : Run Unit := changeWorld fun w => { w with now := max w.now time }

/-- What is left to read from a stream, if it is open for that. -/
def unread? (stream : Nat) : Run (Option Bytes) := do
  match ← stream? stream with
  | some o =>
    if o.reads then
      waitUntil o.ready
      return some o.unread
    else return none
  | none => return none

def setUnread (stream : Nat) (rest : Bytes) : Run Unit := modify fun s =>
  match s.shell.streams.lookup stream with
  | some i =>
    { s with world.opened := s.world.opened.modify i ({ · with unread := rest }) }
  | none => s

def readAll? (stream : Nat) : Run (Option Bytes) := do
  let cs ← unread? stream
  setUnread stream []
  return cs

/-! ## Complaints -/

def complaints : Nat := 2

def complainPlainly (cs : Bytes) : Run Unit := do
  let _ ← write complaints (cs ++ ['\n'])

def complain (cs : Bytes) : Run Unit := do
  let s ← shell
  let command := match s.command with
    | some c => c ++ ": ".toList
    | none => []
  complainPlainly (s.name ++ ": ".toList ++ decimal s.line ++ ": ".toList ++ command ++ cs)

def fail {α : Type} (cs : Bytes) : Run α := do
  complain cs
  setStatus 2
  throw .fault

/-! ## Variables -/

def known? (name : String) : Run (Option Variable) := do return (← shell).bindings[name]?

def value? (name : String) : Run (Option Bytes) := do return (← known? name).bind (·.value)

def assign (name : String) (value : Bytes) : Run Unit := do
  let v := (← known? name).getD {}
  if v.readOnly then fail (bytesOf name ++ ": is read only".toList)
  else if maxValueBytes < value.length then throw .endless
  else
    chargeBytes value.length
    let exported := v.exported || (← isOn 'a')
    changeShell fun s =>
      { s with
        bindings := s.bindings.insert name { v with value, exported }
        optionOffset := if name = "OPTIND" then 0 else s.optionOffset }

def restore (name : String) (v : Option Variable) : Run Unit := changeShell fun s =>
  { s with bindings := match v with
    | some v => s.bindings.insert name v
    | none => s.bindings.erase name }

def separators : Run Bytes := do return (← value? "IFS").getD [' ', '\t', '\n']

/-! ## Places -/

def locate (path : Bytes) : Run (Except AccessFault (List String)) := do
  let s ← get
  return s.world.files.locateFrom s.shell.directory (textOf path)

def isFileAt (place : List String) : Run Bool := do
  return ((← world).files.contents? place).isSome

end Run

end ProseLint.Shell
