/-
Running scripts as programs. A runtime is a program of the system, called with the path of the script
and the text; the script is read by it and need not be there.
-/
import ProseLint.Script.Host
import ProseLint.Shell.Evaluation

namespace ProseLint.Script

open Shell Run

def directory : List String := ["work"]

/-- The program that a runtime is. A name without a slash is looked for among the programs. -/
def program? (fs : Files) (runtime : String) : Except AccessFault String :=
  if runtime.toList.contains '/' then
    match fs.locateFrom directory runtime with
    | .error fault => .error fault
    | .ok place =>
      match Program.at? place with
      | some name =>
        if runtime.toList.getLast? = some '/' then .error .notDirectory else .ok name
      | none => .error .permissionDenied
  else if runtime = "." ∨ runtime = ".." then .error .permissionDenied
  else if Files.maxNameBytes < runtime.utf8ByteSize then .error .nameTooLong
  else if Program.names.contains runtime then .ok runtime
  else .error .notFound

def environment : List (String × String) := [
  ("PATH", "/usr/local/sbin:/usr/local/bin:/usr/sbin:/usr/bin:/sbin:/bin"),
  ("HOME", "/root")]

/-- The state in which a program starts: nothing to read, and its output and its complaints are
kept. -/
def start (fs : Files) (runtime : String) (deadline : Nat) : State :=
  let given := environment.map fun (name, value) =>
    (name, { value := some (bytesOf value), exported := true : Variable })
  { shell := {
      name := bytesOf runtime
      number := 2
      bindings := Evaluation.startVariables 1 directory (.ofList given)
      directory
      streams := [(0, 0), (1, 1), (2, 2)] }
    world := {
      files := fs
      opened := #[{ device := .nothing, reads := true }, { device := .buffer 0, writes := true },
        { device := .buffer 1, writes := true }]
      buffers := #[[], []]
      nextNumber := 3
      deadline } }

/-- Runs a program with arguments, as the only one there is. -/
def runProgram (program : String) (args : List Bytes) : Run Ending :=
  let steps := Evaluation.maxSteps
  match Program.named? program with
  | some program => Evaluation.apart (pure ()) (do setStatus (← program args))
  | none => Evaluation.apart (Evaluation.atExit steps) (Evaluation.script steps args)

def written (w : World) (buffer : Nat) : Bytes := Run.collected (w.buffers[buffer]?.getD [])

def answer (timeout : Nat) (ending : Ending) (w : World) : Except ScriptError (List UInt8) :=
  let complaint := String.ofList (Unicode.trim (textOf (written w 1)).toList)
  let limit := timeout * 1000
  if limit ≤ w.now ∨ limit < w.held then .error (.timedOut timeout)
  else
    match ending with
    | .endless => .error (.timedOut timeout)
    | .killed _ => .error (.failed none complaint)
    | .exited 0 => .ok (octets (written w 0))
    | .exited status => .error (.failed (some status) complaint)

/-- Runs scripts as programs, over a state of the file system. -/
def launch (fs : Files) : ScriptRunner := fun call =>
  let command := call.runtime ++ " " ++ call.path
  let fail (fault : AccessFault) : Except ScriptError (List UInt8) :=
    .error (.notStarted command fault)
  let arguments := [call.path, call.text]
  if (call.runtime :: arguments).any (·.toList.contains '\x00') then fail .nulInArgument
  else
    let fs := Program.withSystem fs
    match program? fs call.runtime with
    | .error fault => fail fault
    | .ok program =>
      if arguments.any fun a => Evaluation.maxArgumentBytes ≤ a.utf8ByteSize then
        fail .argumentsTooLong
      else
        match (runProgram program (arguments.map bytesOf)).run
            (start fs call.runtime (call.timeout * 1000)) with
        | .ok ending s => answer call.timeout ending s.world
        | .error _ s => answer call.timeout .endless s.world

end ProseLint.Script
