/-
Reasons why the system does not read a file or start a program, in its own words.
-/
namespace ProseLint

inductive AccessFault where
  | notFound
  | permissionDenied
  | notDirectory
  | isDirectory
  | nameTooLong
  | argumentsTooLong
  | notText
  | nulInName
  | nulInArgument
  | stated (text : String)
  deriving DecidableEq, Repr

namespace AccessFault

/-- The system's number of a fault, and its words for it. -/
def system? : AccessFault → Option (Nat × String)
  | notFound => some (2, "No such file or directory")
  | argumentsTooLong => some (7, "Argument list too long")
  | permissionDenied => some (13, "Permission denied")
  | notDirectory => some (20, "Not a directory")
  | isDirectory => some (21, "Is a directory")
  | nameTooLong => some (36, "File name too long")
  | _ => none

def reason : AccessFault → String
  | notText => "stream did not contain valid UTF-8"
  | nulInName => "file name contained an unexpected NUL byte"
  | nulInArgument => "nul byte found in provided data"
  | stated text => text
  | fault => (fault.system?.map (·.2)).getD ""

def message (fault : AccessFault) : String :=
  match fault.system? with
  | some (number, words) => words ++ " (os error " ++ toString number ++ ")"
  | none => fault.reason

end AccessFault

end ProseLint
