/-
A state of the file system. `Files.locate` follows a path from the root to a file or directory,
component by component; `Files.readText` is the text of a file.
-/
import ProseLint.Files.Fault
import ProseLint.Files.Path
import ProseLint.Text.Utf8

namespace ProseLint

/-- Files by the components of their paths, and directories that need not hold any. There are no
links. -/
structure Files where
  files : List (List String × List UInt8)
  directories : List (List String)

namespace Files

def empty : Files := ⟨[], []⟩

def contents? (fs : Files) (place : List String) : Option (List UInt8) := fs.files.lookup place

/-- Whether a directory is there, for itself or to hold something. -/
def isDirectoryAt (fs : Files) (place : List String) : Bool :=
  place = [] || fs.directories.any place.isPrefixOf ||
    fs.files.any fun f => place.isPrefixOf f.1.dropLast

def maxNameBytes : Nat := 255

def maxPathBytes : Nat := 4095

/-- Follows components from a directory. Only the last may be a file. -/
def follow (fs : Files) (place : List String) : List String → Except AccessFault (List String)
  | [] => .ok place
  | part :: parts =>
    if part = "" ∨ part = "." then follow fs place parts
    else if part = ".." then follow fs place.dropLast parts
    else if maxNameBytes < part.utf8ByteSize then .error .nameTooLong
    else
      let next := place ++ [part]
      match fs.contents? next with
      | some _ => if parts.isEmpty then .ok next else .error .notDirectory
      | none => if fs.isDirectoryAt next then follow fs next parts else .error .notFound

def locateFrom (fs : Files) (directory : List String) (path : String) :
    Except AccessFault (List String) :=
  if path.toList.contains '\x00' then .error .nulInName
  else if path = "" then .error .notFound
  else if maxPathBytes < path.utf8ByteSize then .error .nameTooLong
  else fs.follow (if Path.isAbsolute path then [] else directory) (Path.components path)

/-- The place that a path leads to. What does not start at the root leads nowhere. -/
def locate (fs : Files) (path : String) : Except AccessFault (List String) :=
  if Path.isAbsolute path then fs.locateFrom [] path
  else if path.toList.contains '\x00' then .error .nulInName
  else if maxPathBytes < path.utf8ByteSize then .error .nameTooLong
  else .error .notFound

def isFile (fs : Files) (path : String) : Bool :=
  match fs.locate path with
  | .ok place => (fs.contents? place).isSome
  | .error _ => false

def isDirectory (fs : Files) (path : String) : Bool :=
  match fs.locate path with
  | .ok place => (fs.contents? place).isNone
  | .error _ => false

def readBytes (fs : Files) (path : String) : Except AccessFault (List UInt8) :=
  match fs.locate path with
  | .error fault => .error fault
  | .ok place =>
    match fs.contents? place with
    | some bytes => .ok bytes
    | none => .error .isDirectory

def readText (fs : Files) (path : String) : Except AccessFault String :=
  match fs.readBytes path with
  | .error fault => .error fault
  | .ok bytes =>
    match Text.textOf? bytes with
    | some text => .ok text
    | none => .error .notText

/-- Puts a name in its place among sorted names, unless it is there. -/
def insertName (name : String) : List String → List String
  | [] => [name]
  | n :: ns =>
    if name < n then name :: n :: ns
    else if name = n then n :: ns
    else n :: insertName name ns

/-- The name of a file if it stands in a directory itself. -/
def nameIn? (place : List String) (file : List String) : Option String :=
  match file.getLast? with
  | some name => if file.dropLast = place then some name else none
  | none => none

def fileNames (fs : Files) (path : String) : List String :=
  match fs.locate path with
  | .error _ => []
  | .ok place => (fs.files.filterMap fun f => nameIn? place f.1).foldr insertName []

def entryNames (fs : Files) (place : List String) : List String :=
  let under (path : List String) : Option String :=
    if place.isPrefixOf path then path[place.length]? else none
  ((fs.files.filterMap (under ·.1)) ++ fs.directories.filterMap under).foldr insertName []

/-- The files after bytes have been put into one, which need not have been there. -/
def write (fs : Files) (place : List String) (bytes : List UInt8) : Files :=
  { fs with files := (place, bytes) :: fs.files.filter (·.1 ≠ place) }

end Files

end ProseLint
