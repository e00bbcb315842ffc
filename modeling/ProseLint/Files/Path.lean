/-
Paths of files as they are written: components with slashes between them.
-/
namespace ProseLint.Path

def isAbsolute (path : String) : Bool := path.toList.head? = some '/'

/-- One path after another. An absolute one stands alone. -/
def join (base path : String) : String :=
  if isAbsolute path then path
  else if base = "" ∨ base.toList.getLast? = some '/' then base ++ path
  else base ++ "/" ++ path

/-- The stretches between slashes, the empty ones too. -/
def splitSlash : List Char → List (List Char)
  | [] => [[]]
  | c :: cs =>
    match splitSlash cs with
    | [] => [[c]]
    | p :: ps => if c = '/' then [] :: p :: ps else (c :: p) :: ps

def components (path : String) : List String := (splitSlash path.toList).map String.ofList

/-- The part of a file's name before its first dot. -/
def stem (name : String) : String := String.ofList (name.toList.takeWhile (· ≠ '.'))

def isHidden (name : String) : Bool := name.toList.head? = some '.'

/-- Whether a file's name goes on after its first character to a last dot and this extension. -/
def hasExtension (ext name : String) : Bool :=
  ('.' :: ext.toList).isSuffixOf (name.toList.drop 1)

end ProseLint.Path
