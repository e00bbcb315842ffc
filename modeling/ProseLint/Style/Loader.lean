/-
Loading styles. A style is a directory with a file for each rule, or the one that is built in. A
loader has the checks loaded so far, the styles that have been loaded, and an issue for each request
and each rule that could not be met. `Loader.resolve` loads what a configuration asks for.
-/
import ProseLint.Config.Basic
import ProseLint.Registry
import ProseLint.Style.Builtin

namespace ProseLint

structure LoadIssue where
  source : String
  fault : RuleError
  deriving DecidableEq, Repr

/-- What has been loaded from styles under a path. -/
structure Loader where
  stylesPath : Option String
  registry : Registry
  loadedStyles : List String
  issues : List LoadIssue

namespace Loader

def fresh (stylesPath : Option String) : Loader := ⟨stylesPath, .empty, [], []⟩

def isLoaded (l : Loader) (style : String) : Bool := l.loadedStyles.contains style

def addStyle (l : Loader) (style : String) : Loader :=
  { l with loadedStyles := l.loadedStyles ++ [style] }

def addIssue (l : Loader) (source : String) (fault : RuleError) : Loader :=
  { l with issues := l.issues ++ [⟨source, fault⟩] }

/-- Registers a check, or makes an issue of what kept it from being one. -/
def add (l : Loader) (source : String) (check : Except RuleError Check) : Loader :=
  match check.bind l.registry.register with
  | .ok registry => { l with registry }
  | .error fault => l.addIssue source fault

def loadBuiltin (l : Loader) : Loader :=
  (BuiltinStyle.checks.foldl
    (fun l c => l.add (BuiltinStyle.name ++ "." ++ c.1) c.2) l).addStyle BuiltinStyle.name

def checkOfFile (fs : Files) (stylesPath : Option String) (name : CheckName) (path : String) :
    Except RuleError Check :=
  match Definition.ofFile fs name path with
  | .error fault => .error fault
  | .ok d => d.compile stylesPath fs

/-- Loads a rule of a style from a file, unless its name is taken. -/
def loadFile (fs : Files) (l : Loader) (style rule path : String) : Loader :=
  match CheckName.new? style rule with
  | none => l.addIssue path (.invalidDefinition (.badName (style ++ "." ++ rule)))
  | some name =>
    if l.registry.contains name.full then l.addIssue path (.duplicate name.full)
    else l.add path (checkOfFile fs l.stylesPath name path)

def ruleExtension : String := "toml"

/-- Whether a file of a style is one of its rules. -/
def isRuleFile (name : String) : Bool :=
  !Path.isHidden name && Path.hasExtension ruleExtension name

def loadDirectory (fs : Files) (l : Loader) (style directory : String) : Loader :=
  ((fs.fileNames directory).filter isRuleFile).foldl
    (fun l name => loadFile fs l style (Path.stem name) (Path.join directory name)) l

/-- Loads all rules of a style, unless it has been loaded. -/
def loadStyle (fs : Files) (l : Loader) (style : String) : Loader :=
  if l.isLoaded style then l
  else
    match l.stylesPath with
    | none => l.addIssue style (.invalidDefinition (.styleWithoutPath style))
    | some base =>
      let directory := Path.join base style
      if fs.isDirectory directory then (loadDirectory fs l style directory).addStyle style
      else l.addIssue directory (.invalidDefinition (.directoryNotFound directory))

def ownFile (name : CheckName) : String := name.rule ++ "." ++ ruleExtension

def ownPath (base : String) (name : CheckName) : String :=
  Path.join (Path.join base name.style) (ownFile name)

/-- Loads one rule of a style from the file that is its own, whose name says the rule again. -/
def loadCheck (fs : Files) (l : Loader) (name : CheckName) : Loader :=
  match l.stylesPath with
  | none => l.addIssue name.full (.invalidDefinition (.checkWithoutPath name))
  | some base => loadFile fs l name.style (Path.stem (ownFile name)) (ownPath base name)

/-- Loads a check that a configuration lists, unless its style has been loaded. -/
def loadListed (fs : Files) (l : Loader) (check : String) : Loader :=
  match CheckName.parse? check with
  | none => l.addIssue check (.invalidDefinition (.badName check))
  | some name => if l.isLoaded name.style then l else loadCheck fs l name

/-- The styles a configuration asks for, in the order they are loaded. -/
def requestedStyles (c : Config) : List String :=
  c.basedOnStyles ++ c.formatStyles.entries.flatMap (·.2)

/-- Loads the style that is built in and what a configuration asks for. Without a path for styles
there is nothing else to load. -/
def resolve (fs : Files) (c : Config) : Loader :=
  let l := (fresh c.stylesPath).loadBuiltin
  if c.stylesPath.isNone then l
  else c.checks.foldl (loadListed fs) ((requestedStyles c).foldl (loadStyle fs) l)

end Loader

end ProseLint
