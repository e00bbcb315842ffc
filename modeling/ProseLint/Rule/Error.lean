/-
Reasons why a rule does not become a check. Each has one message.
-/
import ProseLint.CheckName
import ProseLint.Files.Fault

namespace ProseLint

inductive Lack where
  | syntaxOfToml
  | kind
  | tokensOrRaw
  | token
  | positiveMax
  | tokens
  | swap (name : String)
  | ifAndThen
  | exeAndRuntime
  | captureGroup
  | usableSwap
  | stylesPath
  deriving DecidableEq, Repr

namespace Lack

def message : Lack → String
  | syntaxOfToml => "failed to parse TOML"
  | kind => "missing 'extends'"
  | tokensOrRaw => "existence rules need 'tokens' or 'raw'"
  | token => "occurrence rules need a token"
  | positiveMax => "occurrence rules need 'max' of at least 1"
  | tokens => "repetition rules need 'tokens'"
  | swap name => name ++ " rules need 'swap'"
  | ifAndThen => "conditional rules need both 'if' and 'then'"
  | exeAndRuntime => "script rules need both 'exe' and 'runtime'"
  | captureGroup => "'if' pattern needs a capture group"
  | usableSwap => "no usable 'swap' entries"
  | stylesPath => "script rules need a styles path"

end Lack

inductive DefinitionFault where
  | lacks (name : CheckName) (lack : Lack)
  | styleWithoutPath (style : String)
  | checkWithoutPath (name : CheckName)
  | directoryNotFound (path : String)
  | badName (name : String)
  | stated (text : String)
  deriving DecidableEq, Repr

namespace DefinitionFault

def message : DefinitionFault → String
  | lacks name lack => name.full ++ ": " ++ lack.message
  | styleWithoutPath style => "style '" ++ style ++ "' requested but no styles path is configured"
  | checkWithoutPath name =>
    "check '" ++ name.full ++ "' requested but no styles path is configured"
  | directoryNotFound path => "style directory not found: " ++ path
  | badName name => "invalid check name '" ++ name ++ "'"
  | stated text => text

end DefinitionFault

inductive PatternFault where
  | unreadable (name : CheckName) (pattern : String)
  | stated (text : String)
  deriving DecidableEq, Repr

namespace PatternFault

def message : PatternFault → String
  | unreadable name pattern => name.full ++ ": failed to compile pattern '" ++ pattern ++ "'"
  | stated text => text

end PatternFault

inductive RuleError where
  | invalidDefinition (fault : DefinitionFault)
  | unsupportedKind (kind : String)
  | invalidPattern (fault : PatternFault)
  | duplicate (name : String)
  | missingScript (path : String)
  | unreadable (path : String) (fault : AccessFault)
  deriving DecidableEq, Repr

namespace RuleError

def message : RuleError → String
  | invalidDefinition fault => "Invalid rule definition: " ++ fault.message
  | unsupportedKind kind => "Unsupported rule kind '" ++ kind ++ "'"
  | invalidPattern fault => "Invalid regex pattern: " ++ fault.message
  | duplicate name => "Duplicate check '" ++ name ++ "'"
  | missingScript path => "Script not found: " ++ path
  | unreadable path fault => "Failed to read " ++ path ++ ": " ++ fault.message

end RuleError

end ProseLint
