import ProseLint.Unicode.Letter
import ProseLint.Unicode.Lookup
import ProseLint.Unicode.CaseFolding
import ProseLint.Pattern.Matching
import ProseLint.Pattern.Reader
import ProseLint.Json.Reader
import ProseLint.Json.Writer
import ProseLint.Text.Utf8
import ProseLint.Toml.Document
import ProseLint.Severity
import ProseLint.CheckName
import ProseLint.CheckName.Json
import ProseLint.Alert.Json
import ProseLint.Files.Snapshot
import ProseLint.Rule.Definition
import ProseLint.Script.Error
import ProseLint.Mask.Masker
import ProseLint.Context
import ProseLint.Check.Basic
import ProseLint.Check.Run
import ProseLint.Rule.Compile
import ProseLint.Config.Reader
import ProseLint.Error
import ProseLint.Style.Loader
import ProseLint.Engine
import ProseLint.Script.Launch
import ProseLint.Proofs.Mask.Union
import ProseLint.Proofs.Pattern.Alike
import ProseLint.Proofs.Text.Boundary
import ProseLint.Proofs.Pattern.Following
import ProseLint.Proofs.Pattern.Leftmost
import ProseLint.Proofs.Pattern.Matches
import ProseLint.Proofs.Mask.Cover
import ProseLint.Proofs.Mask.Exact
import ProseLint.Proofs.Mask.Overlap
import ProseLint.Proofs.Check.Located
import ProseLint.Proofs.Check.Isolation
import ProseLint.Proofs.Check.Findings
import ProseLint.Proofs.Files.Listing
import ProseLint.Proofs.Style.Accounting
import ProseLint.Proofs.Pattern.Relocation
import ProseLint.Proofs.Rule.Substitution
import ProseLint.Proofs.Pattern.Branches
import ProseLint.Proofs.Pattern.Alternatives
import ProseLint.Proofs.Pattern.CaseBlind
import ProseLint.Proofs.Pattern.Joining
import ProseLint.Proofs.Pattern.Groups
import ProseLint.Proofs.Style.Single
import ProseLint.Proofs.Pattern.Meaning
import ProseLint.Proofs.Pattern.Words
import ProseLint.Proofs.Pattern.PlainWords
import ProseLint.Proofs.Rule.Reading
import ProseLint.Proofs.Check.Dictionary
import ProseLint.Proofs.Mask.Addresses
import ProseLint.Proofs.Check.Repetition
import ProseLint.Proofs.Pattern.Frame
import ProseLint.Proofs.Pattern.Named
import ProseLint.Proofs.Rule.Consistency
import ProseLint.Proofs.Pattern.Levels
import ProseLint.Proofs.Check.Activation
import ProseLint.Proofs.Rule.Scripts
import ProseLint.Proofs.Json.Written
import ProseLint.Proofs.Script.Reports
import ProseLint.Proofs.Check.Contexts
import ProseLint.Proofs.Check.Streaks
import ProseLint.Proofs.Check.Undefined
import ProseLint.Proofs.Check.Variants
import ProseLint.Proofs.Pattern.Bars
import ProseLint.Proofs.Rule.Existence
import ProseLint.Proofs.Style.Order
import ProseLint.Proofs.Config.Validated
import ProseLint.Proofs.CheckName
import ProseLint.Proofs.Check.Places
import ProseLint.Proofs.Registry
import ProseLint.Proofs.Rule.Usable
import ProseLint.Proofs.Pattern.Numbered
import ProseLint.Proofs.Rule.Pairing
import ProseLint.Proofs.Alert
import ProseLint.Proofs.Check.Totals
import ProseLint.Proofs.Rule.GroupNames
import ProseLint.Proofs.Rule.Accepted
import ProseLint.Proofs.Text.Trimming
import ProseLint.Proofs.Style.Builtin
