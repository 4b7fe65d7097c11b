import Greenlight.Campaign
import Greenlight.Campaign.Rehearsal
import Greenlight.Campaign.Setup
import Greenlight.CommandLine
import Greenlight.CommandLine.Arguments
import Greenlight.Decimal.Binary
import Greenlight.Decimal.Notation
import Greenlight.Decimal.PowerOfTen
import Greenlight.Decimal.Reader
import Greenlight.Decimal.Rounded
import Greenlight.Decimal.Shortest
import Greenlight.Diagnosis
import Greenlight.Discovery.Error
import Greenlight.Discovery.Examples
import Greenlight.Discovery.Features
import Greenlight.Discovery.Manifest
import Greenlight.Entries
import Greenlight.Fault
import Greenlight.FileTree
import Greenlight.FlagSet
import Greenlight.Gate
import Greenlight.Gate.Options
import Greenlight.Gate.Planning
import Greenlight.Host
import Greenlight.Host.Arithmetic
import Greenlight.Host.Builtin
import Greenlight.Host.Condition
import Greenlight.Host.Machine
import Greenlight.Host.Parameter
import Greenlight.Host.Pattern
import Greenlight.Host.Printf
import Greenlight.Host.Programs
import Greenlight.Host.Script
import Greenlight.Host.Script.Reader
import Greenlight.Host.Shell
import Greenlight.Host.Signal
import Greenlight.Host.Tools
import Greenlight.Host.Tools.Basic
import Greenlight.Host.Tools.Files
import Greenlight.Host.Tools.Lines
import Greenlight.Json
import Greenlight.Json.Reader
import Greenlight.Json.Writer
import Greenlight.Main
import Greenlight.Outcome
import Greenlight.Path
import Greenlight.Plan
import Greenlight.Plan.Error
import Greenlight.Plan.FixedCheck
import Greenlight.Plan.Toolchain
import Greenlight.Process
import Greenlight.Process.Removal
import Greenlight.Process.Runner
import Greenlight.Process.Watch
import Greenlight.Proofs.Campaign.Answer
import Greenlight.Report
import Greenlight.Report.Export
import Greenlight.Report.Printer
import Greenlight.Settings
import Greenlight.Settings.Error
import Greenlight.Settings.Reading
import Greenlight.StandIn
import Greenlight.Task
import Greenlight.Text.Blank
import Greenlight.Text.CaseTable
import Greenlight.Text.DecimalDigit
import Greenlight.Text.Feed
import Greenlight.Text.Lines
import Greenlight.Text.LowerCase
import Greenlight.Text.Pieces
import Greenlight.Text.Printable
import Greenlight.Text.Quoted
import Greenlight.Text.Ranges
import Greenlight.Text.ShellWords
import Greenlight.Text.Utf8
import Greenlight.Toml
import Greenlight.Toml.Document
import Greenlight.Toml.Error
import Greenlight.Toml.Number
import Greenlight.Toml.Quoted
import Greenlight.Toml.Value
import Greenlight.Value
import Greenlight.Value.Calendar
import Greenlight.Value.Datum
import Greenlight.Value.SetOrder
import Greenlight.Yaml
import Greenlight.Yaml.Builder
import Greenlight.Yaml.Content
import Greenlight.Yaml.Cursor
import Greenlight.Yaml.Error
import Greenlight.Yaml.Node
import Greenlight.Yaml.Scalar
import Greenlight.Yaml.Source
import Greenlight.Yaml.Tag
import Greenlight.Yaml.Token
import Greenlight.Yaml.Token.Lexer
import Greenlight.Proofs.Campaign.Turn
import Greenlight.Proofs.Campaign.Derivation
import Greenlight.Proofs.Campaign.Run
import Greenlight.Proofs.Campaign.Accounting
import Greenlight.Proofs.Campaign.Stop
import Greenlight.Proofs.Campaign.FailFast
import Greenlight.Proofs.Campaign.Verdict
import Greenlight.Proofs.Failing
import Greenlight.Proofs.Distinct
import Greenlight.Proofs.Plan.Queue
import Greenlight.Proofs.Settings.Validity
import Greenlight.Proofs.Discovery.Selection
import Greenlight.Proofs.Plan.FixedChecks
import Greenlight.Proofs.Gate.Narrowing
import Greenlight.Proofs.Campaign.Policies
import Greenlight.Proofs.FileTree.Folders
import Greenlight.Proofs.Process.LogFiles
import Greenlight.Proofs.Process.Start
import Greenlight.Proofs.Campaign.StartFailure
import Greenlight.Proofs.Value.Numbers
import Greenlight.Proofs.Gate.Reported
import Greenlight.Proofs.Settings.Faults
import Greenlight.Proofs.Toml.Faults
import Greenlight.Proofs.Discovery.Faults
import Greenlight.Proofs.Plan.Faults
import Greenlight.Proofs.Gate.SetupFaults
import Greenlight.Proofs.Text.Pieces
import Greenlight.Proofs.FlagSet.Names
import Greenlight.Proofs.Discovery.Combinations
import Greenlight.Proofs.Plan.Ids
import Greenlight.Proofs.Gate.Discovered
import Greenlight.Proofs.Campaign.ExitCodes
import Greenlight.Proofs.Process.Questions
import Greenlight.Proofs.Campaign.Interruption
import Greenlight.Proofs.Gate.Modes
import Greenlight.Proofs.Campaign.Lifecycle
import Greenlight.Proofs.Decimal.Order
import Greenlight.Proofs.Settings.Limits
import Greenlight.Proofs.Agreeing
import Greenlight.Proofs.Value.Alike
import Greenlight.Proofs.Settings.AlikeOptions
import Greenlight.Proofs.Settings.Fields
import Greenlight.Proofs.Settings.Masking
import Greenlight.Proofs.Text.Blank
import Greenlight.Proofs.Settings.Spellings
import Greenlight.Proofs.Campaign.LogPaths
import Greenlight.Proofs.Discovery.Fit
import Greenlight.Proofs.FileTree.Listing
import Greenlight.Proofs.Path
import Greenlight.Proofs.Discovery.Offers
import Greenlight.Proofs.Plan.Printed
import Greenlight.Proofs.Gate.PlannedTexts
import Greenlight.Proofs.Plan.Order
import Greenlight.Proofs.Plan.DeclaredParts
import Greenlight.Proofs.Plan.Declarations
import Greenlight.Proofs.Process.Endings
import Greenlight.Proofs.Campaign.Watched
import Greenlight.Proofs.Campaign.Deadlines
import Greenlight.Proofs.Campaign.Consistency
import Greenlight.Proofs.Text.Occurrences
import Greenlight.Proofs.Text.LowerCase
import Greenlight.Proofs.Text.Utf8
import Greenlight.Proofs.Text.Encoded
import Greenlight.Proofs.Diagnosis.Streams
import Greenlight.Proofs.Diagnosis.Order
import Greenlight.Proofs.Settings.FlagSets
import Greenlight.Proofs.Plan.Invocation
import Greenlight.Proofs.Report.Ledger
import Greenlight.Proofs.Report.Lines
import Greenlight.Proofs.Decimal.Size
import Greenlight.Proofs.Decimal.Shortest
import Greenlight.Proofs.Decimal.Packing
import Greenlight.Proofs.Decimal.Rounding
import Greenlight.Proofs.Decimal.Nearest
import Greenlight.Proofs.Decimal.Digits
import Greenlight.Proofs.Decimal.Faithful
import Greenlight.Proofs.Json.Numbers
import Greenlight.Proofs.Json.Texts
import Greenlight.Proofs.Json.RoundTrip
import Greenlight.Proofs.Json.Ascii
import Greenlight.Proofs.FileTree.Contents
import Greenlight.Proofs.Report.Export
import Greenlight.Proofs.Process.Tails
import Greenlight.Proofs.Campaign.Outputs
import Greenlight.Proofs.Text.Lines
import Greenlight.Proofs.Report.Tails
import Greenlight.Proofs.Settings.Names
import Greenlight.Proofs.Plan.AlikeDeclarations
import Greenlight.Proofs.Plan.Padding
