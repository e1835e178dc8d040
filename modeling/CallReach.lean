import CallReach.Command.Arguments
import CallReach.Command.Failure
import CallReach.Command.Help
import CallReach.Command.Run
import CallReach.Command.Session
import CallReach.Data.Entries
import CallReach.Data.Value
import CallReach.Decimal.Double
import CallReach.Decimal.Shortest
import CallReach.Files.Disk
import CallReach.Files.Path
import CallReach.Files.ProgramFile
import CallReach.Files.SettingsFile
import CallReach.Graph.Basic
import CallReach.Graph.OfProgram
import CallReach.Graph.Table
import CallReach.Json.Reader
import CallReach.Json.Writer
import CallReach.Log.Logger
import CallReach.Log.Severity
import CallReach.Log.Template
import CallReach.Main
import CallReach.Program.Assembly
import CallReach.Program.Basic
import CallReach.Program.Document
import CallReach.Program.Instruction
import CallReach.Program.Load
import CallReach.Program.Reference
import CallReach.Proofs.Accounting
import CallReach.Proofs.Admitted
import CallReach.Proofs.Bounds
import CallReach.Proofs.Builder
import CallReach.Proofs.Callees
import CallReach.Proofs.Coverage
import CallReach.Proofs.Duplicates
import CallReach.Proofs.Emitted
import CallReach.Proofs.Entries
import CallReach.Proofs.Exactness
import CallReach.Proofs.Filed
import CallReach.Proofs.Frontier
import CallReach.Proofs.Grammar
import CallReach.Proofs.Loaded
import CallReach.Proofs.Lowering
import CallReach.Proofs.Matching
import CallReach.Proofs.Nesting
import CallReach.Proofs.Occurrences
import CallReach.Proofs.Order
import CallReach.Proofs.Parsed
import CallReach.Proofs.Paths
import CallReach.Proofs.Pieces
import CallReach.Proofs.Placement
import CallReach.Proofs.Pricing
import CallReach.Proofs.Queue
import CallReach.Proofs.Reading
import CallReach.Proofs.Recursion
import CallReach.Proofs.References
import CallReach.Proofs.Remembered
import CallReach.Proofs.Reordering
import CallReach.Proofs.Repetition
import CallReach.Proofs.Rerun
import CallReach.Proofs.Resolution
import CallReach.Proofs.Safety
import CallReach.Proofs.Scaling
import CallReach.Proofs.Searcher
import CallReach.Proofs.Structured
import CallReach.Proofs.Termination
import CallReach.Proofs.Walk
import CallReach.Proofs.Weighted
import CallReach.Proofs.WellFormed
import CallReach.Proofs.Words
import CallReach.Report.Basic
import CallReach.Report.Clock
import CallReach.Report.Console
import CallReach.Report.Json
import CallReach.Report.Listing
import CallReach.Report.Record
import CallReach.Report.Summary
import CallReach.Schema.Check
import CallReach.Schema.Issue
import CallReach.Search.CallStack
import CallReach.Search.Config
import CallReach.Search.Frontier
import CallReach.Search.Searcher
import CallReach.Search.Seen
import CallReach.Search.Settings
import CallReach.Search.State
import CallReach.Source.Calls
import CallReach.Source.Constant
import CallReach.Source.Formatted
import CallReach.Source.Host
import CallReach.Source.Literal
import CallReach.Source.Lowering
import CallReach.Source.Parser.Basic
import CallReach.Source.Parser.Expr
import CallReach.Source.Parser.Pattern
import CallReach.Source.Parser.Stmt
import CallReach.Source.Printer
import CallReach.Source.Token
import CallReach.Source.Tree
import CallReach.Text.Blank
import CallReach.Text.Case
import CallReach.Text.CaseTable
import CallReach.Text.Digit
import CallReach.Text.Identifier
import CallReach.Text.Integer
import CallReach.Text.Lines
import CallReach.Text.Literal
import CallReach.Text.Normal
import CallReach.Text.NormalTable
import CallReach.Text.Printable
import CallReach.Text.Quoted
import CallReach.Text.Ranges
import CallReach.Text.Split
import CallReach.Yaml.Cursor
import CallReach.Yaml.Document
import CallReach.Yaml.Node
import CallReach.Yaml.Scalar
import CallReach.Yaml.Token
