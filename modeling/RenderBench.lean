import RenderBench.Archive
import RenderBench.Calendar.Civil
import RenderBench.Clock
import RenderBench.CommandLine.Command
import RenderBench.CommandLine.Options
import RenderBench.CommandLine.Run
import RenderBench.CommandLine.Usage
import RenderBench.Datum.Basic
import RenderBench.FileStore.Basic
import RenderBench.FileStore.Path
import RenderBench.Host.Basic
import RenderBench.Host.Profile
import RenderBench.Item.Basic
import RenderBench.Item.Generate
import RenderBench.Item.Validation
import RenderBench.Json.Basic
import RenderBench.Json.Reader
import RenderBench.Json.Writer
import RenderBench.Log.Format
import RenderBench.Log.Level
import RenderBench.Log.Record
import RenderBench.Log.Root
import RenderBench.Main
import RenderBench.Number.Binary64
import RenderBench.Number.Decimal
import RenderBench.Number.Figure
import RenderBench.Number.Fixed
import RenderBench.Number.Reading
import RenderBench.Number.Root
import RenderBench.Number.Rounding
import RenderBench.Number.Shortest
import RenderBench.Parameters
import RenderBench.Proofs.Calendar.Days
import RenderBench.Proofs.Calendar.Fields
import RenderBench.Proofs.Calendar.Stamp
import RenderBench.Proofs.CommandLine.Bounds
import RenderBench.Proofs.CommandLine.Config
import RenderBench.Proofs.CommandLine.Outcome
import RenderBench.Proofs.CommandLine.Steps
import RenderBench.Proofs.FileStore.Archives
import RenderBench.Proofs.FileStore.Failure
import RenderBench.Proofs.FileStore.Latest
import RenderBench.Proofs.FileStore.Naming
import RenderBench.Proofs.FileStore.Saving
import RenderBench.Proofs.Host.Block
import RenderBench.Proofs.Host.Peak
import RenderBench.Proofs.Host.Profile
import RenderBench.Proofs.Item.Checking
import RenderBench.Proofs.Item.Generated
import RenderBench.Proofs.Item.Reading
import RenderBench.Proofs.Json.Form
import RenderBench.Proofs.Json.Text
import RenderBench.Proofs.Json.Writing
import RenderBench.Proofs.Log.Configuration
import RenderBench.Proofs.Log.Line
import RenderBench.Proofs.Number.Digits
import RenderBench.Proofs.Number.Exact
import RenderBench.Proofs.Number.Fixed
import RenderBench.Proofs.Number.Layout
import RenderBench.Proofs.Number.Nearest
import RenderBench.Proofs.Number.Range
import RenderBench.Proofs.Number.Root
import RenderBench.Proofs.Number.Shortest
import RenderBench.Proofs.Page.Document
import RenderBench.Proofs.Page.Rows
import RenderBench.Proofs.Page.Table
import RenderBench.Proofs.Report.Bytes
import RenderBench.Proofs.Report.Details
import RenderBench.Proofs.Report.Title
import RenderBench.Proofs.Session.Abort
import RenderBench.Proofs.Session.Agreement
import RenderBench.Proofs.Session.Loop
import RenderBench.Proofs.Session.Outcome
import RenderBench.Proofs.Session.Parameters
import RenderBench.Proofs.Session.Single
import RenderBench.Proofs.Session.Spread
import RenderBench.Proofs.Session.Trace
import RenderBench.Proofs.Settings.Caching
import RenderBench.Proofs.Settings.Dotenv
import RenderBench.Proofs.Settings.Priority
import RenderBench.Proofs.Settings.Sources
import RenderBench.Proofs.Statistics.Deviation
import RenderBench.Proofs.Statistics.Middle
import RenderBench.Proofs.Statistics.Shift
import RenderBench.Proofs.Statistics.Spread
import RenderBench.Proofs.Template.Alone
import RenderBench.Proofs.Template.Blocks
import RenderBench.Proofs.Template.Check
import RenderBench.Proofs.Template.Escaped
import RenderBench.Proofs.Template.Expression
import RenderBench.Proofs.Template.Lines
import RenderBench.Proofs.Template.Loading
import RenderBench.Proofs.Template.Naming
import RenderBench.Proofs.Template.Parsing.Alike
import RenderBench.Proofs.Template.Parsing.Bodies
import RenderBench.Proofs.Template.Parsing.Expressions
import RenderBench.Proofs.Template.Parsing.Lexing
import RenderBench.Proofs.Template.Parsing.Scanning
import RenderBench.Proofs.Template.Parsing.Standing
import RenderBench.Proofs.Template.Parsing.Statements
import RenderBench.Proofs.Template.Reading
import RenderBench.Proofs.Template.Relabel.Access
import RenderBench.Proofs.Template.Relabel.AllFilters
import RenderBench.Proofs.Template.Relabel.Allowed
import RenderBench.Proofs.Template.Relabel.Basic
import RenderBench.Proofs.Template.Relabel.Call
import RenderBench.Proofs.Template.Relabel.Elements
import RenderBench.Proofs.Template.Relabel.Evaluate
import RenderBench.Proofs.Template.Relabel.Execute
import RenderBench.Proofs.Template.Relabel.Filter
import RenderBench.Proofs.Template.Relabel.Machine
import RenderBench.Proofs.Template.Relabel.Operators
import RenderBench.Proofs.Template.Relabel.Regime
import RenderBench.Proofs.Template.Relabel.Scope
import RenderBench.Proofs.Template.Relabel.Sorting
import RenderBench.Proofs.Template.Relabel.Test
import RenderBench.Proofs.Template.Sink
import RenderBench.Proofs.Template.Statement
import RenderBench.Proofs.Template.Writing
import RenderBench.Proofs.Terminal.Markup
import RenderBench.Proofs.Terminal.Wrap
import RenderBench.Proofs.Text.Capitals
import RenderBench.Proofs.Text.Occurrences
import RenderBench.Report.Bytes
import RenderBench.Report.Details
import RenderBench.Report.Lines
import RenderBench.RunConfig
import RenderBench.Session.Measure
import RenderBench.Session.Notice
import RenderBench.Session.Result
import RenderBench.Session.Run
import RenderBench.Settings.Basic
import RenderBench.Settings.Cache
import RenderBench.Settings.Dotenv
import RenderBench.Statistics.Basic
import RenderBench.Template.Access
import RenderBench.Template.Basic
import RenderBench.Template.Check
import RenderBench.Template.Constant
import RenderBench.Template.Escaping
import RenderBench.Template.Evaluate
import RenderBench.Template.Execute
import RenderBench.Template.Fault
import RenderBench.Template.Filter
import RenderBench.Template.FilterArguments
import RenderBench.Template.Mention
import RenderBench.Template.Operators
import RenderBench.Template.Parser.Basic
import RenderBench.Template.Parser.Expression
import RenderBench.Template.Parser.Statement
import RenderBench.Template.Scope
import RenderBench.Template.Sorting
import RenderBench.Template.Store
import RenderBench.Template.Syntax
import RenderBench.Template.SyntaxFault
import RenderBench.Template.Test
import RenderBench.Template.Token
import RenderBench.Template.Token.Escape
import RenderBench.Template.Token.Lexer
import RenderBench.Template.Trace
import RenderBench.Template.Value
import RenderBench.Terminal.Emoji
import RenderBench.Terminal.Markup
import RenderBench.Terminal.Style
import RenderBench.Terminal.Wrap
import RenderBench.Text.Blank
import RenderBench.Text.CaseMap
import RenderBench.Text.CellWidth
import RenderBench.Text.CharRange
import RenderBench.Text.Identifier
import RenderBench.Text.Percent
import RenderBench.Text.Printable
import RenderBench.Text.Quoted
import RenderBench.Text.Similar
import RenderBench.Text.Utf8
import RenderBench.Text.Utf8Encode
import RenderBench.Validation.Arguments
import RenderBench.Validation.Basic
import RenderBench.Validation.Convert
import RenderBench.Variant
