import ScenarioRunner.Action.Basic
import ScenarioRunner.Action.Local
import ScenarioRunner.Action.SoftDelete
import ScenarioRunner.Binary64.Basic
import ScenarioRunner.Binary64.Elementary
import ScenarioRunner.Binary64.Round
import ScenarioRunner.Command.Arguments
import ScenarioRunner.Command.Basic
import ScenarioRunner.Command.Execute
import ScenarioRunner.Decimal.Literal
import ScenarioRunner.Decimal.Shortest
import ScenarioRunner.Decimal.Style
import ScenarioRunner.Error
import ScenarioRunner.Expectation
import ScenarioRunner.Files.Changes
import ScenarioRunner.Files.Tree
import ScenarioRunner.Json.Fault
import ScenarioRunner.Json.Reader
import ScenarioRunner.Json.Writer
import ScenarioRunner.Main
import ScenarioRunner.Proofs.Run.Captures
import ScenarioRunner.Proofs.Run.Clock
import ScenarioRunner.Proofs.Run.Deadline
import ScenarioRunner.Proofs.Run.Dependencies
import ScenarioRunner.Proofs.Run.Exchange
import ScenarioRunner.Proofs.Run.History
import ScenarioRunner.Proofs.Run.Phases
import ScenarioRunner.Proofs.Run.Recovery
import ScenarioRunner.Proofs.Run.Results
import ScenarioRunner.Proofs.Run.Retries
import ScenarioRunner.Proofs.Run.Script
import ScenarioRunner.Proofs.Run.Turn
import ScenarioRunner.Proofs.Run.Unlimited
import ScenarioRunner.Proofs.Run.Verdict
import ScenarioRunner.Proofs.Suite.Names
import ScenarioRunner.Proofs.Value.Fields
import ScenarioRunner.Report.Console
import ScenarioRunner.Report.Export
import ScenarioRunner.Report.Paint
import ScenarioRunner.Request
import ScenarioRunner.Response
import ScenarioRunner.Run.Case
import ScenarioRunner.Run.Result
import ScenarioRunner.Run.Suite
import ScenarioRunner.Run.World
import ScenarioRunner.Schema.Basic
import ScenarioRunner.Schema.Conform
import ScenarioRunner.Schema.Datum
import ScenarioRunner.Schema.Form
import ScenarioRunner.Settings
import ScenarioRunner.Shell.Arithmetic
import ScenarioRunner.Shell.Builtin
import ScenarioRunner.Shell.Condition
import ScenarioRunner.Shell.Expansion
import ScenarioRunner.Shell.Grammar
import ScenarioRunner.Shell.Number
import ScenarioRunner.Shell.Octets
import ScenarioRunner.Shell.Pattern
import ScenarioRunner.Shell.Printf
import ScenarioRunner.Shell.Program.Basic
import ScenarioRunner.Shell.Program.Batches
import ScenarioRunner.Shell.Program.Runner
import ScenarioRunner.Shell.Run
import ScenarioRunner.Shell.Source
import ScenarioRunner.Shell.State
import ScenarioRunner.Shell.Syntax
import ScenarioRunner.Shell.Utility.All
import ScenarioRunner.Shell.Utility.Awk.Cell
import ScenarioRunner.Shell.Utility.Awk.Command
import ScenarioRunner.Shell.Utility.Awk.Evaluate
import ScenarioRunner.Shell.Utility.Awk.Expression
import ScenarioRunner.Shell.Utility.Awk.Machine
import ScenarioRunner.Shell.Utility.Awk.Reader
import ScenarioRunner.Shell.Utility.Awk.Syntax
import ScenarioRunner.Shell.Utility.Awk.Token
import ScenarioRunner.Shell.Utility.Basic
import ScenarioRunner.Shell.Utility.Edit.Editor
import ScenarioRunner.Shell.Utility.Edit.Script
import ScenarioRunner.Shell.Utility.Files
import ScenarioRunner.Shell.Utility.Lines
import ScenarioRunner.Shell.Utility.Order
import ScenarioRunner.Shell.Utility.Regex
import ScenarioRunner.Shell.Utility.Search
import ScenarioRunner.Shell.Utility.System
import ScenarioRunner.Shell.Utility.Text
import ScenarioRunner.Shell.Word
import ScenarioRunner.Suite.Basic
import ScenarioRunner.Suite.Form
import ScenarioRunner.Suite.Load
import ScenarioRunner.Suite.Validation
import ScenarioRunner.Template.Basic
import ScenarioRunner.Template.Identifier
import ScenarioRunner.Template.Resolve
import ScenarioRunner.Text.Blank
import ScenarioRunner.Text.Quoted
import ScenarioRunner.Text.Shapeless
import ScenarioRunner.Text.UpperCase
import ScenarioRunner.Text.Utf8
import ScenarioRunner.Toml.Read
import ScenarioRunner.Toml.Scalar
import ScenarioRunner.Toml.Table
import ScenarioRunner.Value.Basic
import ScenarioRunner.Value.Equality
import ScenarioRunner.Value.Fields
import ScenarioRunner.Value.Number
import ScenarioRunner.Value.Path
import ScenarioRunner.Value.Text
import ScenarioRunner.Yaml.Conform
import ScenarioRunner.Yaml.Letter
import ScenarioRunner.Yaml.Node
import ScenarioRunner.Yaml.Plain
import ScenarioRunner.Yaml.Token.Basic
import ScenarioRunner.Yaml.Token.Scalar
import ScenarioRunner.Yaml.Token.Scan
import ScenarioRunner.Yaml.Token.Tag
import ScenarioRunner.Proofs.Value.Equality
import ScenarioRunner.Proofs.Binary64.Encoding
import ScenarioRunner.Proofs.Binary64.Rounding
import ScenarioRunner.Proofs.Value.Number
import ScenarioRunner.Proofs.Decimal.Literal
import ScenarioRunner.Proofs.Decimal.Shortest
import ScenarioRunner.Proofs.Text.Blank
import ScenarioRunner.Proofs.Template.Scan
import ScenarioRunner.Proofs.Template.Slot
import ScenarioRunner.Proofs.Value.Text
import ScenarioRunner.Proofs.Expectation
import ScenarioRunner.Proofs.Json.Scalar
import ScenarioRunner.Proofs.Json.RoundTrip
import ScenarioRunner.Proofs.Template.Surroundings
import ScenarioRunner.Proofs.Template.Inert
import ScenarioRunner.Proofs.Template.Field
import ScenarioRunner.Proofs.Value.Place
import ScenarioRunner.Proofs.Json.Normal
import ScenarioRunner.Proofs.Json.Reading
import ScenarioRunner.Proofs.Template.Body
import ScenarioRunner.Proofs.Request
import ScenarioRunner.Proofs.Run.Delivery
import ScenarioRunner.Proofs.Run.Grouping
import ScenarioRunner.Proofs.Run.Omission
import ScenarioRunner.Proofs.Value.Path
import ScenarioRunner.Proofs.Run.Extension
import ScenarioRunner.Proofs.Action.TableName
import ScenarioRunner.Proofs.Suite.Requirements
import ScenarioRunner.Proofs.Command.Outcome
import ScenarioRunner.Proofs.Run.Replies
import ScenarioRunner.Proofs.Report.Export
import ScenarioRunner.Proofs.Value.IntegerLiteral
import ScenarioRunner.Proofs.Template.Lookup
import ScenarioRunner.Proofs.Expectation.NumericForm
import ScenarioRunner.Proofs.Decimal.Grammar
import ScenarioRunner.Proofs.Decimal.Exact
import ScenarioRunner.Proofs.Value.NumericText
import ScenarioRunner.Proofs.Value.Equivalence
import ScenarioRunner.Proofs.Expectation.Ordering
import ScenarioRunner.Proofs.Decimal.Nearest
import ScenarioRunner.Proofs.Value.NumericString
import ScenarioRunner.Proofs.Expectation.FirstFailure
import ScenarioRunner.Proofs.Run.Duration
import ScenarioRunner.Proofs.Template.Environment
import ScenarioRunner.Proofs.Action.Condition
import ScenarioRunner.Proofs.Action.SoftDelete
import ScenarioRunner.Proofs.Action.Statement
import ScenarioRunner.Proofs.Action.Execution
import ScenarioRunner.Proofs.Command.Prediction
import ScenarioRunner.Proofs.Text.Slice
import ScenarioRunner.Proofs.Template.Cursor
import ScenarioRunner.Proofs.Binary64.Fraction
import ScenarioRunner.Proofs.Value.Conversion
