import RequestSuite.Assertion.Basic
import RequestSuite.Assertion.Evaluation
import RequestSuite.Assertion.Operator
import RequestSuite.Assertion.Report
import RequestSuite.Bundle.Basic
import RequestSuite.Bundle.Place
import RequestSuite.Bundle.Reader
import RequestSuite.Capture.Basic
import RequestSuite.Capture.Source
import RequestSuite.Command.Arguments
import RequestSuite.Command.Basic
import RequestSuite.Command.Execution
import RequestSuite.Command.FileTree
import RequestSuite.Command.Machine
import RequestSuite.Display.Response
import RequestSuite.Display.Run
import RequestSuite.Display.Style
import RequestSuite.Distinct
import RequestSuite.Error
import RequestSuite.Http.Client
import RequestSuite.Http.Failure
import RequestSuite.Http.Method
import RequestSuite.Http.Outgoing
import RequestSuite.Http.Response
import RequestSuite.Http.Status
import RequestSuite.Http.Unreachable
import RequestSuite.Json.Numeral
import RequestSuite.Json.Reader
import RequestSuite.Location
import RequestSuite.Main
import RequestSuite.Notice
import RequestSuite.Number.Basic
import RequestSuite.Number.Binary64
import RequestSuite.Number.Decimal
import RequestSuite.Number.Shortest
import RequestSuite.Path.Basic
import RequestSuite.Path.Parser
import RequestSuite.Pattern.Basic
import RequestSuite.Pattern.Charset
import RequestSuite.Pattern.Parser
import RequestSuite.Pattern.Size
import RequestSuite.Proofs.Assertion.Comparison
import RequestSuite.Proofs.Assertion.Equality
import RequestSuite.Proofs.Assertion.Order
import RequestSuite.Proofs.Assertion.Reordering
import RequestSuite.Proofs.Assertion.Stopping
import RequestSuite.Proofs.Assertion.Tally
import RequestSuite.Proofs.Bundle.Changes
import RequestSuite.Proofs.Bundle.Collecting
import RequestSuite.Proofs.Bundle.Declared
import RequestSuite.Proofs.Bundle.KeyOrder
import RequestSuite.Proofs.Bundle.ListOrMap
import RequestSuite.Proofs.Bundle.Reading
import RequestSuite.Proofs.Bundle.Schema
import RequestSuite.Proofs.Bundle.ShortNotation
import RequestSuite.Proofs.Capture.Agreement
import RequestSuite.Proofs.Capture.Bindings
import RequestSuite.Proofs.Capture.Expected
import RequestSuite.Proofs.Capture.Precedence
import RequestSuite.Proofs.Display.Unstyled
import RequestSuite.Proofs.Http.Fitness
import RequestSuite.Proofs.Http.Handover
import RequestSuite.Proofs.Http.Joined
import RequestSuite.Proofs.Number.Nearest
import RequestSuite.Proofs.Path.Address
import RequestSuite.Proofs.Path.Composition
import RequestSuite.Proofs.Path.Grammar
import RequestSuite.Proofs.Path.Selection
import RequestSuite.Proofs.Request.Absorption
import RequestSuite.Proofs.Request.FullUrl
import RequestSuite.Proofs.Request.Layers
import RequestSuite.Proofs.Request.Named
import RequestSuite.Proofs.Request.Overlay
import RequestSuite.Proofs.Request.Params
import RequestSuite.Proofs.Request.Query
import RequestSuite.Proofs.Request.Undefined
import RequestSuite.Proofs.Run.Course
import RequestSuite.Proofs.Run.Isolation
import RequestSuite.Proofs.Run.Merging
import RequestSuite.Proofs.Run.Outcomes
import RequestSuite.Proofs.Run.Totals
import RequestSuite.Proofs.Run.Variables
import RequestSuite.Proofs.Template.Alone
import RequestSuite.Proofs.Template.Blank
import RequestSuite.Proofs.Template.Bytes
import RequestSuite.Proofs.Template.Escaping
import RequestSuite.Proofs.Template.Insertion
import RequestSuite.Proofs.Template.Mention
import RequestSuite.Proofs.Template.Noting
import RequestSuite.Proofs.Template.Occurrence
import RequestSuite.Proofs.Template.Unresolved
import RequestSuite.Proofs.Value.Compact
import RequestSuite.Proofs.Value.Indented
import RequestSuite.Proofs.Value.Quoted
import RequestSuite.Proofs.Variable.Expanding
import RequestSuite.Proofs.Variable.History
import RequestSuite.Proofs.Variable.Layering
import RequestSuite.Proofs.Yaml.DistinctKeys
import RequestSuite.Request.Basic
import RequestSuite.Request.Merge
import RequestSuite.Request.Resolve
import RequestSuite.Run.Result
import RequestSuite.Run.Session
import RequestSuite.Settings
import RequestSuite.Table
import RequestSuite.Template.Resolve
import RequestSuite.Template.Token
import RequestSuite.Text.Blank
import RequestSuite.Text.Integer
import RequestSuite.Text.Lines
import RequestSuite.Text.Lower
import RequestSuite.Text.Percent
import RequestSuite.Text.Search
import RequestSuite.Toml.Fields
import RequestSuite.Toml.Moment
import RequestSuite.Toml.Reader
import RequestSuite.Unicode.Case
import RequestSuite.Unicode.Category
import RequestSuite.Unicode.Property
import RequestSuite.Unicode.Ranges
import RequestSuite.Unicode.Script
import RequestSuite.Unicode.Trait
import RequestSuite.Url.Basic
import RequestSuite.Url.Host
import RequestSuite.Url.Parser
import RequestSuite.Url.Punycode
import RequestSuite.Value.Basic
import RequestSuite.Value.Text
import RequestSuite.Variable.Environment
import RequestSuite.Variable.Expansion
import RequestSuite.Variable.File
import RequestSuite.Variable.Store
import RequestSuite.Yaml.Cursor
import RequestSuite.Yaml.Node
import RequestSuite.Yaml.Scalar
import RequestSuite.Yaml.Token
import RequestSuite.Yaml.Value
