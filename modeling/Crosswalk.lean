import Crosswalk.Aggregation
import Crosswalk.Command.Arguments
import Crosswalk.Command.Basic
import Crosswalk.Command.Run
import Crosswalk.Engine.Evaluate
import Crosswalk.Engine.Join
import Crosswalk.Engine.Levels
import Crosswalk.Engine.Report
import Crosswalk.Engine.Visit
import Crosswalk.Error
import Crosswalk.Files
import Crosswalk.Formula.Arithmetic
import Crosswalk.Formula.Compiled
import Crosswalk.Formula.Evaluation
import Crosswalk.Formula.Functions
import Crosswalk.Formula.Grammar
import Crosswalk.Formula.Syntax
import Crosswalk.Formula.Template
import Crosswalk.Formula.Term
import Crosswalk.Formula.Token
import Crosswalk.Formula.Value
import Crosswalk.Given
import Crosswalk.Json.Equality
import Crosswalk.Json.Reader
import Crosswalk.Json.Value
import Crosswalk.Log.Moment
import Crosswalk.Log.Output
import Crosswalk.Log.Record
import Crosswalk.Log.Traced
import Crosswalk.Main
import Crosswalk.Mapping.Document
import Crosswalk.Mapping.Graph
import Crosswalk.Mapping.Loader
import Crosswalk.Mapping.Memory
import Crosswalk.Mapping.Record
import Crosswalk.Mapping.Service
import Crosswalk.Mapping.Snapshot
import Crosswalk.Mapping.Statement
import Crosswalk.Mapping.Store
import Crosswalk.Number.Binary64
import Crosswalk.Number.Decimal
import Crosswalk.Number.Numeral
import Crosswalk.Path
import Crosswalk.Pipeline
import Crosswalk.Proofs.Aggregation
import Crosswalk.Proofs.Engine.Chains
import Crosswalk.Proofs.Engine.Columns
import Crosswalk.Proofs.Engine.Growth
import Crosswalk.Proofs.Engine.Join
import Crosswalk.Proofs.Engine.Levels
import Crosswalk.Proofs.Engine.Meaning
import Crosswalk.Proofs.Engine.Modes
import Crosswalk.Proofs.Engine.Paths
import Crosswalk.Proofs.Engine.Recursion
import Crosswalk.Proofs.Engine.Removal
import Crosswalk.Proofs.Engine.Schedule
import Crosswalk.Proofs.Engine.Visits
import Crosswalk.Proofs.Files
import Crosswalk.Proofs.Formula.Arithmetic
import Crosswalk.Proofs.Formula.Checks
import Crosswalk.Proofs.Formula.Cuts
import Crosswalk.Proofs.Formula.Fields
import Crosswalk.Proofs.Formula.FunctionSizes
import Crosswalk.Proofs.Formula.Hygiene
import Crosswalk.Proofs.Formula.Limits
import Crosswalk.Proofs.Formula.Literals
import Crosswalk.Proofs.Formula.Numerals
import Crosswalk.Proofs.Formula.Order
import Crosswalk.Proofs.Formula.Phrases
import Crosswalk.Proofs.Formula.Pieces
import Crosswalk.Proofs.Formula.ReadBack
import Crosswalk.Proofs.Formula.Scanners
import Crosswalk.Proofs.Formula.Shapes
import Crosswalk.Proofs.Formula.SizeChecks
import Crosswalk.Proofs.Formula.Sizes
import Crosswalk.Proofs.Formula.TextLengths
import Crosswalk.Proofs.Formula.Tokens
import Crosswalk.Proofs.Formula.Whitelist
import Crosswalk.Proofs.Formula.WholeNumbers
import Crosswalk.Proofs.Json.Equality
import Crosswalk.Proofs.Json.Roundtrip
import Crosswalk.Proofs.Json.Scalars
import Crosswalk.Proofs.Mapping.Changes
import Crosswalk.Proofs.Mapping.Connecting
import Crosswalk.Proofs.Mapping.Flags
import Crosswalk.Proofs.Mapping.Following
import Crosswalk.Proofs.Mapping.Grammar
import Crosswalk.Proofs.Mapping.Graph
import Crosswalk.Proofs.Mapping.History
import Crosswalk.Proofs.Mapping.Ledger
import Crosswalk.Proofs.Mapping.Loading
import Crosswalk.Proofs.Mapping.Protocol
import Crosswalk.Proofs.Mapping.Records
import Crosswalk.Proofs.Mapping.Remains
import Crosswalk.Proofs.Mapping.Reordered
import Crosswalk.Proofs.Mapping.Requests
import Crosswalk.Proofs.Mapping.Retry
import Crosswalk.Proofs.Mapping.Sessions
import Crosswalk.Proofs.Mapping.Snapshot
import Crosswalk.Proofs.Mapping.StrayText
import Crosswalk.Proofs.Mapping.Unreadable
import Crosswalk.Proofs.Number.Nearest
import Crosswalk.Proofs.Number.PlainForm
import Crosswalk.Proofs.Number.Rounding
import Crosswalk.Proofs.Number.Shortest
import Crosswalk.Proofs.Pipeline
import Crosswalk.Proofs.Pipeline.Averages
import Crosswalk.Proofs.Pipeline.Computed
import Crosswalk.Proofs.Pipeline.Extremes
import Crosswalk.Proofs.Pipeline.Failures
import Crosswalk.Proofs.Pipeline.Groups
import Crosswalk.Proofs.Pipeline.Normalized
import Crosswalk.Proofs.Pipeline.Origins
import Crosswalk.Proofs.Pipeline.Partition
import Crosswalk.Proofs.Pipeline.Places
import Crosswalk.Proofs.Pipeline.Repeated
import Crosswalk.Proofs.Pipeline.Totals
import Crosswalk.Proofs.Query.Addresses
import Crosswalk.Proofs.Query.Assembly
import Crosswalk.Proofs.Query.Documents
import Crosswalk.Proofs.Query.Fields
import Crosswalk.Proofs.Query.Repeated
import Crosswalk.Proofs.Query.Shape
import Crosswalk.Proofs.Query.Steps
import Crosswalk.Proofs.Query.Traversal
import Crosswalk.Proofs.Query.Unfolding
import Crosswalk.Proofs.Query.Untold
import Crosswalk.Proofs.Row
import Crosswalk.Proofs.Sequence
import Crosswalk.Proofs.Service.Changes
import Crosswalk.Proofs.Service.Interchange
import Crosswalk.Proofs.Service.Mirror
import Crosswalk.Proofs.Service.Queries
import Crosswalk.Proofs.Service.Statements
import Crosswalk.Proofs.Source.Consumer
import Crosswalk.Proofs.Source.Headings
import Crosswalk.Proofs.Source.Leaves
import Crosswalk.Proofs.Source.Memory
import Crosswalk.Proofs.Source.Positions
import Crosswalk.Proofs.Source.Stream
import Crosswalk.Proofs.Source.Tables
import Crosswalk.Proofs.Text.Padding
import Crosswalk.Proofs.Text.Utf8
import Crosswalk.Proofs.Xml.Reading
import Crosswalk.Proofs.Xml.Walk
import Crosswalk.Query.Document
import Crosswalk.Query.Fields
import Crosswalk.Query.Given
import Crosswalk.Query.Tree
import Crosswalk.Release
import Crosswalk.Row
import Crosswalk.Settings.Assignments
import Crosswalk.Settings.Basic
import Crosswalk.Source.Basic
import Crosswalk.Source.Catalog
import Crosswalk.Source.Column
import Crosswalk.Source.Delimited
import Crosswalk.Source.Leaves
import Crosswalk.Source.Read
import Crosswalk.Source.Stream
import Crosswalk.Source.Worksheet
import Crosswalk.Text.Blank
import Crosswalk.Text.Case
import Crosswalk.Text.CaseTables
import Crosswalk.Text.Digits
import Crosswalk.Text.Identifier
import Crosswalk.Text.Lines
import Crosswalk.Text.NormalForm
import Crosswalk.Text.NormalTables
import Crosswalk.Text.Printable
import Crosswalk.Text.Quoted
import Crosswalk.Text.Search
import Crosswalk.Text.Split
import Crosswalk.Text.Utf8
import Crosswalk.Xml.Declarations
import Crosswalk.Xml.Document
import Crosswalk.Xml.Encoding
import Crosswalk.Xml.File
import Crosswalk.Xml.Name
import Crosswalk.Xml.Node
