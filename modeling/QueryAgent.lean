import QueryAgent.Agent.Assembly
import QueryAgent.Agent.Controller
import QueryAgent.Agent.Identity
import QueryAgent.Agent.Loops
import QueryAgent.Agent.Startup
import QueryAgent.Agent.Ticker
import QueryAgent.Backend
import QueryAgent.Backend.Session
import QueryAgent.Calendar
import QueryAgent.Cli.Arguments
import QueryAgent.Cli.Display
import QueryAgent.Cli.Program
import QueryAgent.Cli.Setting
import QueryAgent.Cli.Usage
import QueryAgent.Config.Basic
import QueryAgent.Config.Document
import QueryAgent.Config.LogFormat
import QueryAgent.Connector.Basic
import QueryAgent.Connector.Pooled
import QueryAgent.Connector.Settings
import QueryAgent.Controller.Address
import QueryAgent.Controller.Client
import QueryAgent.Data.ResultSet
import QueryAgent.Data.Value
import QueryAgent.Dictionary
import QueryAgent.Error
import QueryAgent.Job.Basic
import QueryAgent.Job.Dispatch
import QueryAgent.Json.Basic
import QueryAgent.Json.Decode
import QueryAgent.Json.Fault
import QueryAgent.Json.Node
import QueryAgent.Json.Reader
import QueryAgent.Json.Writer
import QueryAgent.Logging.Field
import QueryAgent.Logging.Filter
import QueryAgent.Logging.Pattern
import QueryAgent.Main
import QueryAgent.Mock.Comparison
import QueryAgent.Mock.Pattern
import QueryAgent.Mock.Session
import QueryAgent.Mock.Store
import QueryAgent.Mysql.Cell
import QueryAgent.Mysql.Options
import QueryAgent.Mysql.Session
import QueryAgent.Number.Binary64
import QueryAgent.Number.Plain
import QueryAgent.Number.Scaled
import QueryAgent.Number.Shortest
import QueryAgent.Postgres.ColumnType
import QueryAgent.Postgres.ConnectionString
import QueryAgent.Postgres.Decode
import QueryAgent.Postgres.Interval
import QueryAgent.Postgres.Literal
import QueryAgent.Postgres.Network
import QueryAgent.Postgres.Numeric
import QueryAgent.Postgres.Session
import QueryAgent.Postgres.Wire
import QueryAgent.Proofs.Agent.Cancellation
import QueryAgent.Proofs.Agent.Cycles
import QueryAgent.Proofs.Agent.Interleaving
import QueryAgent.Proofs.Agent.Pace
import QueryAgent.Proofs.Agent.Rounds
import QueryAgent.Proofs.Agent.Shutdown
import QueryAgent.Proofs.Calendar.DayNumbers
import QueryAgent.Proofs.Calendar.Gregorian
import QueryAgent.Proofs.Calendar.Reading
import QueryAgent.Proofs.Cli.Colors
import QueryAgent.Proofs.Cli.Tables
import QueryAgent.Proofs.Config.Foresight
import QueryAgent.Proofs.Connector.Addresses
import QueryAgent.Proofs.Connector.Failures
import QueryAgent.Proofs.Connector.LifeCycle
import QueryAgent.Proofs.Connector.Materialization
import QueryAgent.Proofs.Controller.BasePaths
import QueryAgent.Proofs.Controller.Exchange
import QueryAgent.Proofs.Controller.JobAddresses
import QueryAgent.Proofs.Controller.PollReplies
import QueryAgent.Proofs.Data.Binary
import QueryAgent.Proofs.Data.Roundtrip
import QueryAgent.Proofs.Data.RowCount
import QueryAgent.Proofs.Job.Outcomes
import QueryAgent.Proofs.Json.Controls
import QueryAgent.Proofs.Json.Doubles
import QueryAgent.Proofs.Json.Grammar
import QueryAgent.Proofs.Json.Layout
import QueryAgent.Proofs.Json.Literals
import QueryAgent.Proofs.Json.Objects
import QueryAgent.Proofs.Json.Positional
import QueryAgent.Proofs.Json.Records
import QueryAgent.Proofs.Json.Texts
import QueryAgent.Proofs.Json.Tree
import QueryAgent.Proofs.Json.Values
import QueryAgent.Proofs.Mock.Answers
import QueryAgent.Proofs.Mock.NullLogic
import QueryAgent.Proofs.Mock.Patterns
import QueryAgent.Proofs.Mock.StatementLog
import QueryAgent.Proofs.Mock.WholeRows
import QueryAgent.Proofs.Mysql.Cells
import QueryAgent.Proofs.Number.Nearest
import QueryAgent.Proofs.Number.Rounding
import QueryAgent.Proofs.Number.Scaled
import QueryAgent.Proofs.Number.ShortestDecimal
import QueryAgent.Proofs.Postgres.ArrayLiteral
import QueryAgent.Proofs.Postgres.Arrays
import QueryAgent.Proofs.Postgres.BigEndian
import QueryAgent.Proofs.Postgres.Dates
import QueryAgent.Proofs.Postgres.ExactNumbers
import QueryAgent.Proofs.Postgres.Forms
import QueryAgent.Proofs.Postgres.IntervalReading
import QueryAgent.Proofs.Postgres.IntervalWords
import QueryAgent.Proofs.Postgres.Intervals
import QueryAgent.Proofs.Postgres.Malformed
import QueryAgent.Proofs.Postgres.Networks
import QueryAgent.Proofs.Postgres.NumericDigits
import QueryAgent.Proofs.Postgres.Queries
import QueryAgent.Proofs.Postgres.Readable
import QueryAgent.Proofs.Postgres.Settings
import QueryAgent.Proofs.Postgres.SslMode
import QueryAgent.Proofs.Postgres.TimesOfDay
import QueryAgent.Proofs.Postgres.UnmappedTypes
import QueryAgent.Proofs.Query.Acceptance
import QueryAgent.Proofs.Query.Conditions
import QueryAgent.Proofs.Query.Documents
import QueryAgent.Proofs.Query.Layout
import QueryAgent.Proofs.Query.Numbers
import QueryAgent.Proofs.Query.ParamTexts
import QueryAgent.Proofs.Query.Shapes
import QueryAgent.Proofs.Query.Validity
import QueryAgent.Proofs.Sql.Alignment
import QueryAgent.Proofs.Sql.Clauses
import QueryAgent.Proofs.Sql.Confinement
import QueryAgent.Proofs.Sql.Execution
import QueryAgent.Proofs.Sql.Markers
import QueryAgent.Proofs.Sql.Names
import QueryAgent.Proofs.Sql.Pieces
import QueryAgent.Proofs.Sql.Translation
import QueryAgent.Proofs.Sql.Unambiguous
import QueryAgent.Proofs.Sql.Written
import QueryAgent.Proofs.Text.Address
import QueryAgent.Proofs.Text.Clock
import QueryAgent.Proofs.Text.Decimal
import QueryAgent.Proofs.Text.Escapes
import QueryAgent.Proofs.Text.Marks
import QueryAgent.Proofs.Text.Padding
import QueryAgent.Proofs.Text.Split
import QueryAgent.Proofs.Text.Utf8
import QueryAgent.Proofs.Url.Joining
import QueryAgent.Proofs.Url.Percent
import QueryAgent.Proofs.Url.Reading
import QueryAgent.Proofs.Url.Segments
import QueryAgent.Proofs.Url.Slashes
import QueryAgent.Proofs.Url.Web
import QueryAgent.Query.Basic
import QueryAgent.Query.Operator
import QueryAgent.Query.Param
import QueryAgent.Query.Payload
import QueryAgent.Query.Validation
import QueryAgent.Sql.Dialect
import QueryAgent.Sql.Statement
import QueryAgent.Text.Address
import QueryAgent.Text.Alphanumeric
import QueryAgent.Text.Ansi
import QueryAgent.Text.Base64
import QueryAgent.Text.Blank
import QueryAgent.Text.CanonicalForm
import QueryAgent.Text.CodePointMap
import QueryAgent.Text.CodePointSet
import QueryAgent.Text.CombiningClass
import QueryAgent.Text.Composition
import QueryAgent.Text.Digits
import QueryAgent.Text.Direction
import QueryAgent.Text.Joining
import QueryAgent.Text.Letter
import QueryAgent.Text.LowerCase
import QueryAgent.Text.Quoted
import QueryAgent.Text.Split
import QueryAgent.Text.Unprintable
import QueryAgent.Text.Utf8
import QueryAgent.Text.Uuid
import QueryAgent.Url.Basic
import QueryAgent.Url.Host
import QueryAgent.Url.Label
import QueryAgent.Url.Name
import QueryAgent.Url.NameTable
import QueryAgent.Url.Parser
import QueryAgent.Url.Percent
import QueryAgent.Url.Punycode
import QueryAgent.Url.Segment
