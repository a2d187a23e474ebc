import SqlGateway.Text.Alphabetic
import SqlGateway.Text.Numeric
import SqlGateway.Text.WordChar
import SqlGateway.Text.Case
import SqlGateway.Text.Blank
import SqlGateway.Sql.Comment
import SqlGateway.Decimal.Layout
import SqlGateway.Decimal.Read
import SqlGateway.Json.Printer
import SqlGateway.Json.Reader
import SqlGateway.Sql.Token
import SqlGateway.Statement.Basic
import SqlGateway.Log
import SqlGateway.Statement.Parse
import SqlGateway.Statement.Data
import SqlGateway.Policy.Setting
import SqlGateway.Scope.Guard
import SqlGateway.Gate.Data
import SqlGateway.Query.Shape
import SqlGateway.Query.Placeholder
import SqlGateway.Query.Redaction
import SqlGateway.Policy.Live
import SqlGateway.Policy.ConnectionString
import SqlGateway.Toml.Datetime
import SqlGateway.Toml.Basic
import SqlGateway.Toml.Writer
import SqlGateway.Toml.Lexeme
import SqlGateway.Toml.Reader
import SqlGateway.Policy.ConfigFile
import SqlGateway.Dotenv
import SqlGateway.Policy.Variables
import SqlGateway.Server.Basic
import SqlGateway.Session.Basic
import SqlGateway.Session.Pool
import SqlGateway.Session.Query
import SqlGateway.Session.Switch
import SqlGateway.Session.Registry
import SqlGateway.Server.Scripted
import SqlGateway.Text.Visible
import SqlGateway.Files
import SqlGateway.Log.Line
import SqlGateway.Log.Filter
import SqlGateway.Log.File
import SqlGateway.Policy.Sources
import SqlGateway.Server.Unreachable
import SqlGateway.Cli.Options
import SqlGateway.Cli.Arguments
import SqlGateway.Cli.Places
import SqlGateway.Cli.Parameters
import SqlGateway.Cli.Program
import SqlGateway.Main
import SqlGateway.Proofs.Sql.Break
import SqlGateway.Proofs.Sql.Escape
import SqlGateway.Proofs.Sql.Scan
import SqlGateway.Proofs.Sql.Section
import SqlGateway.Proofs.Statement.Combination
import SqlGateway.Proofs.Sql.Stripping
import SqlGateway.Proofs.Statement.Boundary
import SqlGateway.Proofs.Statement.Concatenation
import SqlGateway.Proofs.Statement.Destructive
import SqlGateway.Proofs.Gate.Refusal
import SqlGateway.Proofs.Session.HardBlock
import SqlGateway.Proofs.Sql.Beginning
import SqlGateway.Proofs.Sql.Entering
import SqlGateway.Proofs.Sql.Literal
import SqlGateway.Proofs.Statement.Blind
import SqlGateway.Proofs.Statement.Independence
import SqlGateway.Proofs.Text.Letter
import SqlGateway.Proofs.Text.Phrase
import SqlGateway.Proofs.Text.CaseTable
import SqlGateway.Proofs.Text.Case
import SqlGateway.Proofs.Session.Admission
import SqlGateway.Proofs.Session.Sending
import SqlGateway.Proofs.Session.FailClosed
import SqlGateway.Proofs.Scope.TablePosition
import SqlGateway.Proofs.Scope.Isolation
import SqlGateway.Proofs.Scope.QualifiedName
import SqlGateway.Proofs.Scope.Masking
import SqlGateway.Proofs.Scope.ReferenceName
import SqlGateway.Proofs.Scope.Backticks
import SqlGateway.Proofs.Scope.ClauseWord
import SqlGateway.Proofs.Scope.FromList
import SqlGateway.Proofs.Sql.Seam
import SqlGateway.Proofs.Scope.Concealment
import SqlGateway.Proofs.Gate.Monotonicity
import SqlGateway.Proofs.Policy.Fingerprint
import SqlGateway.Proofs.Session.Staleness
import SqlGateway.Proofs.Session.Interference
import SqlGateway.Proofs.Session.Connection
import SqlGateway.Proofs.Session.Course
import SqlGateway.Proofs.Session.Ledger
import SqlGateway.Proofs.Session.Renewal
import SqlGateway.Proofs.Policy.Update
import SqlGateway.Proofs.Session.Switching
import SqlGateway.Proofs.Session.Transaction
import SqlGateway.Proofs.Session.TransactionTrace
import SqlGateway.Proofs.Session.Impartial
import SqlGateway.Proofs.Session.Service
import SqlGateway.Proofs.Session.Demand
import SqlGateway.Proofs.Session.Tenants
import SqlGateway.Proofs.Session.Disclosure
import SqlGateway.Proofs.Sql.Bare
import SqlGateway.Proofs.Sql.Number
import SqlGateway.Proofs.Sql.Operator
import SqlGateway.Proofs.Sql.Outside
import SqlGateway.Proofs.Statement.Bareness
import SqlGateway.Proofs.Statement.Joining
import SqlGateway.Proofs.Gate.Explained
import SqlGateway.Proofs.Gate.OpenQuote
import SqlGateway.Proofs.Policy.History
import SqlGateway.Proofs.Sql.Unclosed
import SqlGateway.Proofs.Statement.NormalForm
import SqlGateway.Proofs.Statement.Qualified
import SqlGateway.Proofs.Statement.Representation
import SqlGateway.Proofs.Gate.Answer
import SqlGateway.Proofs.Gate.Search
import SqlGateway.Proofs.Gate.Pattern
import SqlGateway.Proofs.Gate.Delimited
import SqlGateway.Proofs.Scope.OwnDatabase
import SqlGateway.Proofs.Session.Fallback
import SqlGateway.Proofs.Session.Sticky
import SqlGateway.Proofs.Session.Shortcut
import SqlGateway.Proofs.Query.Binding
import SqlGateway.Proofs.Query.Scanning
import SqlGateway.Proofs.Query.Balance
import SqlGateway.Proofs.Query.Marks
import SqlGateway.Proofs.Query.Opening
import SqlGateway.Proofs.Query.PasswordLiteral
import SqlGateway.Proofs.Policy.AnyOrder
import SqlGateway.Proofs.Statement.FromClause
import SqlGateway.Proofs.Gate.Impact
import SqlGateway.Proofs.Policy.WriteBack
import SqlGateway.Proofs.Policy.Precedence
import SqlGateway.Proofs.Url.Escape
import SqlGateway.Proofs.Policy.Credentials
import SqlGateway.Proofs.Query.StableColumns
import SqlGateway.Proofs.Decimal.Digits
import SqlGateway.Proofs.Decimal.Rounding
import SqlGateway.Proofs.Query.WholeNumber
