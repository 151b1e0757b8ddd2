import SearchDesk.Check.Issue
import SearchDesk.Check.Value
import SearchDesk.Check.View
import SearchDesk.Cli.Command
import SearchDesk.Cli.Options
import SearchDesk.Cli.Run
import SearchDesk.Cli.Screen
import SearchDesk.Desk.Basic
import SearchDesk.Desk.Configuration
import SearchDesk.Desk.Queries
import SearchDesk.Desk.Samples
import SearchDesk.Entries
import SearchDesk.Files.Directory
import SearchDesk.Files.Path
import SearchDesk.Json.Basic
import SearchDesk.Json.Display
import SearchDesk.Json.Equality
import SearchDesk.Json.Printer
import SearchDesk.Json.Reader
import SearchDesk.Logging.Hierarchy
import SearchDesk.Logging.Level
import SearchDesk.Logging.Setup
import SearchDesk.Main
import SearchDesk.Number.Binary64
import SearchDesk.Number.Layout
import SearchDesk.Number.Shortest
import SearchDesk.Proofs.Buckets
import SearchDesk.Proofs.Check.Valid
import SearchDesk.Proofs.Cli.Output
import SearchDesk.Proofs.Cli.Perform
import SearchDesk.Proofs.Cli.Sampling
import SearchDesk.Proofs.Cli.Screen
import SearchDesk.Proofs.Desk.Console
import SearchDesk.Proofs.Desk.FastPath
import SearchDesk.Proofs.Desk.KeyOrder
import SearchDesk.Proofs.Desk.Losses
import SearchDesk.Proofs.Desk.Perform
import SearchDesk.Proofs.Desk.Snapshot
import SearchDesk.Proofs.Desk.Storeless
import SearchDesk.Proofs.Entries
import SearchDesk.Proofs.Files.Writing
import SearchDesk.Proofs.Json.Comparison
import SearchDesk.Proofs.Json.Everywhere
import SearchDesk.Proofs.Json.Numbers
import SearchDesk.Proofs.Json.ReadBack
import SearchDesk.Proofs.Json.Readable
import SearchDesk.Proofs.Json.Reordered
import SearchDesk.Proofs.Json.Texts
import SearchDesk.Proofs.Logging.Calls
import SearchDesk.Proofs.Logging.Delivery
import SearchDesk.Proofs.Logging.Failure
import SearchDesk.Proofs.Logging.Names
import SearchDesk.Proofs.Logging.Package
import SearchDesk.Proofs.Logging.Places
import SearchDesk.Proofs.Number.ReadBack
import SearchDesk.Proofs.Number.Rounding
import SearchDesk.Proofs.Number.Share
import SearchDesk.Proofs.Order
import SearchDesk.Proofs.Outcome
import SearchDesk.Proofs.Query.Blueprint
import SearchDesk.Proofs.Query.Clauses
import SearchDesk.Proofs.Query.Descendants
import SearchDesk.Proofs.Query.Expression
import SearchDesk.Proofs.Query.FixedPoint
import SearchDesk.Proofs.Query.Itinerary
import SearchDesk.Proofs.Query.KeyOrder
import SearchDesk.Proofs.Query.Level
import SearchDesk.Proofs.Query.Losses
import SearchDesk.Proofs.Query.Meaning
import SearchDesk.Proofs.Query.Position
import SearchDesk.Proofs.Query.Pruning
import SearchDesk.Proofs.Query.Readable
import SearchDesk.Proofs.Query.SecondPass
import SearchDesk.Proofs.Query.Settled
import SearchDesk.Proofs.Query.Siblings
import SearchDesk.Proofs.Query.SimplifiedKeys
import SearchDesk.Proofs.Query.Subtree
import SearchDesk.Proofs.Query.Visited
import SearchDesk.Proofs.Schema.Conservation
import SearchDesk.Proofs.Schema.Denominators
import SearchDesk.Proofs.Schema.FieldList
import SearchDesk.Proofs.Schema.Findings
import SearchDesk.Proofs.Schema.Groups
import SearchDesk.Proofs.Schema.Joining
import SearchDesk.Proofs.Schema.Overrides
import SearchDesk.Proofs.Schema.Payloads
import SearchDesk.Proofs.Schema.Properties
import SearchDesk.Proofs.Schema.Readable
import SearchDesk.Proofs.Schema.Reading
import SearchDesk.Proofs.Schema.Redaction
import SearchDesk.Proofs.Schema.Refusals
import SearchDesk.Proofs.Schema.RoundTrip
import SearchDesk.Proofs.Schema.SampleOrder
import SearchDesk.Proofs.Schema.TableOfSample
import SearchDesk.Proofs.Schema.Tally
import SearchDesk.Proofs.Schema.TextForms
import SearchDesk.Proofs.Schema.Variants
import SearchDesk.Proofs.Settings.Loading
import SearchDesk.Proofs.Settings.Overriding
import SearchDesk.Query.Build
import SearchDesk.Query.Canonical
import SearchDesk.Query.Dialect
import SearchDesk.Query.Node
import SearchDesk.Query.Recipe
import SearchDesk.Schema.Detection
import SearchDesk.Schema.Kind
import SearchDesk.Schema.Listing
import SearchDesk.Schema.Preview
import SearchDesk.Schema.Report
import SearchDesk.Schema.Sample
import SearchDesk.Schema.Searchable
import SearchDesk.Schema.Storage
import SearchDesk.Schema.Suggestion
import SearchDesk.Schema.Table
import SearchDesk.Schema.Wire
import SearchDesk.Settings.Basic
import SearchDesk.Settings.Store
import SearchDesk.Text.Base64
import SearchDesk.Text.Blank
import SearchDesk.Text.Cased
import SearchDesk.Text.CodePoints
import SearchDesk.Text.Decimal
import SearchDesk.Text.Digit
import SearchDesk.Text.Halves
import SearchDesk.Text.Integer
import SearchDesk.Text.Lines
import SearchDesk.Text.LowerCase
import SearchDesk.Text.Printable
import SearchDesk.Text.Quoted
import SearchDesk.Text.Similar
import SearchDesk.Text.Utf8
import SearchDesk.Yaml.Cursor
import SearchDesk.Yaml.Document
import SearchDesk.Yaml.Fault
import SearchDesk.Yaml.Merge
import SearchDesk.Yaml.Node
import SearchDesk.Yaml.Scalar
import SearchDesk.Yaml.Tag
import SearchDesk.Yaml.Timestamp
import SearchDesk.Yaml.Token
import SearchDesk.Yaml.Value
