import Scorebook.Answer.Desk
import Scorebook.Answer.Plan
import Scorebook.Answer.Response
import Scorebook.Answer.Table
import Scorebook.Catalogue.Basic
import Scorebook.Catalogue.BuiltIn
import Scorebook.Catalogue.Consistency
import Scorebook.Catalogue.Document
import Scorebook.Catalogue.Label
import Scorebook.Command.Arguments
import Scorebook.Command.Session
import Scorebook.Conversation.Chat
import Scorebook.Conversation.Extraction
import Scorebook.Conversation.Narration
import Scorebook.Conversation.Prompt
import Scorebook.Conversation.Reply
import Scorebook.Dict
import Scorebook.Digest.Sha256
import Scorebook.Intent.Basic
import Scorebook.Intent.Reader
import Scorebook.Intent.Rejection
import Scorebook.Intent.Strategy
import Scorebook.Intent.Validation
import Scorebook.Intent.Vocabulary
import Scorebook.Journal.Event
import Scorebook.Journal.Filter
import Scorebook.Json.Basic
import Scorebook.Json.Literal
import Scorebook.Json.Printer
import Scorebook.Json.Reader
import Scorebook.Main
import Scorebook.Number.Binary64
import Scorebook.Number.Range
import Scorebook.Number.Shortest
import Scorebook.Proofs.Answer.Calls
import Scorebook.Proofs.Answer.Cells
import Scorebook.Proofs.Answer.Classification
import Scorebook.Proofs.Answer.Columns
import Scorebook.Proofs.Answer.Counting
import Scorebook.Proofs.Answer.Decimals
import Scorebook.Proofs.Answer.Failures
import Scorebook.Proofs.Answer.Situations
import Scorebook.Proofs.Catalogue.Consistency
import Scorebook.Proofs.Catalogue.RoundTrip
import Scorebook.Proofs.Conversation.Advertised
import Scorebook.Proofs.Conversation.Attempts
import Scorebook.Proofs.Conversation.Wrapping
import Scorebook.Proofs.Intent.Acceptance
import Scorebook.Proofs.Intent.Fingerprint
import Scorebook.Proofs.Intent.Grammar
import Scorebook.Proofs.Intent.Readers
import Scorebook.Proofs.Intent.Stability
import Scorebook.Proofs.Intent.Written
import Scorebook.Proofs.Json.RoundTrip
import Scorebook.Proofs.Lookup
import Scorebook.Proofs.Number.Nearest
import Scorebook.Proofs.Number.Rounding
import Scorebook.Proofs.Number.Thousandths
import Scorebook.Proofs.Outcome
import Scorebook.Proofs.Query.Answerable
import Scorebook.Proofs.Query.Clauses
import Scorebook.Proofs.Query.Compile
import Scorebook.Proofs.Query.Conditions
import Scorebook.Proofs.Query.Defaults
import Scorebook.Proofs.Query.Grouping
import Scorebook.Proofs.Query.Marks
import Scorebook.Proofs.Query.Outputs
import Scorebook.Proofs.Query.Placeholders
import Scorebook.Proofs.Query.Projection
import Scorebook.Proofs.Query.Rendering
import Scorebook.Proofs.Query.Shape
import Scorebook.Proofs.Query.Statistics
import Scorebook.Proofs.Query.Values
import Scorebook.Proofs.Query.Words
import Scorebook.Proofs.Query.Written
import Scorebook.Proofs.Text.LowerCase
import Scorebook.Proofs.Text.Trimming
import Scorebook.Proofs.Warehouse.Widths
import Scorebook.Query.Aggregated
import Scorebook.Query.Compile
import Scorebook.Query.EventLevel
import Scorebook.Query.Param
import Scorebook.Query.Positional
import Scorebook.Query.Slot
import Scorebook.Query.Statement
import Scorebook.Query.Tally
import Scorebook.Settings.Basic
import Scorebook.Settings.Document
import Scorebook.Settings.EnvFile
import Scorebook.Settings.Environment
import Scorebook.Settings.Load
import Scorebook.Text.Alphanumeric
import Scorebook.Text.Blank
import Scorebook.Text.Case
import Scorebook.Text.Search
import Scorebook.Text.Utf8
import Scorebook.Warehouse.Cell
import Scorebook.Warehouse.Failure
import Scorebook.Warehouse.ResultSet
import Scorebook.Yaml.Decode
import Scorebook.Yaml.Layout
import Scorebook.Yaml.Meaning
import Scorebook.Yaml.Node
import Scorebook.Yaml.Place
import Scorebook.Yaml.Scalar
import Scorebook.Yaml.Token
