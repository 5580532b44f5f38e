import Logbook.Cli.Options
import Logbook.Cli.Report
import Logbook.Cli.Session
import Logbook.Entry.Basic
import Logbook.Entry.Names
import Logbook.Entry.Shape
import Logbook.Entry.Tagged
import Logbook.Entry.View
import Logbook.Field.Compare
import Logbook.Field.Lookup
import Logbook.Field.Value
import Logbook.File
import Logbook.Index.Basic
import Logbook.Index.Keywords
import Logbook.Ingest
import Logbook.Json.Basic
import Logbook.Json.Draft
import Logbook.Json.Number
import Logbook.Json.Text
import Logbook.Main
import Logbook.Number.Decimal
import Logbook.Number.Double
import Logbook.Pattern.Ages
import Logbook.Pattern.Basic
import Logbook.Pattern.Breaks
import Logbook.Pattern.CaseFold
import Logbook.Pattern.Categories
import Logbook.Pattern.CharSet
import Logbook.Pattern.Compile
import Logbook.Pattern.NamedSet
import Logbook.Pattern.Plain
import Logbook.Pattern.Program
import Logbook.Pattern.Properties
import Logbook.Pattern.Reader
import Logbook.Pattern.Room
import Logbook.Pattern.Scripts
import Logbook.Proofs.Cli.Report
import Logbook.Proofs.Entry.Classes
import Logbook.Proofs.Entry.Drafts
import Logbook.Proofs.Entry.Paths
import Logbook.Proofs.Entry.Records
import Logbook.Proofs.Entry.RoundTrip
import Logbook.Proofs.Entry.Sound
import Logbook.Proofs.Entry.Times
import Logbook.Proofs.File.Encoding
import Logbook.Proofs.File.Lines
import Logbook.Proofs.Index.Answers
import Logbook.Proofs.Index.Bounds
import Logbook.Proofs.Index.Candidates
import Logbook.Proofs.Index.Contents
import Logbook.Proofs.Index.Dates
import Logbook.Proofs.Index.History
import Logbook.Proofs.Index.Mirror
import Logbook.Proofs.Index.Ranges
import Logbook.Proofs.Index.Slots
import Logbook.Proofs.Json.Members
import Logbook.Proofs.Json.WellFormed
import Logbook.Proofs.Number.Digits
import Logbook.Proofs.Number.Shown
import Logbook.Proofs.Number.Whole
import Logbook.Proofs.Query.Answers
import Logbook.Proofs.Query.Cutting
import Logbook.Proofs.Query.Enclosing
import Logbook.Proofs.Query.Grammar
import Logbook.Proofs.Query.Grouping
import Logbook.Proofs.Query.Meaning
import Logbook.Proofs.Query.Nesting
import Logbook.Proofs.Query.Numerals
import Logbook.Proofs.Query.Opposites
import Logbook.Proofs.Query.Order
import Logbook.Proofs.Query.Places
import Logbook.Proofs.Query.Reading
import Logbook.Proofs.Query.Signs
import Logbook.Proofs.Query.Spacing
import Logbook.Proofs.Query.Spans
import Logbook.Proofs.Query.Strict
import Logbook.Proofs.Query.Unclosed
import Logbook.Proofs.Query.WellFormed
import Logbook.Proofs.Query.Writing
import Logbook.Proofs.Search.Counting
import Logbook.Proofs.Search.Edits
import Logbook.Proofs.Search.Hits
import Logbook.Proofs.Search.Near
import Logbook.Proofs.Search.Order
import Logbook.Proofs.Search.Phrases
import Logbook.Proofs.Search.Points
import Logbook.Proofs.Search.Quotes
import Logbook.Proofs.Search.Stems
import Logbook.Proofs.Search.Unknown
import Logbook.Proofs.Search.Wording
import Logbook.Proofs.Store.Growth
import Logbook.Proofs.Store.History
import Logbook.Proofs.Store.Instants
import Logbook.Proofs.Store.Responses
import Logbook.Proofs.Text.Finding
import Logbook.Proofs.Text.Lowering
import Logbook.Proofs.Text.Quoting
import Logbook.Proofs.Text.SmallLetters
import Logbook.Proofs.Text.Trimming
import Logbook.Proofs.Time.Calendar
import Logbook.Proofs.Time.Span
import Logbook.Proofs.Time.Written
import Logbook.Query.Basic
import Logbook.Query.Eval
import Logbook.Query.Fault
import Logbook.Query.Outcome
import Logbook.Query.Parser
import Logbook.Query.Token
import Logbook.Search.EditDistance
import Logbook.Search.Rank
import Logbook.Search.Terms
import Logbook.Settings
import Logbook.Store
import Logbook.Text.Blank
import Logbook.Text.ByteRuns
import Logbook.Text.Case
import Logbook.Text.Property
import Logbook.Text.Quoted
import Logbook.Text.RangeAlgebra
import Logbook.Text.Ranges
import Logbook.Time.Calendar
import Logbook.Time.Instant
