import RecordQuery.Main
import RecordQuery.Proofs.Calendar.Apart
import RecordQuery.Proofs.Calendar.Refusal
import RecordQuery.Proofs.Calendar.Stored
import RecordQuery.Proofs.Calendar.Written
import RecordQuery.Proofs.CommandLine.Isolation
import RecordQuery.Proofs.CommandLine.Labels
import RecordQuery.Proofs.CommandLine.Listed
import RecordQuery.Proofs.CommandLine.Report
import RecordQuery.Proofs.CommandLine.Run
import RecordQuery.Proofs.CommandLine.Undeclared
import RecordQuery.Proofs.Cursor.Boundary
import RecordQuery.Proofs.Cursor.Operand
import RecordQuery.Proofs.Cursor.Place
import RecordQuery.Proofs.Cursor.Scan
import RecordQuery.Proofs.Cursor.StringLiteral
import RecordQuery.Proofs.Cursor.Token
import RecordQuery.Proofs.Document.Plain
import RecordQuery.Proofs.Double.Bits
import RecordQuery.Proofs.Double.Decimal
import RecordQuery.Proofs.Double.Monotone
import RecordQuery.Proofs.Double.Nearest
import RecordQuery.Proofs.Double.Overflow
import RecordQuery.Proofs.Double.Shortest
import RecordQuery.Proofs.Double.Written
import RecordQuery.Proofs.Files.Addition
import RecordQuery.Proofs.Files.Below
import RecordQuery.Proofs.Files.Collect
import RecordQuery.Proofs.Files.Exclusion
import RecordQuery.Proofs.Files.Found
import RecordQuery.Proofs.Files.Hidden
import RecordQuery.Proofs.Files.Path
import RecordQuery.Proofs.Files.Resolution
import RecordQuery.Proofs.Files.Respelling
import RecordQuery.Proofs.Files.Walk
import RecordQuery.Proofs.Files.WalkAddition
import RecordQuery.Proofs.Grammar.Comparison
import RecordQuery.Proofs.Grammar.Completeness
import RecordQuery.Proofs.Grammar.Leaves
import RecordQuery.Proofs.Grammar.Literal
import RecordQuery.Proofs.Grammar.Parse
import RecordQuery.Proofs.Grammar.Primary
import RecordQuery.Proofs.Grammar.Soundness
import RecordQuery.Proofs.Grammar.Token
import RecordQuery.Proofs.Grammar.Tree
import RecordQuery.Proofs.Listing.Counts
import RecordQuery.Proofs.Listing.Equality
import RecordQuery.Proofs.Listing.Order
import RecordQuery.Proofs.Predicate.Accepted
import RecordQuery.Proofs.Predicate.Bracketing
import RecordQuery.Proofs.Predicate.Failure
import RecordQuery.Proofs.Predicate.FieldName
import RecordQuery.Proofs.Predicate.Filter
import RecordQuery.Proofs.Predicate.Image
import RecordQuery.Proofs.Predicate.Joined
import RecordQuery.Proofs.Predicate.Meaning
import RecordQuery.Proofs.Predicate.MissingValues
import RecordQuery.Proofs.Predicate.Negation
import RecordQuery.Proofs.Predicate.Operators
import RecordQuery.Proofs.Predicate.Rearrangement
import RecordQuery.Proofs.Predicate.Refusal
import RecordQuery.Proofs.Predicate.Reparse
import RecordQuery.Proofs.Predicate.RoundTrip
import RecordQuery.Proofs.Predicate.Scalar
import RecordQuery.Proofs.Predicate.Spelling
import RecordQuery.Proofs.Predicate.Structure
import RecordQuery.Proofs.Record
import RecordQuery.Proofs.Record.Agreement
import RecordQuery.Proofs.Record.Case
import RecordQuery.Proofs.Record.Entries
import RecordQuery.Proofs.Record.Outcome
import RecordQuery.Proofs.Record.Refusal
import RecordQuery.Proofs.Result
import RecordQuery.Proofs.Schema.Binding
import RecordQuery.Proofs.Schema.Conversion
import RecordQuery.Proofs.Schema.Outcome
import RecordQuery.Proofs.Schema.Printing
import RecordQuery.Proofs.Schema.Rejection
import RecordQuery.Proofs.Schema.Soundness
import RecordQuery.Proofs.Schema.Temporal
import RecordQuery.Proofs.Sorting
import RecordQuery.Proofs.Storage.Form
import RecordQuery.Proofs.Storage.Predicate
import RecordQuery.Proofs.Storage.Value
import RecordQuery.Proofs.Text.Character
import RecordQuery.Proofs.Text.Digits
import RecordQuery.Proofs.Text.Lines
import RecordQuery.Proofs.Text.Quoted
import RecordQuery.Proofs.Text.Run
import RecordQuery.Proofs.Value.Comparable
import RecordQuery.Proofs.Value.Integer
import RecordQuery.Proofs.Value.Literal
import RecordQuery.Proofs.Value.Order
import RecordQuery.Proofs.Value.Refusal
import RecordQuery.Proofs.Value.Text
