import RowSieve.Bounded
import RowSieve.Calendar.Date
import RowSieve.Calendar.DateTime
import RowSieve.Calendar.Instant
import RowSieve.Calendar.Reading
import RowSieve.Calendar.Written
import RowSieve.Calendar.Zone
import RowSieve.Criteria.Book
import RowSieve.Criteria.Builder
import RowSieve.Evaluation.Column
import RowSieve.Evaluation.Failure
import RowSieve.Evaluation.Mask
import RowSieve.Evaluation.Ordering
import RowSieve.Evaluation.Selection
import RowSieve.Evaluation.TextForm
import RowSieve.Filter.Basic
import RowSieve.Filter.Compilation
import RowSieve.Filter.Condition
import RowSieve.Filter.Exchange
import RowSieve.Filter.Rendering
import RowSieve.Filter.Scalar
import RowSieve.Json.Fault
import RowSieve.Json.Numeral
import RowSieve.Json.Reading
import RowSieve.Json.Record
import RowSieve.Json.Writing
import RowSieve.Log
import RowSieve.Number.Binary64
import RowSieve.Number.Decimal
import RowSieve.Number.Shortest
import RowSieve.Predicate.Basic
import RowSieve.Predicate.Conjunction
import RowSieve.Predicate.FieldPath
import RowSieve.Predicate.Literal
import RowSieve.Predicate.Rendering
import RowSieve.Proofs.Attempt
import RowSieve.Proofs.Criteria.Holding
import RowSieve.Proofs.Criteria.Selection
import RowSieve.Proofs.Evaluation.Kept
import RowSieve.Proofs.Evaluation.Meaning
import RowSieve.Proofs.Evaluation.RowByRow
import RowSieve.Sorted
import RowSieve.Storage.File
import RowSieve.Storage.Reading
import RowSieve.Storage.Settings
import RowSieve.Table.ColumnType
import RowSieve.Table.Row
import RowSieve.Text.Blank
import RowSieve.Text.CaseTable
import RowSieve.Text.Lowercase
import RowSieve.Text.Pattern
import RowSieve.Text.PrintTable
import RowSieve.Text.Quoted
import RowSieve.Text.Ranges
import RowSieve.Text.Segment
import RowSieve.Text.Shown
import RowSieve.Truth
import RowSieve.Proofs.Calendar.DayBounds
import RowSieve.Proofs.Filter.WholeDays
import RowSieve.Proofs.Json.Numbers
import RowSieve.Proofs.Json.Strings
import RowSieve.Proofs.Json.Records
import RowSieve.Proofs.Calendar.ReadBack
import RowSieve.Proofs.Filter.RoundTrip
import RowSieve.Proofs.Evaluation.Evaluable
import RowSieve.Proofs.Storage.Pieces
import RowSieve.Proofs.Evaluation.Dependence
import RowSieve.Proofs.Storage.Projection
import RowSieve.Proofs.Json.Denotation
import RowSieve.Proofs.Json.Objects
import RowSieve.Proofs.Filter.Acceptance
import RowSieve.Proofs.Calendar.DayNumbers
import RowSieve.Proofs.Filter.Recovery
import RowSieve.Proofs.Criteria.Recovery
import RowSieve.Proofs.Predicate.LiteralText
import RowSieve.Proofs.Predicate.Legibility
import RowSieve.Proofs.Calendar.Ticks
import RowSieve.Proofs.Evaluation.Comparing
import RowSieve.Proofs.Evaluation.Exactness
import RowSieve.Proofs.Text.Matching
import RowSieve.Proofs.Evaluation.TextColumns
import RowSieve.Proofs.Text.LowercaseParts
import RowSieve.Proofs.Filter.TextSearch
import RowSieve.Proofs.Evaluation.Conjunctions
import RowSieve.Proofs.Predicate.NormalForm
import RowSieve.Proofs.Evaluation.Shortcuts
import RowSieve.Proofs.Filter.Histories
import RowSieve.Proofs.Evaluation.Relations
import RowSieve.Proofs.Filter.MissingFields
import RowSieve.Proofs.Evaluation.FirstFailure
import RowSieve.Proofs.Calendar.Chronology
import RowSieve.Proofs.Evaluation.Trichotomy
import RowSieve.Proofs.Evaluation.Alternatives
import RowSieve.Proofs.Filter.Contradictions
import RowSieve.Proofs.Evaluation.Gaps
import RowSieve.Proofs.Filter.Assignments
import RowSieve.Proofs.Filter.Capabilities
import RowSieve.Proofs.Json.Positions
import RowSieve.Proofs.Criteria.EitherForm
import RowSieve.Proofs.Calendar.Moments
import RowSieve.Proofs.Evaluation.StoredDates
import RowSieve.Proofs.Filter.PatternTexts
import RowSieve.Proofs.Calendar.Succession
import RowSieve.Proofs.Predicate.DateLiterals
import RowSieve.Proofs.Predicate.DateLiterals
