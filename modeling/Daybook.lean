import Daybook.Json.Stored
import Daybook.Main
import Daybook.Session
import Daybook.Written
import Daybook.Proofs.Evaluation.Leftmost
import Daybook.Proofs.Evaluation.Pointwise
import Daybook.Proofs.Evaluation.Soundness
import Daybook.Proofs.Reading.RoundTrip
import Daybook.Proofs.Session.Statistics
import Daybook.Proofs.Template.Delimiters
import Daybook.Proofs.Template.Lint
import Daybook.Proofs.Calendar.Range
import Daybook.Proofs.Calendar.Written
import Daybook.Proofs.Loading.Axis
import Daybook.Proofs.Loading.Entries
import Daybook.Proofs.Loading.Faults
import Daybook.Proofs.Reading.Grammar
import Daybook.Proofs.Reading.Phrases
import Daybook.Proofs.Reading.Segments
import Daybook.Proofs.Reading.Within
import Daybook.Proofs.Reading.Statements
import Daybook.Proofs.Reading.Faithful
import Daybook.Proofs.Json.Strings
import Daybook.Proofs.Json.Numbers
import Daybook.Proofs.Json.RoundTrip
import Daybook.Proofs.Json.Canonical
import Daybook.Proofs.Session.Registration
import Daybook.Proofs.Session.Frame
import Daybook.Proofs.Evaluation.Kinds
import Daybook.Proofs.Template.Report
import Daybook.Proofs.Summary.Runs
import Daybook.Proofs.Template.Spans
import Daybook.Proofs.Command.Channels
import Daybook.Proofs.Series.Extremes
import Daybook.Proofs.Series.Incremental
import Daybook.Proofs.Summary.Current
import Daybook.Proofs.Operation.Checked
import Daybook.Proofs.Template.Log
import Daybook.Proofs.Template.PlainNumber
import Daybook.Proofs.Series.Lookup
import Daybook.Proofs.Series.Totals
import Daybook.Proofs.Series.UnitRange
import Daybook.Proofs.Summary.ExtremeDays
import Daybook.Proofs.Summary.Mirrored
import Daybook.Proofs.Evaluation.Average
import Daybook.Proofs.Evaluation.Leading
import Daybook.Proofs.Loading.Ids
import Daybook.Proofs.Summary.Variance
import Daybook.Proofs.Summary.Rearranged
import Daybook.Proofs.Operation.Remainder
import Daybook.Proofs.Format.Date
import Daybook.Proofs.Format.Filled
import Daybook.Proofs.Format.Number
import Daybook.Proofs.Format.Pattern
