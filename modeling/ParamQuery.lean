import ParamQuery.BoundValue
import ParamQuery.Calendar.Date
import ParamQuery.Calendar.EpochMillis
import ParamQuery.Calendar.Moment
import ParamQuery.Comparison
import ParamQuery.Compiler
import ParamQuery.Conversion
import ParamQuery.DataType
import ParamQuery.DateText.Failure
import ParamQuery.DateText.Numeral
import ParamQuery.DateText.NumeralRule
import ParamQuery.DateText.Reading
import ParamQuery.DateText.Vocabulary
import ParamQuery.DateText.Word
import ParamQuery.DateText.WordRule
import ParamQuery.DateText.YearMonthDay
import ParamQuery.Fault
import ParamQuery.Filter
import ParamQuery.Issue
import ParamQuery.Number.Binary64
import ParamQuery.Number.Leading
import ParamQuery.Number.Written
import ParamQuery.Operator
import ParamQuery.Paging
import ParamQuery.RawValue
import ParamQuery.Registry
import ParamQuery.Schedule
import ParamQuery.Selection
import ParamQuery.SortKey
import ParamQuery.Statement
import ParamQuery.Text.Blank
import ParamQuery.Text.Case
import ParamQuery.Text.CaseTable
import ParamQuery.Text.DigitTable
import ParamQuery.Text.HiddenTable
import ParamQuery.Text.Letter
import ParamQuery.Text.LetterTable
import ParamQuery.Text.Pieces
import ParamQuery.Text.Quoted
import ParamQuery.Text.Ranges
import ParamQuery.Token
import ParamQuery.Proofs.Text.Trim
import ParamQuery.Proofs.Acceptance
import ParamQuery.Proofs.Success
import ParamQuery.Proofs.Text.Commas
import ParamQuery.Proofs.Text.Digits
import ParamQuery.Proofs.Placeholders
import ParamQuery.Proofs.ComparisonSyntax
import ParamQuery.Proofs.ValueIndependence
import ParamQuery.Proofs.FilterGrammar
import ParamQuery.Proofs.FilterMeaning
import ParamQuery.Proofs.Numerals
import ParamQuery.Proofs.QueryEncoding
import ParamQuery.Proofs.Tokens
import ParamQuery.Proofs.FirstEntries
import ParamQuery.Proofs.RequestTexts
import ParamQuery.Proofs.StatementForm
import ParamQuery.Proofs.ProblemList
import ParamQuery.Proofs.Registrations
import ParamQuery.Proofs.HiddenTokens
import ParamQuery.Proofs.ValueTypes
import ParamQuery.Proofs.PageBounds
import ParamQuery.Proofs.PageValues
import ParamQuery.Proofs.Number.Rounding
import ParamQuery.Proofs.Number.Nearest
import ParamQuery.Proofs.Number.CorrectRounding
import ParamQuery.Proofs.Number.LeadingDigits
import ParamQuery.Proofs.Number.LeadingInt
import ParamQuery.Proofs.Number.NumeralGrammar
import ParamQuery.Proofs.Number.LeadingFloat
import ParamQuery.Proofs.Calendar.DayNumber
import ParamQuery.Proofs.Calendar.EpochMillis
import ParamQuery.Proofs.ParameterShapes
import ParamQuery.Proofs.RegistryState
import ParamQuery.Proofs.CompilerReuse
import ParamQuery.Proofs.LaterJobs
import ParamQuery.Proofs.DateText.PaddedDigits
import ParamQuery.Proofs.DateText.Scanning
import ParamQuery.Proofs.DateText.IsoText
import ParamQuery.Proofs.DateText.NumeralWords
import ParamQuery.Proofs.DateText.FixedWidths
import ParamQuery.Proofs.DateText.NumeralFailures
import ParamQuery.Proofs.DateText.WordFailures
import ParamQuery.Proofs.DateText.Refusal
import ParamQuery.Proofs.DateText.IsoReading
import ParamQuery.Proofs.DateText.StatedOffset
import ParamQuery.Proofs.SelectionPipeline
import ParamQuery.Proofs.GroupIndependence
import ParamQuery.Proofs.OverlongPages
import ParamQuery.Proofs.TokenForms
import ParamQuery.Proofs.ReachableNames
import ParamQuery.Proofs.ConversionFailures
import ParamQuery.Proofs.Text.AsciiCase
import ParamQuery.Proofs.Keywords
import ParamQuery.Proofs.Number.IntTexts
import ParamQuery.Proofs.DateText.AnyTime
