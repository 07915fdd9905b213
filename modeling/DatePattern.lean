import DatePattern.Cache
import DatePattern.Calendar.Civil
import DatePattern.Calendar.Collected
import DatePattern.Calendar.Era
import DatePattern.Calendar.Field
import DatePattern.Calendar.Fields
import DatePattern.Calendar.Resolve
import DatePattern.Calendar.Week
import DatePattern.Count
import DatePattern.Environment
import DatePattern.Format
import DatePattern.Instant
import DatePattern.Locale.Basic
import DatePattern.Locale.Builtin
import DatePattern.Locale.Style
import DatePattern.Locale.Symbols
import DatePattern.Names.Lexicon
import DatePattern.Names.TextMatcher
import DatePattern.Names.ZoneMatcher
import DatePattern.OnceMap
import DatePattern.Pattern.Error
import DatePattern.Pattern.Token
import DatePattern.Reading.Reader
import DatePattern.Reading.Rule
import DatePattern.Registry
import DatePattern.Text.Blank
import DatePattern.Text.Bytes
import DatePattern.Text.CaseFold
import DatePattern.Text.CodePoints
import DatePattern.Text.DecimalDigit
import DatePattern.Text.Digits
import DatePattern.Text.Lowercase
import DatePattern.Text.Printable
import DatePattern.Text.Quoted
import DatePattern.Timestamp.Day
import DatePattern.Timestamp.Encoder
import DatePattern.Timestamp.Layout
import DatePattern.Writing.Number
import DatePattern.Writing.Rule
import DatePattern.Zone.Americas
import DatePattern.Zone.AsiaPacific
import DatePattern.Zone.Basic
import DatePattern.Zone.Custom
import DatePattern.Zone.Database
import DatePattern.Zone.EuropeAfrica
import DatePattern.Zone.History
import DatePattern.Zone.Names
import DatePattern.Zone.OffsetForm
import DatePattern.Zone.Region
import DatePattern.Proofs.Calendar.Civil
import DatePattern.Proofs.Calendar.Week
import DatePattern.Proofs.Zone.Offsets
import DatePattern.Proofs.Calendar.Fields
import DatePattern.Proofs.Calendar.Resolve
import DatePattern.Proofs.Compile
import DatePattern.Proofs.Text.Digits
import DatePattern.Proofs.Text.CharClasses
import DatePattern.Proofs.Text.Taken
import DatePattern.Proofs.Timestamp.Midnight
import DatePattern.Proofs.Cache
import DatePattern.Proofs.Timestamp.Kept
import DatePattern.Proofs.Timestamp.WrittenDate
import DatePattern.Proofs.Timestamp.WrittenTime
import DatePattern.Proofs.Timestamp.Fresh
import DatePattern.Proofs.Timestamp.Layouts
import DatePattern.Proofs.Timestamp.Refinement
import DatePattern.Proofs.Names.Lexicon
import DatePattern.Proofs.Names.ZoneMatcher
import DatePattern.Proofs.Reading.Numeral
import DatePattern.Proofs.Zone.FirstShown
import DatePattern.Proofs.Zone.ReadBack
import DatePattern.Proofs.Zone.Recognized
import DatePattern.Proofs.Calendar.Ranges
import DatePattern.Proofs.Reading.Token
import DatePattern.Proofs.Reading.Legible
import DatePattern.Proofs.Reading.Findings
import DatePattern.Proofs.Reading.Resolved
import DatePattern.Proofs.Reading.Contract
import DatePattern.Proofs.RoundTrip
import DatePattern.Proofs.Pattern.Language
import DatePattern.Proofs.Pattern.Compiled
import DatePattern.Proofs.OnceMap
import DatePattern.Proofs.Computation
import DatePattern.Proofs.Registry.MadeFrom
import DatePattern.Proofs.Cache.Requests
import DatePattern.Proofs.Cache.Transparent
import DatePattern.Proofs.Pattern.Tokens
import DatePattern.Proofs.Zone.Steps
import DatePattern.Proofs.Timestamp.Hours
import DatePattern.Proofs.Timestamp.HourTable
import DatePattern.Proofs.Timestamp.TimeOfDay
import DatePattern.Proofs.Reckoning
import DatePattern.Proofs.Calendar.Dates
import DatePattern.Proofs.Calendar.WeekYears
import DatePattern.Proofs.Zone.Skipped
import DatePattern.Proofs.Calendar.Lenient
import DatePattern.Proofs.Reading.Readable
import DatePattern.Proofs.Names.LongestName
import DatePattern.Proofs.Names.ZoneTable
import DatePattern.Proofs.Reading.Marked
import DatePattern.Proofs.Registry.KeptNames
import DatePattern.Proofs.NamedTimes
import DatePattern.Proofs.Calendar.Order
import DatePattern.Proofs.Timestamp.Sorted
import DatePattern.Proofs.Reading.Shifted
import DatePattern.Proofs.Reading.Stopped
import DatePattern.Proofs.Text.SharedBytes
import DatePattern.Proofs.Reading.Blamed
import DatePattern.Proofs.Reading.Stored
import DatePattern.Proofs.Reading.Overlay
import DatePattern.Proofs.Reading.ShortYears
import DatePattern.Proofs.ShortDates
import DatePattern.Proofs.Reading.Origins
import DatePattern.Proofs.Reading.Steps
import DatePattern.Proofs.Instant.Exact
import DatePattern.Proofs.Zone.CustomNames
import DatePattern.Proofs.Zone.Identifiers
import DatePattern.Proofs.Calendar.Nanos
import DatePattern.Proofs.Writing.Estimate
import DatePattern.Proofs.Timestamp.SameText
import DatePattern.Proofs.Reading.Fraction
import DatePattern.Proofs.Text.PowerTable
import DatePattern.Proofs.OnceMap.FirstValues
import DatePattern.Proofs.Locale
