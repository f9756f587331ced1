import RecordSchema.Binary64
import RecordSchema.Binary64.Digits
import RecordSchema.Calendar
import RecordSchema.Decimal
import RecordSchema.Host.Email
import RecordSchema.Host.Idna
import RecordSchema.Host.Ip
import RecordSchema.Host.Name
import RecordSchema.Host.Punycode
import RecordSchema.Host.Url
import RecordSchema.Json
import RecordSchema.Json.Number
import RecordSchema.Json.Printer
import RecordSchema.Json.Reader
import RecordSchema.Json.Source
import RecordSchema.Json.Token
import RecordSchema.OrderedMap
import RecordSchema.Pattern
import RecordSchema.Pattern.Bracket
import RecordSchema.Pattern.Escape
import RecordSchema.Pattern.Match
import RecordSchema.Pattern.Property
import RecordSchema.Pattern.Reader
import RecordSchema.Pattern.Size
import RecordSchema.Proofs.Calendar
import RecordSchema.Proofs.Document.Agreement
import RecordSchema.Proofs.Document.Collapse
import RecordSchema.Proofs.Document.Decoding
import RecordSchema.Proofs.Document.Grammar
import RecordSchema.Proofs.Document.Resolution
import RecordSchema.Proofs.Document.Tree
import RecordSchema.Proofs.Host.Ip
import RecordSchema.Proofs.Host.Name
import RecordSchema.Proofs.Number.Membership
import RecordSchema.Proofs.Number.Numeral
import RecordSchema.Proofs.Number.Overflow
import RecordSchema.Proofs.Number.Rounding
import RecordSchema.Proofs.OrderedMap
import RecordSchema.Proofs.Pattern.Language
import RecordSchema.Proofs.Report.RoundTrip
import RecordSchema.Proofs.Rule.Expression.Class
import RecordSchema.Proofs.Rule.Expression.Notation
import RecordSchema.Proofs.Rule.Expression.Numeral
import RecordSchema.Proofs.Rule.Expression.Url
import RecordSchema.Proofs.Rule.Fault
import RecordSchema.Proofs.Rule.Iso8601
import RecordSchema.Proofs.Rule.Length
import RecordSchema.Proofs.Rule.Notation
import RecordSchema.Proofs.Rule.NumberText
import RecordSchema.Proofs.Rule.Numeral
import RecordSchema.Proofs.Rule.Registry
import RecordSchema.Proofs.Rule.Shortcut
import RecordSchema.Proofs.Rule.Version
import RecordSchema.Proofs.Schema.History
import RecordSchema.Proofs.Schema.Provenance
import RecordSchema.Proofs.Text.Split
import RecordSchema.Proofs.Unicode.CharSet
import RecordSchema.Proofs.Unicode.Letters
import RecordSchema.Proofs.Validation.Absence
import RecordSchema.Proofs.Validation.Coercion
import RecordSchema.Proofs.Validation.Exactness
import RecordSchema.Proofs.Validation.Fault
import RecordSchema.Proofs.Validation.Locality
import RecordSchema.Proofs.Validation.Lowering
import RecordSchema.Proofs.Validation.Order
import RecordSchema.Proofs.Validation.Pass
import RecordSchema.Proofs.Validation.Relaxation
import RecordSchema.Proofs.Validation.Strictness
import RecordSchema.Proofs.Validation.Typing
import RecordSchema.Proofs.Validation.Virtual
import RecordSchema.Proofs.Value.Comparison
import RecordSchema.Proofs.Value.Equality
import RecordSchema.Proofs.Value.GeoPoint
import RecordSchema.Proofs.Value.Parts
import RecordSchema.Proofs.Value.RoundTrip
import RecordSchema.Proofs.Value.TaggedInt
import RecordSchema.Report
import RecordSchema.Rule
import RecordSchema.Rule.Check
import RecordSchema.Rule.Iso8601
import RecordSchema.Rule.Library
import RecordSchema.Rule.Notation
import RecordSchema.Rule.Numeral
import RecordSchema.Rule.Outline
import RecordSchema.Schema
import RecordSchema.Schema.Document
import RecordSchema.Schema.Loader
import RecordSchema.SchemaError
import RecordSchema.Text.Blank
import RecordSchema.Text.Split
import RecordSchema.Unicode.Age
import RecordSchema.Unicode.Bidi
import RecordSchema.Unicode.Boundary
import RecordSchema.Unicode.Case
import RecordSchema.Unicode.Category
import RecordSchema.Unicode.CharSet
import RecordSchema.Unicode.CodeMap
import RecordSchema.Unicode.Decomposition
import RecordSchema.Unicode.Folding
import RecordSchema.Unicode.Joining
import RecordSchema.Unicode.Normal
import RecordSchema.Unicode.Property
import RecordSchema.Unicode.Script
import RecordSchema.Validation
import RecordSchema.Value
import RecordSchema.Value.Document
