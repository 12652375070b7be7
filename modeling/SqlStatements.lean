import SqlStatements.Main
import SqlStatements.CommandLine.Run
import SqlStatements.CodedError
import SqlStatements.Console.Preview
import SqlStatements.Report
import SqlStatements.Files.Resource
import SqlStatements.Files.SettingsFile
import SqlStatements.Files.Disk
import SqlStatements.Files.Url
import SqlStatements.Encoding.Codec
import SqlStatements.Literal.Equality
import SqlStatements.Literal.RawValue
import SqlStatements.Literal.ScalarValue
import SqlStatements.Script.Collection
import SqlStatements.Json.Reader
import SqlStatements.Json.Writer
import SqlStatements.Decimal.Numeral
import SqlStatements.Lexical.Span
import SqlStatements.Script.Statements
import SqlStatements.Text.Quoted
import SqlStatements.Console.Handler.Expression
import SqlStatements.Proofs.Text.Cutting
import SqlStatements.Proofs.Lexical.Step
import SqlStatements.Proofs.Lexical.Label
import SqlStatements.Proofs.Lexical.Spans
import SqlStatements.Proofs.Lexical.Literal
import SqlStatements.Proofs.Lexical.Grammar
import SqlStatements.Proofs.Lexical.Seam
import SqlStatements.Proofs.Script.CommentRemoval
import SqlStatements.Proofs.Script.Trimming
import SqlStatements.Proofs.Script.Passes
import SqlStatements.Proofs.Script.SingleScan
import SqlStatements.Proofs.Script.QuoteSafety
import SqlStatements.Proofs.Script.Pieces
import SqlStatements.Proofs.Script.Concatenation
import SqlStatements.Proofs.Script.Words
import SqlStatements.Proofs.Script.Triggers
import SqlStatements.Proofs.Script.Joining
import SqlStatements.Proofs.Script.Ink
import SqlStatements.Proofs.Script.Conservation
import SqlStatements.Proofs.Script.Tidy
import SqlStatements.Proofs.Script.TrimmedStatements
import SqlStatements.Proofs.Script.Rejoining
import SqlStatements.Proofs.Script.Transparency
import SqlStatements.Proofs.Script.GluedLiterals
import SqlStatements.Proofs.Lexical.Markers
import SqlStatements.Proofs.Script.GluedMarkers
import SqlStatements.Proofs.Lexical.LineBreaks
import SqlStatements.Proofs.Script.LineBreaks
import SqlStatements.Proofs.Script.Identifiers
import SqlStatements.Proofs.Lexical.LetterCase
import SqlStatements.Proofs.Script.LetterCase
import SqlStatements.Proofs.Decimal.Interval
import SqlStatements.Proofs.Decimal.Shortest
import SqlStatements.Proofs.Literal.SelfContained
import SqlStatements.Proofs.Literal.Injective
import SqlStatements.Proofs.Script.Spacing
import SqlStatements.Proofs.Console.Markup
import SqlStatements.Proofs.Console.Tagged
import SqlStatements.Proofs.Console.Printing
import SqlStatements.Proofs.CommandLine.Failures
import SqlStatements.Proofs.Check
import SqlStatements.Proofs.CommandLine.Checking
import SqlStatements.Proofs.Encoding.Utf8
import SqlStatements.Proofs.Files.Url
import SqlStatements.Proofs.Files.Loading
import SqlStatements.Proofs.Files.SettingsFile
import SqlStatements.Proofs.Files.FileUrl
import SqlStatements.Proofs.Decimal.Whole
import SqlStatements.Proofs.Literal.RawValue
import SqlStatements.Proofs.Literal.Conversion
import SqlStatements.Proofs.Files.Resource
import SqlStatements.Proofs.Lexical.Loop
import SqlStatements.Proofs.Lexical.Covering
import SqlStatements.Proofs.Lexical.Resuming
