import GeoFilter.Main
import GeoFilter.Program.Workspace
import GeoFilter.Report
import GeoFilter.Session
import GeoFilter.Value.Notation
import GeoFilter.Proofs.Parser.Outcome
import GeoFilter.Proofs.Parser.Budget
import GeoFilter.Proofs.Parser.Soundness.Expression
import GeoFilter.Proofs.Parser.Soundness.Filter
import GeoFilter.Proofs.Parser.Completeness.Expression
import GeoFilter.Proofs.Parser.Completeness.Filter
import GeoFilter.Proofs.Parser.Accepted
import GeoFilter.Proofs.Lexer.Cuts
import GeoFilter.Proofs.Lexer.Append
import GeoFilter.Proofs.Lexer.Pieces
import GeoFilter.Proofs.Composition
import GeoFilter.Proofs.Acceptance
import GeoFilter.Proofs.Number.Rounding
import GeoFilter.Proofs.Number.ReadBack
import GeoFilter.Proofs.Number.Notation
import GeoFilter.Proofs.Parser.Grammar
import GeoFilter.Proofs.Number.Double
import GeoFilter.Proofs.Lexer.Yields
import GeoFilter.Proofs.Printer.Number
import GeoFilter.Proofs.Geometry.ReadBack
import GeoFilter.Proofs.Printer.Geometry
import GeoFilter.Proofs.Printer.Expression
import GeoFilter.Proofs.Printer.Filter
import GeoFilter.Proofs.Printer.Built
import GeoFilter.Proofs.RoundTrip
import GeoFilter.Proofs.Attributes
import GeoFilter.Proofs.Parser.Threshold.Expression
import GeoFilter.Proofs.Parser.Threshold.Filter
import GeoFilter.Proofs.Threshold
import GeoFilter.Proofs.Parser.Open.Basic
import GeoFilter.Proofs.Parser.Open.Refused
import GeoFilter.Proofs.Parser.Open.Exceeded.Expression
import GeoFilter.Proofs.Parser.Open.Exceeded.Filter
import GeoFilter.Proofs.Nesting
import GeoFilter.Proofs.Missing
import GeoFilter.Proofs.Number.ZeroSign
import GeoFilter.Proofs.Geometry.ZeroSign
import GeoFilter.Proofs.Equality
import GeoFilter.Proofs.Printer.Meaning
import GeoFilter.Proofs.Input.Lines
import GeoFilter.Proofs.Input.Records
import GeoFilter.Proofs.Program.Filter
import GeoFilter.Proofs.Cursor
import GeoFilter.Proofs.Metrics
import GeoFilter.Proofs.Session
import GeoFilter.Proofs.Comparison
import GeoFilter.Proofs.Parser.Located.Basic
import GeoFilter.Proofs.Parser.Located.Expression
import GeoFilter.Proofs.Parser.Located.Filter
import GeoFilter.Proofs.Location
import GeoFilter.Proofs.Geometry.Tokens
import GeoFilter.Proofs.Geometry.Nesting
import GeoFilter.Proofs.Geometry.Reading
import GeoFilter.Proofs.Geometry.Shapes
import GeoFilter.Proofs.Geometry.RoundTrip
import GeoFilter.Proofs.Regex
import GeoFilter.Proofs.Like
import GeoFilter.Proofs.Complement
import GeoFilter.Proofs.Comparison.NaN
import GeoFilter.Proofs.Arithmetic
import GeoFilter.Proofs.AbsentLiteral
import GeoFilter.Proofs.Text.Letters
import GeoFilter.Proofs.Number.LetterCase
import GeoFilter.Proofs.Geometry.Consumed
import GeoFilter.Proofs.Lexer.LetterCase
import GeoFilter.Proofs.Lexer.Literal
import GeoFilter.Proofs.Lexer.Recased
import GeoFilter.Proofs.LetterCase
import GeoFilter.Proofs.Dictionary
import GeoFilter.Proofs.Record.Edits
import GeoFilter.Proofs.Record.AbsentAttribute
import GeoFilter.Proofs.Geometry.LetterCase
import GeoFilter.Proofs.GeometryText
import GeoFilter.Proofs.Planar.Pattern
import GeoFilter.Proofs.Spatial
import GeoFilter.Proofs.Lexer.Numeral
import GeoFilter.Proofs.Lexer.Failure
import GeoFilter.Proofs.Shell
import GeoFilter.Proofs.Caret
import GeoFilter.Proofs.Number.Integer
import GeoFilter.Proofs.Input.GeometryField
import GeoFilter.Proofs.Input.Identity
